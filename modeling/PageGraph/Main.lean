import PageGraph.Command.Execution

namespace PageGraph.Command

def readText (path : String) : IO (Option String) := do
  try
    return String.fromUTF8? (← IO.FS.readBinFile path)
  catch _ => return none

def environment : IO Config.Environment := do
  return {
    configPath := ← IO.getEnv "DOMCYPHER_CONFIG"
    userAgent := ← IO.getEnv "DOMCYPHER_USER_AGENT"
    timeoutSeconds := ← IO.getEnv "DOMCYPHER_FETCH_TIMEOUT_SECS"
    topK := ← IO.getEnv "DOMCYPHER_TOP_K" }

def noNetwork : Fetcher IO := fun url =>
  return .error (.request url "no network")

end PageGraph.Command

open PageGraph in
def main (args : List String) : IO UInt32 := do
  match Command.ofArguments args with
  | .error e =>
    IO.eprintln e.message
    return 2
  | .ok command =>
    let world : World IO := ⟨Command.readText, ← Command.environment, Command.noNetwork⟩
    match ← command.execute world with
    | .ok output =>
      IO.println output.toText
      return 0
    | .error (.run (.fault e)) =>
      IO.eprintln e.message
      return 101
    | .error e =>
      IO.eprintln ("Error: " ++ e.message)
      return 1
