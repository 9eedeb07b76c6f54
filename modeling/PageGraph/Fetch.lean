import PageGraph.Text.Blank

namespace PageGraph

inductive FetchError where
  | request (url detail : String)
  | status (url : String) (code : Nat)
  | emptyBody (url : String)
  deriving DecidableEq, Repr

def FetchError.message : FetchError → String
  | .request url detail => "Fetch error: request to " ++ url ++ " failed: " ++ detail
  | .status url code => "Fetch error: " ++ url ++ " answered with HTTP " ++ toString code
  | .emptyBody url => "Fetch error: " ++ url ++ " returned an empty body"

abbrev Fetcher (m : Type → Type) := String → m (Except FetchError String)

structure PageStore where
  pages : List (String × String) := []

namespace PageStore

def put (s : PageStore) (url page : String) : PageStore :=
  ⟨(url, page) :: s.pages⟩

/-- An unknown URL answers that there is no such page, and a blank page counts as none. -/
def fetch (s : PageStore) (url : String) : Except FetchError String :=
  match s.pages.lookup url with
  | none => .error (.status url 404)
  | some page => if (Text.trim page).isEmpty then .error (.emptyBody url) else .ok page

end PageStore

end PageGraph
