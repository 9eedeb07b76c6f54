namespace PageGraph.Numeral

def digits? : List Char → Option Nat
  | [] => none
  | cs => if cs.all Char.isDigit then some (cs.foldl (fun n c => 10 * n + (c.toNat - 48)) 0) else none

def read? (bits : Nat) (s : String) : Option Nat :=
  let cs := match s.toList with
    | '+' :: cs => cs
    | cs => cs
  (digits? cs).filter (· < Nat.pow 2 bits)

def hexDigit? (c : Char) : Option Nat :=
  if c.isDigit then some (c.toNat - 48)
  else if 'a' ≤ c && c ≤ 'f' then some (c.toNat - 87)
  else if 'A' ≤ c && c ≤ 'F' then some (c.toNat - 55)
  else none

def readUInt32? (s : String) : Option UInt32 :=
  (read? 32 s).map Nat.toUInt32

def readUInt64? (s : String) : Option UInt64 :=
  (read? 64 s).map Nat.toUInt64

end PageGraph.Numeral
