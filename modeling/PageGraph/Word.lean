namespace PageGraph

/-- Why a computation on words below `2 ^ 64` stops the program. -/
inductive Fault where
  | sumTooLarge
  | differenceNegative
  deriving DecidableEq, Repr

def Fault.message : Fault → String
  | .sumTooLarge => "attempt to add with overflow"
  | .differenceNegative => "attempt to subtract with overflow"

namespace Word

def add (a b : Nat) : Except Fault Nat :=
  if a + b < UInt64.size then .ok (a + b) else .error .sumTooLarge

def sub (a b : Nat) : Except Fault Nat :=
  if b ≤ a then .ok (a - b) else .error .differenceNegative

end Word

end PageGraph
