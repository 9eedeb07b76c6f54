namespace PageGraph

/-- A positive double, given by its bits. Positive doubles are ordered as their bits are. -/
structure Score where
  bits : Nat
  deriving DecidableEq, Repr

namespace Score

/-- The whole number nearest to `n / d`; of two that are equally near the even one. -/
def roundDiv (n d : Nat) : Nat :=
  let q := n / d
  let r := n % d
  if 2 * r < d then q else if d < 2 * r then q + 1 else q + q % 2

def scale (n d : Nat) : Nat :=
  let e := 52 + d.log2 - n.log2
  if n <<< e < d <<< 52 then e + 1 else e

def ofRatio (n d : Nat) : Score :=
  let e := scale n d
  ⟨(1074 - e) <<< 52 + roundDiv (n <<< e) d⟩

def one : Score :=
  ofRatio 1 1

def hex (s : Score) : String :=
  let digits := Nat.toDigits 16 s.bits
  String.ofList (List.replicate (16 - digits.length) '0' ++ digits)

/-- The exponent `e` and the whole number `m` for which the score is `m / 2 ^ e`. -/
def parts (s : Score) : Nat × Nat :=
  (1075 - s.bits >>> 52, 1 <<< 52 + s.bits % 1 <<< 52)

def atPlaces (s : Score) (places : Nat) : Nat :=
  let (e, m) := s.parts
  roundDiv (m * Nat.pow 10 places) (1 <<< e)

/-- The decimal fraction with the fewest places that reads back as the score. -/
def decimal (s : Score) : String :=
  let readsBack := fun places => ofRatio (s.atPlaces places) (Nat.pow 10 places) = s
  let places := ((List.range 350).find? fun n => 0 < n && readsBack n).getD 350
  let digits := toString (s.atPlaces places % Nat.pow 10 places)
  let zeros := String.ofList (List.replicate (places - digits.length) '0')
  toString (s.atPlaces places / Nat.pow 10 places) ++ "." ++ zeros ++ digits

end Score

end PageGraph
