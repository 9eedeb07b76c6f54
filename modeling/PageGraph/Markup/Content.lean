namespace PageGraph.Markup

inductive Content where
  | text (s : String)
  | comment (s : String)
  | element (tag : String) (attributes : List (String × String)) (children : List Content)
  deriving Repr

structure Document where
  attributes : List (String × String)
  children : List Content
  deriving Repr

namespace Content

def isElement : Content → Bool
  | .element .. => true
  | _ => false

mutual

def texts : Content → List String
  | .text s => [s]
  | .comment _ => []
  | .element _ _ children => textsOfAll children

def textsOfAll : List Content → List String
  | [] => []
  | c :: cs => c.texts ++ textsOfAll cs

end

mutual

def size : Content → Nat
  | .text _ => 1
  | .comment _ => 1
  | .element _ _ children => 1 + sizeOfAll children

def sizeOfAll : List Content → Nat
  | [] => 0
  | c :: cs => c.size + sizeOfAll cs

end

theorem size_pos (c : Content) : 0 < c.size := by
  cases c with
  | text s => exact Nat.one_pos
  | comment s => exact Nat.one_pos
  | element tag attributes children =>
    rw [size]
    omega

end Content

end PageGraph.Markup
