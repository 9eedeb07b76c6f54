import PageGraph.Text.LowerCase

namespace PageGraph

inductive Label where
  | title
  | link
  | linkList
  | grid
  deriving DecidableEq, Repr

namespace Label

def name : Label → String
  | .title => "title"
  | .link => "link"
  | .linkList => "linklist"
  | .grid => "grid"

def all : List Label :=
  [.title, .link, .linkList, .grid]

def ofName? (s : String) : Option Label :=
  all.find? (·.name = s)

def ofSpelling? (s : String) : Option Label :=
  ofName? (Text.lower (String.ofList (s.toList.filter fun c => c ≠ '_' && c ≠ '-')))

theorem ofName?_name (l : Label) : ofName? l.name = some l := by
  cases l <;> rfl

end Label

structure LabelSet where
  toList : List Label
  nodup : toList.Nodup
  deriving DecidableEq, Repr

namespace LabelSet

def empty : LabelSet :=
  ⟨[], List.nodup_nil⟩

def contains (s : LabelSet) (l : Label) : Bool :=
  s.toList.contains l

def first? (s : LabelSet) : Option Label :=
  s.toList.head?

def isEmpty (s : LabelSet) : Bool :=
  s.toList.isEmpty

def meets (s : LabelSet) (labels : List Label) : Bool :=
  s.toList.any labels.contains

def addFront (s : LabelSet) (l : Label) : LabelSet :=
  if h : l ∈ s.toList then s else ⟨l :: s.toList, List.nodup_cons.mpr ⟨h, s.nodup⟩⟩

def addBack (s : LabelSet) (l : Label) : LabelSet :=
  if h : l ∈ s.toList then s
  else ⟨s.toList ++ [l], by
    refine List.nodup_append.mpr ⟨s.nodup, by simp, ?_⟩
    intro a ha b hb hab
    rw [List.mem_singleton.mp hb] at hab
    exact h (hab ▸ ha)⟩

def ofList (labels : List Label) : LabelSet :=
  labels.foldl addBack empty

theorem contains_iff (s : LabelSet) (l : Label) : s.contains l = true ↔ l ∈ s.toList := by
  simp [contains]

theorem mem_addFront (s : LabelSet) (l m : Label) :
    m ∈ (s.addFront l).toList ↔ m = l ∨ m ∈ s.toList := by
  unfold addFront
  split
  · next h =>
    constructor
    · exact Or.inr
    · rintro (rfl | hm)
      · exact h
      · exact hm
  · simp

theorem mem_addBack (s : LabelSet) (l m : Label) :
    m ∈ (s.addBack l).toList ↔ m = l ∨ m ∈ s.toList := by
  unfold addBack
  split
  · next h =>
    constructor
    · exact Or.inr
    · rintro (rfl | hm)
      · exact h
      · exact hm
  · simp [or_comm]

end LabelSet

end PageGraph
