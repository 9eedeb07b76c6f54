import PageGraph.Query.Token

/-!
Phrases. A type of phrases stands for a rule of a grammar: its members are the
derivations of the rule, each with the tokens that it derives. Products are sequences, options and
lists are what may be left out or repeated, and sums are alternatives.
-/

namespace PageGraph.Query

class Phrase (α : Type) where
  tokens : α → List Token

open Phrase

abbrev Lexeme (p : Token → Bool) : Type :=
  {t : Token // p t = true}

structure Spelled {β : Type} (spells : β → Token → Prop) where
  meaning : β
  token : Token
  isSpelled : spells meaning token

instance {p : Token → Bool} : Phrase (Lexeme p) :=
  ⟨fun t => [t.1]⟩

instance {β : Type} {spells : β → Token → Prop} : Phrase (Spelled spells) :=
  ⟨fun s => [s.token]⟩

instance {α β : Type} [Phrase α] [Phrase β] : Phrase (α × β) :=
  ⟨fun x => tokens x.1 ++ tokens x.2⟩

instance {α β : Type} [Phrase α] [Phrase β] : Phrase (α ⊕ β) :=
  ⟨Sum.elim tokens tokens⟩

instance {α : Type} [Phrase α] : Phrase (Option α) :=
  ⟨fun o => o.elim [] tokens⟩

instance {α : Type} [Phrase α] : Phrase (List α) :=
  ⟨List.flatMap tokens⟩

@[simp] theorem tokens_lexeme {p : Token → Bool} (t : Lexeme p) : tokens t = [t.1] := rfl

@[simp] theorem tokens_spelled {β : Type} {spells : β → Token → Prop} (s : Spelled spells) :
    tokens s = [s.token] := rfl

section

variable {α β : Type} [Phrase α] [Phrase β]

@[simp] theorem tokens_pair (a : α) (b : β) : tokens (a, b) = tokens a ++ tokens b := rfl

@[simp] theorem tokens_inl (a : α) : tokens (.inl a : α ⊕ β) = tokens a := rfl

@[simp] theorem tokens_inr (b : β) : tokens (.inr b : α ⊕ β) = tokens b := rfl

@[simp] theorem tokens_none : tokens (none : Option α) = [] := rfl

@[simp] theorem tokens_some (a : α) : tokens (some a) = tokens a := rfl

@[simp] theorem tokens_nil : tokens ([] : List α) = [] := rfl

@[simp] theorem tokens_cons (a : α) (as : List α) : tokens (a :: as) = tokens a ++ tokens as := rfl

end

def opens (p : Token → Bool) (ts : List Token) : Bool :=
  ts.head?.any p

@[simp] theorem opens_nil (p : Token → Bool) : opens p [] = false := rfl

@[simp] theorem opens_cons (p : Token → Bool) (t : Token) (ts : List Token) :
    opens p (t :: ts) = p t := rfl

theorem opens_or_eq_false {p q : Token → Bool} {ts : List Token} :
    opens (fun t => p t || q t) ts = false ↔ opens p ts = false ∧ opens q ts = false := by
  cases ts with
  | nil => exact ⟨fun _ => ⟨rfl, rfl⟩, fun _ => rfl⟩
  | cons t ts => exact Bool.or_eq_false_iff

theorem exists_of_opens {p : Token → Bool} {ts : List Token} (h : opens p ts = true) :
    ∃ t rest, ts = t :: rest ∧ p t = true := by
  cases ts with
  | nil => contradiction
  | cons t rest => exact ⟨t, rest, rfl, h⟩

def never (_ : Token) : Bool :=
  false

@[simp] theorem never_eq (t : Token) : never t = false := rfl

@[simp] theorem opens_never (ts : List Token) : opens never ts = false := by
  cases ts <;> rfl

end PageGraph.Query
