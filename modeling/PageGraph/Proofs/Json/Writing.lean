import Mathlib.Tactic.SplitIfs
import PageGraph.Json.Reader
import PageGraph.Json.Writer
import PageGraph.Proofs.Numeral

namespace PageGraph.Json

section Strings

variable {c : Char} {cs text rest : List Char}

theorem readString_plain (hquote : c ≠ '"') (hslash : c ≠ '\\') (hc : ¬ c.toNat < 0x20)
    (h : readString cs = some (some text, rest)) :
    readString (c :: cs) = some (some (c :: text), rest) := by
  simp [readString, hslash, hc, h]

theorem readString_simple {e : Char} (he : e ≠ 'u') (hc : simpleEscape? e = some c)
    (h : readString cs = some (some text, rest)) :
    readString ('\\' :: e :: cs) = some (some (c :: text), rest) := by
  simp [readString, he, hc, h]

theorem readString_unit {a b d e : Char} {u : Nat} (hu : unit? a b d e = some u)
    (hhigh : isHighSurrogate u = false) (hlow : isLowSurrogate u = false)
    (h : readString cs = some (some text, rest)) :
    readString ('\\' :: 'u' :: a :: b :: d :: e :: cs) = some (some (Char.ofNat u :: text), rest) := by
  by_cases hnext : ∃ a' b' d' e' cs', cs = '\\' :: 'u' :: a' :: b' :: d' :: e' :: cs'
  · obtain ⟨a', b', d', e', cs', rfl⟩ := hnext
    simp [readString, hu, hhigh, hlow, h]
  · simp only [not_exists] at hnext
    simp [readString, hu, hhigh, hlow, h]

theorem escapeChar_cases (c : Char) :
    (escapeChar c = [c] ∧ c ≠ '"' ∧ c ≠ '\\' ∧ ¬ c.toNat < 0x20) ∨
      (∃ e, escapeChar c = ['\\', e] ∧ e ≠ 'u' ∧ simpleEscape? e = some c) ∨
      ∃ a b, escapeChar c = ['\\', 'u', '0', '0', a, b] ∧ unit? '0' '0' a b = some c.toNat ∧
        c.toNat < 0x20 := by
  unfold escapeChar
  split_ifs with hquote hslash hb hf hn hr ht hc
  · exact .inr (.inl ⟨'"', rfl, by decide, by rw [hquote]; rfl⟩)
  · exact .inr (.inl ⟨'\\', rfl, by decide, by rw [hslash]; rfl⟩)
  · exact .inr (.inl ⟨'b', rfl, by decide, by rw [hb]; rfl⟩)
  · exact .inr (.inl ⟨'f', rfl, by decide, by rw [hf]; rfl⟩)
  · exact .inr (.inl ⟨'n', rfl, by decide, by rw [hn]; rfl⟩)
  · exact .inr (.inl ⟨'r', rfl, by decide, by rw [hr]; rfl⟩)
  · exact .inr (.inl ⟨'t', rfl, by decide, by rw [ht]; rfl⟩)
  · have hdigits : ∀ k < 32,
        unit? '0' '0' (k / 16).digitChar (k % 16).digitChar = some k := by decide
    refine .inr (.inr ⟨(c.toNat / 16).digitChar, (c.toNat % 16).digitChar, ?_, hdigits _ hc, hc⟩)
    rw [Nat.toDigits_of_lt_base (by omega), Nat.toDigits_of_lt_base (by omega)]
    rfl
  · exact .inl ⟨rfl, hquote, hslash, hc⟩

theorem readString_escapeChar (h : readString cs = some (some text, rest)) :
    readString (escapeChar c ++ cs) = some (some (c :: text), rest) := by
  rcases escapeChar_cases c with ⟨he, hquote, hslash, hc⟩ | ⟨e, he, hu, hc⟩ | ⟨a, b, he, hunit, hc⟩
  · rw [he]
    exact readString_plain hquote hslash hc h
  · rw [he]
    exact readString_simple hu hc h
  · have hhigh : isHighSurrogate c.toNat = false := by simp [isHighSurrogate]; omega
    have hlow : isLowSurrogate c.toNat = false := by simp [isLowSurrogate]; omega
    rw [he, ← Char.ofNat_toNat c]
    exact readString_unit hunit hhigh hlow h

theorem readString_flatMap (text rest : List Char) :
    readString (text.flatMap escapeChar ++ '"' :: rest) = some (some text, rest) := by
  induction text with
  | nil => rfl
  | cons c text ih =>
    rw [List.flatMap_cons, List.append_assoc]
    exact readString_escapeChar ih

end Strings

def Stops (rest : List Char) : Prop :=
  ∀ c ∈ rest.head?, c.isDigit = false ∧ c ≠ '.' ∧ c ≠ 'e' ∧ c ≠ 'E'

section Numbers

variable {ds rest : List Char}

theorem readDigits_append (hall : ∀ d ∈ ds, d.isDigit = true) (hne : ds ≠ []) (h : Stops rest) :
    readDigits (ds ++ rest) = some (ds, rest) := by
  have htake : rest.takeWhile Char.isDigit = [] := by
    cases rest with
    | nil => rfl
    | cons c rest => simp [(h c rfl).1]
  have hdrop : rest.dropWhile Char.isDigit = rest := by
    cases rest with
    | nil => rfl
    | cons c rest => simp [(h c rfl).1]
  rw [readDigits, List.takeWhile_append_of_pos hall, List.dropWhile_append_of_pos hall, htake, hdrop]
  simp [hne]

theorem readWhole_toDigits (n : Nat) (h : Stops rest) :
    readWhole (Nat.toDigits 10 n ++ rest) = some (Nat.toDigits 10 n, rest) := by
  have hread :=
    readDigits_append (fun _ => Numeral.isDigit_of_mem_toDigits) (Nat.toDigits_ne_nil (n := n)) h
  obtain ⟨d, ds, hdigits, -⟩ := Numeral.toDigits_eq_cons n
  rw [hdigits] at hread ⊢
  by_cases hd : d = '0'
  · subst hd
    have hn := Numeral.eq_zero_of_toDigits hdigits
    subst hn
    cases hdigits
    have hnone : rest.head?.any Char.isDigit = false := by
      cases rest with
      | nil => rfl
      | cons c rest => simp [(h c rfl).1]
    simp [readWhole, hnone]
  · rw [List.cons_append] at hread ⊢
    simp [readWhole, hd, hread]

theorem readFraction_stops (h : Stops rest) : readFraction rest = some ([], rest) := by
  cases rest with
  | nil => rfl
  | cons c rest => simp [readFraction, (h c rfl).2.1]

theorem readExponent_stops (h : Stops rest) : readExponent rest = some ([], rest) := by
  cases rest with
  | nil => rfl
  | cons c rest =>
    obtain ⟨_, _, he, hE⟩ := h c rfl
    simp [readExponent, he, hE]

theorem readNumber_toDigits (n : Nat) (h : Stops rest) :
    readNumber (Nat.toDigits 10 n ++ rest) = some (ofNat n, rest) := by
  have hwhole := readWhole_toDigits n h
  have hnumber : ofNat n = .number (String.ofList (Nat.toDigits 10 n)) := by
    rw [ofNat, Nat.toString_eq_ofList_toDigits]
  obtain ⟨d, ds, hdigits, hd⟩ := Numeral.toDigits_eq_cons n
  have hsign : d ≠ '-' := by
    rintro rfl
    contradiction
  rw [hdigits, List.cons_append] at hwhole
  rw [hnumber, hdigits, List.cons_append]
  simp [readNumber, hsign, hwhole, readFraction_stops h, readExponent_stops h]

end Numbers

theorem skipBlank_cons {c : Char} (h : isBlank c = false) (cs : List Char) :
    skipBlank (c :: cs) = c :: cs := by
  simp [skipBlank, h]

inductive Plain : Json → Prop where
  | null : Plain .null
  | bool (b : Bool) : Plain (.bool b)
  | number (n : Nat) : Plain (ofNat n)
  | string (s : String) : Plain (.string s)
  | array {items : List Json} (h : ∀ i ∈ items, Plain i) : Plain (.array items)
  | object {fields : List (String × Json)} (h : ∀ f ∈ fields, Plain f.2) : Plain (.object fields)

theorem plain_ofTexts (texts : List String) : Plain (ofTexts texts) := by
  refine .array fun i hi => ?_
  obtain ⟨text, -, rfl⟩ := List.mem_map.mp hi
  exact .string text

section Texts

def chars (j : Json) : List Char :=
  (render j).toList

def entry (f : String × Json) : List Char :=
  '"' :: (f.1.toList.flatMap escapeChar ++ '"' :: ':' :: f.2.chars)

def joined (texts : List (List Char)) : List Char :=
  [','].intercalate texts

theorem joined_singleton (text : List Char) : joined [text] = text := by
  rw [joined, List.intercalate_singleton]

theorem joined_cons_cons (text next : List Char) (texts : List (List Char)) :
    joined (text :: next :: texts) = text ++ ',' :: joined (next :: texts) := by
  rw [joined, List.intercalate_cons_cons, List.append_assoc]
  rfl

theorem renderItems_eq_map (items : List Json) : renderItems items = items.map render := by
  induction items with
  | nil => rfl
  | cons i items ih => rw [renderItems, ih, List.map_cons]

theorem toList_renderFields (fields : List (String × Json)) :
    (renderFields fields).map String.toList = fields.map entry := by
  induction fields with
  | nil => rfl
  | cons f fields ih =>
    rw [renderFields, List.map_cons, List.map_cons, ih, entry]
    simp [literal, chars]

theorem chars_string (s : String) :
    (string s).chars = '"' :: (s.toList.flatMap escapeChar ++ ['"']) := by
  simp [chars, render, literal]

theorem chars_ofNat (n : Nat) : (ofNat n).chars = Nat.toDigits 10 n :=
  Nat.toList_repr

theorem chars_array (items : List Json) :
    (array items).chars = '[' :: (joined (items.map chars) ++ [']']) := by
  have hitems : items.map chars = (renderItems items).map String.toList := by
    rw [renderItems_eq_map, List.map_map]
    rfl
  rw [hitems]
  simp [chars, joined, render, String.toList_intercalate]

theorem chars_object (fields : List (String × Json)) :
    (object fields).chars = '\x7b' :: (joined (fields.map entry) ++ ['\x7d']) := by
  simp [chars, joined, render, String.toList_intercalate, toList_renderFields]

end Texts

def Readable (j : Json) : Prop :=
  ∀ n rest, j.chars.length ≤ n → Stops rest → readValue n (j.chars ++ rest) = some (j, rest)

theorem stops_cons {c : Char} (h : c = ',' ∨ c = ']' ∨ c = '\x7d') (cs : List Char) :
    Stops (c :: cs) := by
  rintro d ⟨⟩
  rcases h with rfl | rfl | rfl <;> decide

theorem readItems_joined {items : List Json} (hitems : ∀ i ∈ items, i.Readable) (hne : items ≠ [])
    {n : Nat} (hn : (joined (items.map chars)).length < n) (rest : List Char) :
    readItems n (joined (items.map chars) ++ ']' :: rest) = some (items, rest) := by
  induction items generalizing n with
  | nil => contradiction
  | cons i items ih =>
    obtain ⟨n, rfl⟩ := Nat.exists_eq_succ_of_ne_zero (Nat.ne_zero_of_lt hn)
    obtain ⟨hi, hitems⟩ := List.forall_mem_cons.mp hitems
    cases items with
    | nil =>
      rw [List.map_singleton, joined_singleton] at hn ⊢
      rw [readItems, hi n (']' :: rest) (Nat.le_of_lt_succ hn) (stops_cons (by simp) rest)]
      rfl
    | cons i' items =>
      rw [List.map_cons, List.map_cons, joined_cons_cons, ← List.map_cons] at hn ⊢
      rw [List.length_append, List.length_cons] at hn
      have hrest := ih hitems (List.cons_ne_nil _ _) (n := n) (by omega)
      rw [List.append_assoc, List.cons_append, readItems, hi n _ (by omega) (stops_cons (by simp) _)]
      simp only [Option.bind_eq_bind, Option.bind_some, skipBlank_cons (c := ',') rfl, hrest]
      rfl

theorem readFields_entry {f : String × Json} (hf : f.2.Readable) {n : Nat}
    (hn : (entry f).length ≤ n + 1) {rest : List Char} (hrest : Stops rest) :
    readFields (n + 1) (entry f ++ rest) =
      match skipBlank rest with
      | ',' :: cs => (readFields n cs).map fun r => (r.1.map (f :: ·), r.2)
      | '\x7d' :: cs => some (some [f], cs)
      | _ => none := by
  rw [entry, List.length_cons, List.length_append, List.length_cons, List.length_cons] at hn
  have hname := readString_flatMap f.1.toList (':' :: (f.2.chars ++ rest))
  have hvalue := hf n rest (by omega) hrest
  rw [entry, List.cons_append, List.append_assoc, List.cons_append, List.cons_append, readFields,
    skipBlank_cons rfl]
  simp only [hname, hvalue, Option.bind_eq_bind, Option.bind_some, skipBlank_cons (c := ':') rfl,
    Option.map_some, String.ofList_toList]
  generalize skipBlank rest = behind
  split
  · simp only [Option.map_eq_bind]
    rfl
  · rfl
  · simp only

theorem readFields_joined {fields : List (String × Json)} (hfields : ∀ f ∈ fields, f.2.Readable)
    (hne : fields ≠ []) {n : Nat} (hn : (joined (fields.map entry)).length < n) (rest : List Char) :
    readFields n (joined (fields.map entry) ++ '\x7d' :: rest) = some (some fields, rest) := by
  induction fields generalizing n with
  | nil => contradiction
  | cons f fields ih =>
    obtain ⟨n, rfl⟩ := Nat.exists_eq_succ_of_ne_zero (Nat.ne_zero_of_lt hn)
    obtain ⟨hf, hfields⟩ := List.forall_mem_cons.mp hfields
    cases fields with
    | nil =>
      rw [List.map_singleton, joined_singleton] at hn ⊢
      rw [readFields_entry hf (Nat.le_of_lt hn) (stops_cons (by simp) rest)]
      rfl
    | cons f' fields =>
      rw [List.map_cons, List.map_cons, joined_cons_cons, ← List.map_cons] at hn ⊢
      rw [List.length_append, List.length_cons] at hn
      have hrest := ih hfields (List.cons_ne_nil _ _) (n := n) (by omega)
      rw [List.append_assoc, List.cons_append, readFields_entry hf (by omega) (stops_cons (by simp) _),
        skipBlank_cons (c := ',') rfl]
      simp only [hrest]
      rfl

theorem isBlank_of_isDigit {c : Char} (h : c.isDigit = true) : isBlank c = false := by
  simp only [isBlank, Bool.or_eq_false_iff, decide_eq_false_iff_not]
  refine ⟨⟨⟨?_, ?_⟩, ?_⟩, ?_⟩ <;> (rintro rfl; contradiction)

theorem readValue_digit {d : Char} (hd : d.isDigit = true) (n : Nat) (cs : List Char) :
    readValue (n + 1) (d :: cs) = readNumber (d :: cs) := by
  rw [readValue, skipBlank_cons (isBlank_of_isDigit hd)]
  -- Every other form of value is told by a first character that is no digit.
  split
  case h_7 => rfl
  all_goals
    next h =>
      rw [(List.cons.inj h).1] at hd
      contradiction

theorem Plain.chars_eq_cons {j : Json} (h : Plain j) :
    ∃ c cs, j.chars = c :: cs ∧ isBlank c = false ∧ c ≠ ']' := by
  cases h with
  | null => exact ⟨'n', _, rfl, rfl, by decide⟩
  | bool b =>
    cases b
    · exact ⟨'f', _, rfl, rfl, by decide⟩
    · exact ⟨'t', _, rfl, rfl, by decide⟩
  | number n =>
    obtain ⟨d, ds, hdigits, hd⟩ := Numeral.toDigits_eq_cons n
    refine ⟨d, ds, by rw [chars_ofNat, hdigits], isBlank_of_isDigit hd, ?_⟩
    rintro rfl
    contradiction
  | string s => exact ⟨'"', _, chars_string s, rfl, by decide⟩
  | array => exact ⟨'[', _, chars_array _, rfl, by decide⟩
  | object => exact ⟨'\x7b', _, chars_object _, rfl, by decide⟩

theorem Plain.exists_fuel {j : Json} (h : Plain j) {n : Nat} (hn : j.chars.length ≤ n) :
    ∃ m, n = m + 1 := by
  obtain ⟨c, cs, hchars, _⟩ := h.chars_eq_cons
  rw [hchars, List.length_cons] at hn
  exact Nat.exists_eq_add_one_of_ne_zero (by omega)

theorem joined_items_eq_cons {i : Json} (hi : Plain i) (items : List Json) :
    ∃ c cs, joined ((i :: items).map chars) = c :: cs ∧ isBlank c = false ∧ c ≠ ']' := by
  obtain ⟨c, cs, hchars, hc⟩ := hi.chars_eq_cons
  cases items with
  | nil => exact ⟨c, cs, by rw [List.map_singleton, joined_singleton, hchars], hc⟩
  | cons i' items =>
    rw [List.map_cons, List.map_cons, joined_cons_cons, hchars]
    exact ⟨c, _, rfl, hc⟩

theorem joined_fields_eq_cons (f : String × Json) (fields : List (String × Json)) :
    ∃ cs, joined ((f :: fields).map entry) = '"' :: cs := by
  cases fields with
  | nil => exact ⟨_, joined_singleton _⟩
  | cons f' fields => exact ⟨_, joined_cons_cons _ _ _⟩

theorem readable_string (s : String) : Readable (string s) := by
  intro n rest hn _
  obtain ⟨n, rfl⟩ := (Plain.string s).exists_fuel hn
  have htext := readString_flatMap s.toList rest
  rw [chars_string, List.cons_append, List.append_assoc, readValue, skipBlank_cons rfl]
  simp only [List.singleton_append, htext, Option.bind_eq_bind, Option.bind_some]
  rw [String.ofList_toList]
  rfl

theorem readable_ofNat (k : Nat) : Readable (ofNat k) := by
  intro n rest hn hrest
  obtain ⟨n, rfl⟩ := (Plain.number k).exists_fuel hn
  have hread := readNumber_toDigits k hrest
  obtain ⟨d, ds, hdigits, hd⟩ := Numeral.toDigits_eq_cons k
  rw [chars_ofNat]
  rw [hdigits, List.cons_append] at hread ⊢
  rw [readValue_digit hd, hread]

theorem readable_array {items : List Json} (hitems : ∀ i ∈ items, Plain i)
    (hread : ∀ i ∈ items, Readable i) : Readable (array items) := by
  intro n rest hn _
  obtain ⟨n, rfl⟩ := (Plain.array hitems).exists_fuel hn
  rw [chars_array, List.length_cons, List.length_append, List.length_singleton] at hn
  rw [chars_array, List.cons_append, List.append_assoc, readValue, skipBlank_cons rfl]
  cases items with
  | nil => rfl
  | cons i items =>
    have hall := readItems_joined hread (List.cons_ne_nil _ _) (n := n) (by omega) rest
    obtain ⟨c, cs, hchars, hblank, hc⟩ := joined_items_eq_cons (hitems i List.mem_cons_self) items
    rw [hchars, List.cons_append] at hall ⊢
    simp only [skipBlank_cons hblank, List.singleton_append]
    split
    · next h => exact absurd (List.cons.inj h).1 hc
    · rw [hall]
      rfl

theorem readable_object {fields : List (String × Json)} (hfields : ∀ f ∈ fields, Plain f.2)
    (hread : ∀ f ∈ fields, Readable f.2) : Readable (object fields) := by
  intro n rest hn _
  obtain ⟨n, rfl⟩ := (Plain.object hfields).exists_fuel hn
  rw [chars_object, List.length_cons, List.length_append, List.length_singleton] at hn
  rw [chars_object, List.cons_append, List.append_assoc, readValue, skipBlank_cons rfl]
  cases fields with
  | nil => rfl
  | cons f fields =>
    have hall := readFields_joined hread (List.cons_ne_nil _ _) (n := n) (by omega) rest
    obtain ⟨cs, hchars⟩ := joined_fields_eq_cons f fields
    rw [hchars, List.cons_append] at hall ⊢
    simp only [skipBlank_cons (c := '"') rfl, List.singleton_append]
    split
    · next h => exact absurd (List.cons.inj h).1 (by decide)
    · rw [hall]
      rfl

theorem Plain.readable {j : Json} (h : Plain j) : Readable j := by
  induction h with
  | null =>
    intro n rest hn _
    obtain ⟨n, rfl⟩ := Plain.null.exists_fuel hn
    rfl
  | bool b =>
    intro n rest hn _
    obtain ⟨n, rfl⟩ := (Plain.bool b).exists_fuel hn
    cases b <;> rfl
  | number k => exact readable_ofNat k
  | string s => exact readable_string s
  | array hitems ih => exact readable_array hitems ih
  | object hfields ih => exact readable_object hfields ih

theorem parse?_render {j : Json} (h : Plain j) : parse? (render j) = some j := by
  have hread := h.readable ((render j).length + 1) [] (Nat.le_succ _) (by rintro _ ⟨⟩)
  rw [List.append_nil, chars] at hread
  rw [parse?, hread]
  rfl

end PageGraph.Json
