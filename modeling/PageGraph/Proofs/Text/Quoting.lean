import Mathlib.Data.List.Basic
import PageGraph.Text.Blank
import PageGraph.Text.Quoted

namespace PageGraph.Text

theorem mem_toDigits {base n : Nat} (hbase : 1 < base) {d : Char} (hd : d ∈ Nat.toDigits base n) :
    ∃ k < base, d = k.digitChar := by
  induction n using Nat.strongRecOn with
  | ind n ih =>
    rw [Nat.toDigits_eq_if hbase] at hd
    split at hd
    · next hn => exact ⟨n, hn, List.mem_singleton.mp hd⟩
    · next hn =>
      rcases List.mem_append.mp hd with hd | hd
      · exact ih (n / base) (Nat.div_lt_self (by omega) hbase) hd
      · exact ⟨n % base, Nat.mod_lt n (by omega), List.mem_singleton.mp hd⟩

def hexValue (d : Char) : Nat :=
  if d.isDigit then d.toNat - 48 else d.toNat - 87

theorem hexValue_digitChar : ∀ n < 16, hexValue n.digitChar = n := by
  decide

theorem foldl_hexValue (n : Nat) :
    (hexDigits n).foldl (fun value d => 16 * value + hexValue d) 0 = n := by
  unfold hexDigits
  induction n using Nat.strongRecOn with
  | ind n ih =>
    rw [Nat.toDigits_eq_if (by decide)]
    split
    · next hn => simp [hexValue_digitChar n hn]
    · next hn =>
      rw [List.foldl_append, ih (n / 16) (by omega), List.foldl_cons, List.foldl_nil,
        hexValue_digitChar (n % 16) (Nat.mod_lt n (by decide))]
      exact Nat.div_add_mod n 16

def unescape : List Char → Option (Char × List Char)
  | '\\' :: '0' :: cs => some ('\x00', cs)
  | '\\' :: 't' :: cs => some ('\t', cs)
  | '\\' :: 'r' :: cs => some ('\r', cs)
  | '\\' :: 'n' :: cs => some ('\n', cs)
  | '\\' :: 'u' :: '\x7b' :: cs =>
    let digits := cs.takeWhile (· ≠ '\x7d')
    some (Char.ofNat (digits.foldl (fun value d => 16 * value + hexValue d) 0),
      cs.drop (digits.length + 1))
  | '\\' :: c :: cs => some (c, cs)
  | c :: cs => some (c, cs)
  | [] => none

theorem unescape_escapeChar (c : Char) (cs : List Char) :
    unescape (escapeChar '"' c ++ cs) = some (c, cs) := by
  have hdigits :
      (hexDigits c.toNat ++ '\x7d' :: cs).takeWhile (· ≠ '\x7d') = hexDigits c.toNat := by
    rw [List.takeWhile_append_of_pos]
    · simp
    · intro d hd
      obtain ⟨k, _, rfl⟩ := mem_toDigits (by decide) hd
      exact decide_eq_true (Nat.digitChar_ne '\x7d' (by decide))
  have hcode : unescape ('\\' :: 'u' :: '\x7b' :: (hexDigits c.toNat ++ '\x7d' :: cs)) =
      some (c, cs) := by
    rw [unescape]
    simp only [hdigits, foldl_hexValue, Char.ofNat_toNat, List.drop_append, Nat.add_sub_cancel_left]
    simp
  unfold escapeChar
  split_ifs with h0 ht hr hn hslash hquote hhex
  · rw [h0]; rfl
  · rw [ht]; rfl
  · rw [hr]; rfl
  · rw [hn]; rfl
  · rw [hslash]; rfl
  · rw [hquote]; rfl
  · simpa only [List.cons_append, List.nil_append, List.append_assoc] using hcode
  · simp [unescape, hslash]

theorem escapeChar_cases (c : Char) :
    (∃ cs, escapeChar '"' c = '\\' :: cs) ∨ escapeChar '"' c = [c] ∧ c ≠ '"' := by
  unfold escapeChar
  split_ifs with _ _ _ _ _ hquote
  all_goals simp [*]

theorem bracket_not_mem_escapeChar {c : Char} (hc : c ≠ '[') : '[' ∉ escapeChar '"' c := by
  have hdigits : '[' ∉ hexDigits c.toNat := by
    intro hd
    obtain ⟨k, _, hk⟩ := mem_toDigits (by decide) hd
    exact Nat.digitChar_ne '[' (by decide) hk.symm
  unfold escapeChar
  split_ifs
  all_goals simp [hdigits, hc.symm]

theorem escapeChar_append_inj {c d : Char} {cs ds : List Char}
    (h : escapeChar '"' c ++ cs = escapeChar '"' d ++ ds) : c = d ∧ cs = ds := by
  have hread := congrArg unescape h
  simpa only [unescape_escapeChar, Option.some.injEq, Prod.mk.injEq] using hread

theorem quote_cons_ne (as : List Char) (c : Char) (cs : List Char) :
    '"' :: as ≠ escapeChar '"' c ++ cs := by
  rcases escapeChar_cases c with ⟨ds, hc⟩ | ⟨hc, hquote⟩
  · simp [hc]
  · simp [hc, hquote.symm]

theorem eq_of_escapeChar_append {c d : Char} {cs ds : List Char} (hd : d ≠ '\\')
    (h : escapeChar '"' c ++ cs = d :: ds) : c = d ∧ cs = ds := by
  rcases escapeChar_cases c with ⟨es, hc⟩ | ⟨hc, _⟩
  · rw [hc, List.cons_append] at h
    exact absurd (List.cons.inj h).1.symm hd
  · rw [hc, List.singleton_append] at h
    exact List.cons.inj h

def inner (cs : List Char) : List Char :=
  cs.flatMap (escapeChar '"')

theorem inner_cons_append (c : Char) (cs ds : List Char) :
    inner (c :: cs) ++ ds = escapeChar '"' c ++ (inner cs ++ ds) := by
  rw [inner, List.flatMap_cons, List.append_assoc]
  rfl

theorem inner_append_inj {cs ds as bs : List Char}
    (h : inner cs ++ '"' :: as = inner ds ++ '"' :: bs) : cs = ds ∧ as = bs := by
  induction cs generalizing ds with
  | nil =>
    cases ds with
    | nil => exact ⟨rfl, (List.cons.inj h).2⟩
    | cons d ds => exact absurd (h.trans (inner_cons_append d ds _)) (quote_cons_ne _ _ _)
  | cons c cs ih =>
    cases ds with
    | nil => exact absurd (h.symm.trans (inner_cons_append c cs _)) (quote_cons_ne _ _ _)
    | cons d ds =>
      rw [inner_cons_append, inner_cons_append] at h
      obtain ⟨rfl, hrest⟩ := escapeChar_append_inj h
      obtain ⟨rfl, has⟩ := ih hrest
      exact ⟨rfl, has⟩

def listRest : List (List Char) → List Char
  | [] => [']']
  | cs :: css => ',' :: ' ' :: '"' :: (inner cs ++ '"' :: listRest css)

def listBody : List (List Char) → List Char
  | [] => [']']
  | cs :: css => '"' :: (inner cs ++ '"' :: listRest css)

theorem intercalate_quoteChars (cs : List Char) (css : List (List Char)) :
    [',', ' '].intercalate ((cs :: css).map quoteChars) ++ [']'] = listBody (cs :: css) := by
  induction css generalizing cs with
  | nil => simp [quoteChars, inner, listBody, listRest]
  | cons ds css ih =>
    rw [List.map_cons, List.map_cons, List.intercalate_cons_cons, ← List.map_cons, List.append_assoc,
      ih ds]
    simp [quoteChars, inner, listBody, listRest]

theorem toList_quoteList (xs : List String) :
    (quoteList xs).toList = '[' :: listBody (xs.map String.toList) := by
  cases xs with
  | nil => rfl
  | cons x xs =>
    rw [quoteList, String.toList_append, String.toList_append, String.toList_intercalate]
    have hquoted : ((x :: xs).map quote).map String.toList =
        ((x :: xs).map String.toList).map quoteChars := by
      simp [quote, Function.comp_def]
    rw [hquoted, List.map_cons, List.append_assoc]
    exact congrArg ('[' :: ·) (intercalate_quoteChars x.toList (xs.map String.toList))

theorem listRest_inj {css dss : List (List Char)} (h : listRest css = listRest dss) : css = dss := by
  induction css generalizing dss with
  | nil =>
    cases dss with
    | nil => rfl
    | cons ds dss => simp [listRest] at h
  | cons cs css ih =>
    cases dss with
    | nil => simp [listRest] at h
    | cons ds dss =>
      simp only [listRest, List.cons.injEq, true_and] at h
      obtain ⟨rfl, hrest⟩ := inner_append_inj h
      rw [ih hrest]

theorem listBody_inj {css dss : List (List Char)} (h : listBody css = listBody dss) : css = dss := by
  cases css with
  | nil =>
    cases dss with
    | nil => rfl
    | cons ds dss => simp [listBody] at h
  | cons cs css =>
    cases dss with
    | nil => simp [listBody] at h
    | cons ds dss =>
      simp only [listBody, List.cons.injEq, true_and] at h
      obtain ⟨rfl, hrest⟩ := inner_append_inj h
      rw [listRest_inj hrest]

theorem bracket_behind {c : Char} {as front back : List Char} (hc : c ≠ '[')
    (h : c :: as = front ++ '[' :: back) : ∃ front', as = front' ++ '[' :: back := by
  rcases List.cons_eq_append_iff.mp h with ⟨_, hback⟩ | ⟨front', _, has⟩
  · exact absurd (List.cons.inj hback).1.symm hc
  · exact ⟨front', has⟩

theorem bracket_in_inner {cs as front back : List Char}
    (h : inner cs ++ '"' :: as = front ++ '[' :: back) :
    (∃ ds, back = inner ds ++ '"' :: as) ∨ ∃ front', as = front' ++ '[' :: back := by
  induction cs generalizing front with
  | nil => exact .inr (bracket_behind (by decide) h)
  | cons c cs ih =>
    rw [inner_cons_append] at h
    rcases List.append_eq_append_iff.mp h with ⟨mid, _, hrest⟩ | ⟨mid, hc, hback⟩
    · exact ih hrest
    · cases mid with
      | nil => exact @ih [] hback.symm
      | cons d mid =>
        obtain ⟨hd, hrest⟩ := List.cons.inj hback
        rw [← hd] at hc
        have hbracket : c = '[' := by
          by_contra hne
          refine bracket_not_mem_escapeChar hne ?_
          rw [hc]
          exact List.mem_append_right _ List.mem_cons_self
        have hself : escapeChar '"' '[' = ['['] := by decide +kernel
        rw [hbracket, hself, List.singleton_eq_append_iff] at hc
        rcases hc with ⟨_, hmid⟩ | ⟨_, hmid⟩
        · rw [(List.cons.inj hmid).2] at hrest
          exact .inl ⟨cs, hrest⟩
        · exact absurd hmid (List.cons_ne_nil _ _)

theorem bracket_in_listRest {css : List (List Char)} {front back : List Char}
    (h : listRest css = front ++ '[' :: back) :
    ∃ ds dss, back = inner ds ++ '"' :: listRest dss := by
  induction css generalizing front with
  | nil =>
    have hmem : '[' ∈ listRest [] := by
      rw [h]
      exact List.mem_append_right _ List.mem_cons_self
    simp [listRest] at hmem
  | cons cs css ih =>
    obtain ⟨_, h⟩ := bracket_behind (by decide) h
    obtain ⟨_, h⟩ := bracket_behind (by decide) h
    obtain ⟨_, h⟩ := bracket_behind (by decide) h
    rcases bracket_in_inner h with ⟨ds, hback⟩ | ⟨_, hrest⟩
    · exact ⟨ds, css, hback⟩
    · exact ih hrest

theorem bracket_in_listBody {css : List (List Char)} {front back : List Char}
    (h : listBody css = front ++ '[' :: back) :
    ∃ ds dss, back = inner ds ++ '"' :: listRest dss := by
  cases css with
  | nil => exact bracket_in_listRest (show listRest [] = _ from h)
  | cons cs css =>
    obtain ⟨_, h⟩ := bracket_behind (by decide) h
    rcases bracket_in_inner h with ⟨ds, hback⟩ | ⟨_, hrest⟩
    · exact ⟨ds, css, hback⟩
    · exact bracket_in_listRest hrest

theorem length_listRest_pos (css : List (List Char)) : 0 < (listRest css).length := by
  cases css <;> simp [listRest]

theorem listBody_ne_inside {css dss : List (List Char)} {ds : List Char}
    (hblank : ∀ cs ∈ css, ∀ c ∈ cs, isBlank c = false) :
    listBody css ≠ inner ds ++ '"' :: listRest dss := by
  intro h
  cases css with
  | nil =>
    have hlength := congrArg List.length h
    have hpos := length_listRest_pos dss
    simp only [listBody, List.length_append, List.length_cons, List.length_nil] at hlength
    omega
  | cons cs css =>
    cases ds with
    | cons d ds => exact quote_cons_ne _ _ _ (h.trans (inner_cons_append d ds _))
    | nil =>
      have hrest : inner cs ++ '"' :: listRest css = listRest dss := (List.cons.inj h).2
      cases dss with
      | nil =>
        have hlength := congrArg List.length hrest
        have hpos := length_listRest_pos css
        simp only [listRest, List.length_append, List.length_cons, List.length_nil] at hlength
        omega
      | cons es dss =>
        -- The first text would start with the comma and the space that part two texts.
        rw [listRest] at hrest
        cases cs with
        | nil => exact absurd (List.cons.inj hrest).1 (by decide)
        | cons c cs =>
          rw [inner_cons_append] at hrest
          obtain ⟨_, hspace⟩ := eq_of_escapeChar_append (by decide) hrest
          cases cs with
          | nil => exact absurd (List.cons.inj hspace).1 (by decide)
          | cons d cs =>
            rw [inner_cons_append] at hspace
            obtain ⟨rfl, _⟩ := eq_of_escapeChar_append (by decide) hspace
            have hword := hblank (c :: ' ' :: cs) List.mem_cons_self ' ' (by simp)
            exact absurd hword (by decide)

theorem listBody_ne_append {css dss : List (List Char)}
    (hblank : ∀ cs ∈ dss, ∀ c ∈ cs, isBlank c = false) (front : List Char) :
    listBody css ≠ front ++ '[' :: listBody dss := by
  intro h
  obtain ⟨ds, ess, hback⟩ := bracket_in_listBody h
  exact listBody_ne_inside hblank hback

theorem quoteList_eq_append {front : List Char} {xs ys : List String}
    (hys : ∀ w ∈ ys, ∀ c ∈ w.toList, isBlank c = false)
    (h : (quoteList xs).toList = front ++ (quoteList ys).toList) : front = [] ∧ xs = ys := by
  rw [toList_quoteList, toList_quoteList] at h
  cases front with
  | nil =>
    have hsame := listBody_inj (List.cons.inj h).2
    exact ⟨rfl, (List.map_inj_right fun _ _ => String.toList_injective).mp hsame⟩
  | cons c front =>
    exact absurd (List.cons.inj h).2 (listBody_ne_append (List.forall_mem_map.mpr hys) front)

theorem append_quoteList_inj {front front' : List Char} {xs ys : List String}
    (hxs : ∀ w ∈ xs, ∀ c ∈ w.toList, isBlank c = false)
    (hys : ∀ w ∈ ys, ∀ c ∈ w.toList, isBlank c = false)
    (h : front ++ (quoteList xs).toList = front' ++ (quoteList ys).toList) :
    front = front' ∧ xs = ys := by
  rcases List.append_eq_append_iff.mp h with ⟨mid, hfront, hlist⟩ | ⟨mid, hfront, hlist⟩
  · obtain ⟨rfl, hsame⟩ := quoteList_eq_append hys hlist
    exact ⟨by rw [hfront, List.append_nil], hsame⟩
  · obtain ⟨rfl, hsame⟩ := quoteList_eq_append hxs hlist
    exact ⟨by rw [hfront, List.append_nil], hsame.symm⟩

end PageGraph.Text
