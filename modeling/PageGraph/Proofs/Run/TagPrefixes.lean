import Mathlib.Data.List.TakeWhile
import PageGraph.Proofs.Build.Clashes
import PageGraph.Proofs.Classify.Grid
import PageGraph.Proofs.Run.PageModel

/-!
Ids and tags. An id is a tag, an underscore and eight digits. Children are compared by what their
ids have in front of the first underscore. That is the tag if the tag has no underscore of its own;
else it is cut there, and tags that differ only behind their first underscores pass for one.
-/

namespace PageGraph

open Markup

theorem takeWhile_append_stop {p : Char → Bool} {c : Char} (hc : p c = false)
    (cs rest : List Char) : (cs ++ c :: rest).takeWhile p = cs.takeWhile p := by
  rw [List.takeWhile_append]
  split
  · next h =>
    have hall : cs.takeWhile p = cs := (List.takeWhile_prefix p).eq_of_length h
    rw [List.takeWhile_cons_of_neg (by simp [hc]), List.append_nil, hall]
  · rfl

def tagHead (tag : String) : List Char :=
  tag.toList.takeWhile (· ≠ '_')

theorem tagHead_eq_iff (tag : String) : tagHead tag = tag.toList ↔ '_' ∉ tag.toList := by
  rw [tagHead, List.takeWhile_eq_self_iff]
  constructor
  · intro h hin
    simpa using h '_' hin
  · intro h c hc
    simp only [ne_eq, decide_eq_true_eq]
    rintro rfl
    exact h hc

theorem tagHead_inj {tag tag' : String} (htag : '_' ∉ tag.toList) (htag' : '_' ∉ tag'.toList) :
    tagHead tag = tagHead tag' ↔ tag = tag' := by
  rw [(tagHead_eq_iff tag).mpr htag, (tagHead_eq_iff tag').mpr htag', String.toList_inj]

theorem isDigit_eightDigits (n : Nat) : ∀ c ∈ eightDigits n, c.isDigit = true := by
  intro c hc
  rcases List.mem_append.mp hc with hc | hc
  · rw [List.eq_of_mem_replicate hc]
    decide
  · exact Nat.isDigit_of_mem_toDigits (by decide) (by decide) hc

namespace Node

def Tagged (n : Node) : Prop :=
  ∃ digits : List Char, n.id.toList = n.tag.toList ++ '_' :: digits ∧ digits.length = 8 ∧
    ∀ c ∈ digits, c.isDigit = true

variable {m n : Node}

theorem Tagged.congr (h : n.Tagged) (hid : m.id = n.id) (htag : m.tag = n.tag) : m.Tagged := by
  rw [Tagged, hid, htag]
  exact h

theorem Tagged.idPrefix (h : n.Tagged) : n.idPrefix = tagHead n.tag := by
  obtain ⟨digits, hid, -⟩ := h
  rw [Node.idPrefix, hid, tagHead]
  apply takeWhile_append_stop
  simp

end Node

theorem Found.tagged_of_mem_nodes {found : List Found} {n : Node} (hn : n ∈ nodes found) :
    n.Tagged := by
  obtain ⟨i, f, -, rfl⟩ := mem_nodes hn
  refine ⟨(nameDigits (f.node (found.take i)).name).toList, by simp [node], ?_⟩
  rw [toList_nameDigits]
  constructor
  · apply length_eightDigits
    exact Nat.mod_lt _ (by decide)
  · exact isDigit_eightDigits _

namespace Graph

def Tagged (g : Graph) : Prop :=
  ∀ s n, g.node? s = some n → n.Tagged

variable {g h : Graph}

theorem tagged_ofDocument {config : BuildConfig} {d : Document}
    (hok : ofDocument config d = .ok g) : g.Tagged := by
  intro s n hn
  rw [Found.eq_graph_of_ok hok, Found.node?_graph] at hn
  apply Found.tagged_of_mem_nodes
  exact List.mem_of_getElem? hn

theorem Tagged.prune {config : PruneConfig} {r : PruneReport} (hg : g.Tagged) (hsimple : g.Simple)
    (hok : g.prune config = .ok (h, r)) : h.Tagged := by
  obtain ⟨pruned, report, hrun, p⟩ := prune_ok hsimple config
  rw [hrun, Except.ok.injEq, Prod.mk.injEq] at hok
  obtain ⟨rfl, -⟩ := hok
  intro s m hm
  obtain ⟨n, hn, hfixed⟩ := (torso_settled (p.torso hsimple)).node s m hm
  obtain ⟨hid, htag, -⟩ := (Node.fixed_eq_iff m n).mp hfixed
  exact (hg s n hn).congr hid htag

theorem Tagged.uniform_idPrefix (hg : g.Tagged) (hsimple : g.Simple) (s : Slot) :
    g.Uniform s Node.idPrefix ↔ g.Uniform s fun n => tagHead n.tag := by
  unfold Uniform
  apply exists_congr
  intro v
  apply forall₂_congr
  intro c hc
  obtain ⟨n, hn⟩ := hsimple.exists_child hc
  rw [hn, Option.map_some, Option.map_some, (hg c n hn).idPrefix]

structure PrefixedByTags (g : Graph) : Prop where
  node : ∀ s n, g.node? s = some n → n.Tagged ∧ n.idPrefix = tagHead n.tag ∧
    (n.idPrefix = n.tag.toList ↔ '_' ∉ n.tag.toList)
  pair : ∀ s t m n, g.node? s = some m → g.node? t = some n →
    (m.idPrefix = n.idPrefix ↔ tagHead m.tag = tagHead n.tag) ∧
    ('_' ∉ m.tag.toList → '_' ∉ n.tag.toList → (m.idPrefix = n.idPrefix ↔ m.tag = n.tag))
  alike : ∀ s, g.homogeneous s = true ↔ g.children s ≠ [] ∧
    (g.Uniform s fun n => tagHead n.tag) ∧ g.Uniform s (·.labels.first?)

theorem Tagged.prefixed (hg : g.Tagged) (hsimple : g.Simple) : g.PrefixedByTags := by
  constructor
  · intro s n hn
    have hhead := (hg s n hn).idPrefix
    refine ⟨hg s n hn, hhead, ?_⟩
    rw [hhead]
    exact tagHead_eq_iff n.tag
  · intro s t m n hm hn
    rw [(hg s m hm).idPrefix, (hg t n hn).idPrefix]
    exact ⟨Iff.rfl, tagHead_inj⟩
  · intro s
    rw [hsimple.homogeneous_iff, hg.uniform_idPrefix hsimple]

theorem ofDocument_idPrefix (config : Config) (d : Document) (raw : Graph)
    (hraw : ofDocument config.build d = .ok raw) :
    raw.PrefixedByTags ∧ ∃ pruned report, raw.prune config.prune = .ok (pruned, report) ∧
      pruned.PrefixedByTags := by
  have hrooted := rooted_ofDocument hraw
  have htagged := tagged_ofDocument hraw
  obtain ⟨pruned, report, hprune, -⟩ := prune_ok hrooted.simple config.prune
  refine ⟨htagged.prefixed hrooted.simple, _, _, hprune, ?_⟩
  apply (htagged.prune hrooted.simple hprune).prefixed
  exact (hrooted.prune hprune).1.simple

def nameAndPrice : String :=
  "<x_name></x_name><x_price></x_price>"

theorem ofDocument_nameAndPrice :
    ∃ raw m n, ofDocument {} (.parse nameAndPrice) = .ok raw ∧ raw.children 0 = [1, 2] ∧
      raw.node? 1 = some m ∧ m.tag = "x_name" ∧ raw.node? 2 = some n ∧ n.tag = "x_price" ∧
      m.idPrefix = ['x'] ∧ n.idPrefix = ['x'] ∧ raw.homogeneous 0 = true := by
  have hbuilt := @Found.ok_of_pairwise {} (.parse nameAndPrice) (by decide +kernel)
  have hvalue : ((Found.graph (Found.ofDocument {} (.parse nameAndPrice))).children 0,
      ((Found.graph (Found.ofDocument {} (.parse nameAndPrice))).node? 1).map
        fun n => (n.tag, n.idPrefix),
      ((Found.graph (Found.ofDocument {} (.parse nameAndPrice))).node? 2).map
        fun n => (n.tag, n.idPrefix),
      (Found.graph (Found.ofDocument {} (.parse nameAndPrice))).homogeneous 0) =
      ([1, 2], some ("x_name", ['x']), some ("x_price", ['x']), true) := by
    decide +kernel
  simp only [Prod.mk.injEq, Option.map_eq_some_iff] at hvalue
  obtain ⟨hchildren, ⟨m, hm, hmtag, hmhead⟩, ⟨n, hn, hntag, hnhead⟩, hhom⟩ := hvalue
  exact ⟨_, m, n, hbuilt, hchildren, hm, hmtag, hn, hntag, hmhead, hnhead, hhom⟩

theorem ofDocument_idPrefix_nameAndPrice :
    ∃ raw m n, ofDocument {} (.parse nameAndPrice) = .ok raw ∧ raw.node? 1 = some m ∧
      raw.node? 2 = some n ∧ m.Tagged ∧ ¬ m.idPrefix = m.tag.toList ∧
      (m.idPrefix = n.idPrefix ↔ tagHead m.tag = tagHead n.tag) ∧
      raw.Uniform 0 fun n => tagHead n.tag := by
  obtain ⟨raw, m, n, hraw, -, hm, hmtag, hn, -, -, -, hhom⟩ := ofDocument_nameAndPrice
  obtain ⟨⟨hnode, hpair, halike⟩, -⟩ := ofDocument_idPrefix {} (.parse nameAndPrice) raw hraw
  obtain ⟨htagged, -, hiff⟩ := hnode 1 m hm
  refine ⟨raw, m, n, hraw, hm, hn, htagged, ?_, (hpair 1 2 m n hm hn).1, ((halike 0).mp hhom).2.1⟩
  rw [hiff, hmtag]
  decide

theorem tags_share_prefix :
    ∃ raw m n, ofDocument {} (.parse nameAndPrice) = .ok raw ∧ raw.children 0 = [1, 2] ∧
      raw.node? 1 = some m ∧ raw.node? 2 = some n ∧ m.tag ≠ n.tag ∧ m.idPrefix ≠ m.tag.toList ∧
      m.idPrefix = n.idPrefix ∧ raw.homogeneous 0 = true := by
  obtain ⟨raw, m, n, hraw, hchildren, hm, hmtag, hn, hntag, hmhead, hnhead, hhom⟩ :=
    ofDocument_nameAndPrice
  refine ⟨raw, m, n, hraw, hchildren, hm, hn, ?_, ?_, ?_, hhom⟩
  · rw [hmtag, hntag]
    decide
  · rw [hmtag, hmhead]
    decide
  · rw [hmhead, hnhead]

end Graph

end PageGraph
