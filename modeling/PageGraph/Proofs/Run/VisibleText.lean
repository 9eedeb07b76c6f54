import PageGraph.Proofs.Build.Preorder
import PageGraph.Proofs.Pruning.Orphans
import PageGraph.Proofs.Text.Collapse

/-!
The texts of a page outlast building and pruning: each is found again in the payload of a node that
has something above it and nothing below, which pruning does not touch. Right below the outermost
element of a page there is no paragraph; one without elements would be a node on its own there, and
pruning would take it for a bridge.
-/

namespace PageGraph

open Markup

namespace Markup.Content

inductive Shows (config : BuildConfig) : Content → String → Prop where
  | text (s : String) : Shows config (.text s) s
  | inside {tag : String} {attributes : List (String × String)} {children : List Content}
      {c : Content} {s : String} (hin : (element tag attributes children).admits config = true)
      (hc : c ∈ children) (h : Shows config c s) : Shows config (.element tag attributes children) s

theorem mem_preorderAll (config : BuildConfig) {c : Content} {cs : List Content} (hc : c ∈ cs)
    (parent : Option Slot) (start : Nat) : ∃ later, ∀ f ∈ preorder config parent later c,
      f ∈ preorderAll config parent start cs := by
  induction cs generalizing start with
  | nil => simp at hc
  | cons d ds ih =>
    rcases List.mem_cons.mp hc with rfl | hc
    · exact ⟨start, fun f hf => by simp [preorderAll, hf]⟩
    · obtain ⟨later, hlater⟩ := ih hc (start + (preorder config parent start d).length)
      exact ⟨later, fun f hf => by simp [preorderAll, hlater f hf]⟩

theorem textsOfAll_append (as bs : List Content) :
    textsOfAll (as ++ bs) = textsOfAll as ++ textsOfAll bs := by
  induction as with
  | nil => simp [textsOfAll]
  | cons a as ih => simp [textsOfAll, ih]

theorem collapse_infix_join {s : String} {children : List Content} (h : .text s ∈ children) :
    (Text.collapse s).toList <:+: (Text.collapse (String.join (textsOfAll children))).toList := by
  obtain ⟨before, after, rfl⟩ := List.append_of_mem h
  have hjoin : String.join (textsOfAll (before ++ .text s :: after)) =
      String.join (textsOfAll before) ++ s ++ String.join (textsOfAll after) := by
    simp [textsOfAll_append, textsOfAll, texts, String.join_append, String.append_assoc]
  rw [hjoin]
  exact Text.collapse_infix _ s _

structure Bears (f : Found) (s : String) : Prop where
  below : ∃ p, f.parent = some p
  leaf : f.content.inside = []
  payload : ∃ c, f.content.payload? = some c ∧ (Text.collapse s).toList <:+: c.text.toList

theorem payload?_paragraph (attributes : List (String × String)) {children : List Content}
    (hno : holdsElement children = false) : ∃ c,
      (element "p" attributes children).payload? = some c ∧
        c.text = Text.collapse (String.join (textsOfAll children)) := by
  have htag : Sprout.isAnchorTag "p" = false := by decide
  rw [holdsElement] at hno
  simp [payload?, Sprout.payloadOf?, htag, hno]

theorem Shows.exists_bears {config : BuildConfig} {c : Content} {s : String}
    (h : Shows config c s) (hs : (Content.text s).admits config = true) (p : Slot) (start : Nat) :
    ∃ f ∈ preorder config (some p) start c, Bears f s := by
  induction h generalizing p start with
  | text s =>
    refine ⟨⟨.text s, some p⟩, by simp [preorder, hs], ⟨p, rfl⟩, rfl, ?_⟩
    exact ⟨_, rfl, List.infix_refl _⟩
  | @inside tag attributes children c s hin hc h ih =>
    rw [preorder_eq, if_pos hin]
    by_cases hopen : expands tag children = true
    · obtain ⟨later, hlater⟩ := mem_preorderAll config hc (some start) (start + 1)
      obtain ⟨f, hf, hbears⟩ := ih hs start later
      refine ⟨f, List.mem_cons_of_mem _ ?_, hbears⟩
      rw [Content.inside, if_pos hopen]
      exact hlater f hf
    · -- A paragraph of nothing but text carries all its texts in one payload.
      have hne : children ≠ [] := List.ne_nil_of_mem hc
      have hclosed : tag = "p" ∧ holdsElement children = false := by
        simpa [expands, hne] using hopen
      obtain ⟨rfl, hno⟩ := hclosed
      have htext : c = .text s := by
        cases h with
        | text => rfl
        | @inside tag attributes grandchildren =>
          have := List.any_eq_false.mp hno _ hc
          simp [isElement] at this
      subst htext
      obtain ⟨payload, hpayload, htext⟩ := payload?_paragraph attributes hno
      refine ⟨_, List.mem_cons_self, ⟨p, rfl⟩, by rw [Content.inside, if_neg hopen], payload,
        hpayload, ?_⟩
      rw [htext]
      exact collapse_infix_join hc

def Nested (parent : Option Slot) (start : Nat) (cs : List Content) (fs : List Found) : Prop :=
  ∀ f ∈ fs, ∀ p, f.parent = some p → parent = some p ∧ f.content ∈ cs ∨
    ∃ i e, fs[i]? = some e ∧ start + i = p ∧ f.content ∈ e.content.inside

theorem nested_preorderAll (config : BuildConfig) (parent : Option Slot) (start : Nat)
    (cs : List Content) : Nested parent start cs (preorderAll config parent start cs) := by
  match cs with
  | [] => simp [Nested, preorderAll]
  | c :: cs =>
    have hrest := nested_preorderAll config parent
      (start + (preorder config parent start c).length) cs
    intro f hf p hp
    rw [preorderAll] at hf ⊢
    rcases List.mem_append.mp hf with hf | hf
    · rw [preorder_eq] at hf ⊢
      by_cases hin : c.admits config = true
      · have hbelow := nested_preorderAll config (some start) (start + 1) c.inside
        rw [if_pos hin] at hf ⊢
        rcases List.mem_cons.mp hf with rfl | hf
        · exact .inl ⟨hp, List.mem_cons_self⟩
        · rcases hbelow f hf p hp with ⟨hstart, hmem⟩ | ⟨i, e, he, rfl, hmem⟩
          · exact .inr ⟨0, ⟨c, parent⟩, rfl, Option.some.inj hstart, hmem⟩
          · have hi := (List.getElem?_eq_some_iff.mp he).1
            refine .inr ⟨i + 1, e, ?_, by omega, hmem⟩
            rw [List.getElem?_append_left (by simpa using hi), List.getElem?_cons_succ, he]
      · simp [hin] at hf
    · rcases hrest f hf p hp with ⟨hparent, hmem⟩ | ⟨i, e, he, rfl, hmem⟩
      · exact .inl ⟨hparent, List.mem_cons_of_mem _ hmem⟩
      · refine .inr ⟨(preorder config parent start c).length + i, e, ?_, by omega, hmem⟩
        rw [List.getElem?_append_right (by omega), Nat.add_sub_cancel_left, he]
termination_by sizeOfAll cs
decreasing_by
  · have := c.size_pos
    simp only [sizeOfAll]
    omega
  · have := c.sizeOfAll_inside
    simp only [sizeOfAll]
    omega

end Markup.Content

theorem Found.outDegree_eq_zero {config : BuildConfig} {d : Document} {i : Slot} {f : Found}
    (hf : (ofDocument config d)[i]? = some f) (hleaf : f.content.inside = []) :
    (graph (ofDocument config d)).outDegree i = 0 := by
  rw [Graph.outDegree_eq_zero_iff]
  intro j he
  obtain ⟨c, hc, hparent⟩ := edge_graph_iff.mp he
  rcases Content.nested_preorderAll config none 0 d.children c (List.mem_of_getElem? hc) i hparent
    with ⟨hnone, _⟩ | ⟨k, e, hk, hki, hmem⟩
  · contradiction
  · have : k = i := by omega
    subst this
    cases hf.symm.trans hk
    rw [hleaf] at hmem
    contradiction

def Markup.Document.Shows (config : BuildConfig) (d : Document) (s : String) : Prop :=
  ∃ tag attributes children, .element tag attributes children ∈ d.children ∧
    (Content.element tag attributes children).Shows config s

theorem Markup.Document.Shows.exists_bears {config : BuildConfig} {d : Document} {s : String}
    (h : d.Shows config s)
    (htop : ∀ attributes children, .element "p" attributes children ∉ d.children)
    (hs : (Content.text s).admits config = true) :
    ∃ f ∈ Found.ofDocument config d, Content.Bears f s := by
  obtain ⟨tag, attributes, children, hmem, h⟩ := h
  have htag : tag ≠ "p" := by
    rintro rfl
    exact htop attributes children hmem
  obtain ⟨start, hstart⟩ := Content.mem_preorderAll config hmem none 0
  cases h with
  | @inside tag attributes children c s hin hc h =>
    have hopen : Content.expands tag children = true := by
      simp [Content.expands, htag, List.ne_nil_of_mem hc]
    obtain ⟨later, hlater⟩ := Content.mem_preorderAll config hc (some start) (start + 1)
    obtain ⟨f, hf, hbears⟩ := h.exists_bears hs start later
    refine ⟨f, hstart f ?_, hbears⟩
    rw [Content.preorder_eq, if_pos hin, Content.inside, if_pos hopen]
    exact List.mem_cons_of_mem _ (hlater f hf)

theorem Graph.prune_keeps_texts (build : BuildConfig) (config : PruneConfig) (d : Document)
    (htop : ∀ attributes children, .element "p" attributes children ∉ d.children) (raw : Graph)
    (hbuilt : Graph.ofDocument build d = .ok raw) :
    ∃ pruned report, raw.prune config = .ok (pruned, report) ∧
      ∀ s, d.Shows build s → (Content.text s).admits build = true →
        ∃ i n c, pruned.node? i = some n ∧ n.payload = some c ∧
          (Text.collapse s).toList <:+: c.text.toList := by
  have hraw := (Graph.rooted_ofDocument hbuilt).simple
  have hgraph := Found.eq_graph_of_ok hbuilt
  obtain ⟨pruned, report, hok, p⟩ := Graph.prune_ok hraw config
  refine ⟨pruned.settled, _, hok, ?_⟩
  intro s hshows hs
  obtain ⟨f, hf, ⟨q, hq⟩, hleaf, c, hc, htext⟩ := hshows.exists_bears htop hs
  obtain ⟨i, hi⟩ := List.getElem?_of_mem hf
  have hnode : raw.node? i = some (f.node ((Found.ofDocument build d).take i)) := by
    rw [hgraph, Found.node?_graph, Found.getElem?_nodes, hi]
    rfl
  have hout : raw.outDegree i = 0 := by
    rw [hgraph]
    exact Found.outDegree_eq_zero hi hleaf
  have hin : raw.inDegree i ≠ 0 := by
    rw [hgraph, Graph.inDegree, Found.parents_graph _ i f hi, hq]
    simp
  obtain ⟨m, hm, hpayload⟩ := p.leaf hraw hnode hc hout hin
  refine ⟨i, ?_⟩
  rw [Graph.node?_settled, hm]
  exact ⟨_, c, rfl, hpayload, htext⟩

def gluedPage : Document where
  attributes := []
  children := [.element "head" [] [], .element "body" [] [
    .element "div" [] [.element "p" [] [.text "Market", .comment "", .text "place  rules "],
      .element "i" [] []]]]

theorem Graph.prune_keeps_texts_gluedPage :
    (∀ attributes children, .element "p" attributes children ∉ gluedPage.children) ∧
      gluedPage.Shows {} "place  rules " ∧ ∃ raw pruned report,
        Graph.ofDocument {} gluedPage = .ok raw ∧ raw.prune {} = .ok (pruned, report) ∧
        ∃ i n c, pruned.node? i = some n ∧ n.payload = some c ∧
          "place rules".toList <:+: c.text.toList := by
  have htop : ∀ attributes children, .element "p" attributes children ∉ gluedPage.children := by
    simp [gluedPage]
  have hshows : gluedPage.Shows {} "place  rules " := by
    refine ⟨"body", [], _, List.mem_cons_of_mem _ List.mem_cons_self, ?_⟩
    refine .inside (by decide +kernel) List.mem_cons_self ?_
    refine .inside (by decide +kernel) List.mem_cons_self ?_
    exact .inside (by decide +kernel) (by simp) (.text _)
  have hbuilt : Graph.ofDocument {} gluedPage = .ok (Found.graph (Found.ofDocument {} gluedPage)) :=
    Found.ok_of_nodup (by decide +kernel)
  have hcollapse : Text.collapse "place  rules " = "place rules" := by decide +kernel
  obtain ⟨pruned, report, hok, htexts⟩ := prune_keeps_texts {} {} gluedPage htop _ hbuilt
  refine ⟨htop, hshows, _, pruned, report, hbuilt, hok, ?_⟩
  rw [← hcollapse]
  exact htexts _ hshows (by decide +kernel)

end PageGraph
