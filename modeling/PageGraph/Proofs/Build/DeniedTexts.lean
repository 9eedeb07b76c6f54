import PageGraph.Markup.Rules
import PageGraph.Proofs.Build.Clashes
import PageGraph.Proofs.Text.Collapse
import PageGraph.Proofs.Text.Lowering

namespace PageGraph

open Markup

namespace Markup.Content

theorem text_of_payload? {c : Content} {p : Payload} (h : c.payload? = some p) :
    p.text = Text.collapse (String.join c.texts) := by
  cases c with
  | comment s => contradiction
  | text s =>
    obtain rfl := Option.some.inj h
    simp [texts]
  | element tag attributes children =>
    rw [payload?, Sprout.payloadOf?] at h
    rw [texts]
    split at h
    · rw [← Option.some.inj h]
    · split at h
      · contradiction
      · rw [← Option.some.inj h]

theorem admits_not_denied {config : BuildConfig} {c : Content} (h : c.admits config = true) :
    config.deniesText (Text.lower (Text.trim (String.join c.texts))) = false := by
  cases c with
  | comment s => contradiction
  | text s =>
    have hdenied := (Bool.and_eq_true_iff.mp h).2
    simpa [texts] using hdenied
  | element tag attributes children =>
    have hdenied := (Bool.and_eq_true_iff.mp h).2
    simpa only [texts, Bool.not_eq_true'] using hdenied

theorem admits_of_mem_preorderAll (config : BuildConfig) (parent : Option Slot) (start : Nat)
    (cs : List Content) :
    ∀ f ∈ preorderAll config parent start cs, f.content.admits config = true := by
  match cs with
  | [] => simp [preorderAll]
  | c :: cs =>
    intro f hf
    rw [preorderAll, preorder_eq] at hf
    rcases List.mem_append.mp hf with hf | hf
    · split at hf
      · next hin =>
        rcases List.mem_cons.mp hf with rfl | hf
        · exact hin
        · exact admits_of_mem_preorderAll config (some start) (start + 1) c.inside f hf
      · contradiction
    · exact admits_of_mem_preorderAll config parent _ cs f hf
termination_by sizeOfAll cs
decreasing_by
  · have := c.sizeOfAll_inside
    simp only [sizeOfAll]
    omega
  · have := c.size_pos
    simp only [sizeOfAll]
    omega

end Markup.Content

namespace Graph

theorem payload_denied_only_gapped (config : BuildConfig) (d : Document) (g : Graph)
    (hbuilt : ofDocument config d = .ok g) (i : Slot) (n : Node) (p : Payload)
    (hn : g.node? i = some n) (hp : n.payload = some p) :
    ∃ f, (Found.ofDocument config d)[i]? = some f ∧
      p.text = Text.collapse (String.join f.content.texts) ∧
      config.deniesText (Text.lower (Text.trim (String.join f.content.texts))) = false ∧
      (config.deniesText (Text.lower p.text) = true →
        Text.Gapped (String.join f.content.texts).toList ∧ ' ' ∈ (Text.lower p.text).toList) := by
  rw [Found.eq_graph_of_ok hbuilt, Found.node?_graph, Found.getElem?_nodes] at hn
  obtain ⟨f, hf, rfl⟩ := Option.map_eq_some_iff.mp hn
  have htext : p.text = Text.collapse (String.join f.content.texts) := Content.text_of_payload? hp
  have hkept := Content.admits_not_denied
    (Content.admits_of_mem_preorderAll config none 0 d.children f (List.mem_of_getElem? hf))
  refine ⟨f, hf, htext, hkept, ?_⟩
  intro hdenied
  have hgapped : Text.Gapped (String.join f.content.texts).toList := by
    by_contra hplain
    rw [htext, Text.collapse_eq_trim hplain, hkept] at hdenied
    contradiction
  refine ⟨hgapped, Text.space_mem_lower ?_⟩
  rw [htext]
  exact hgapped.space_mem_collapse

def brokenPhrase : String :=
  "<body><button>Sort\n  by</button><p>Market risks</p></body>"

theorem payload_brokenPhrase :
    ∃ g n, ofDocument {} (.parse brokenPhrase) = .ok g ∧ g.node? 1 = some n ∧
      n.payload = some { text := "Sort by" } := by
  have hbuilt := @Found.ok_of_pairwise {} (.parse brokenPhrase) (by decide +kernel)
  have hpayload : ((Found.nodes (Found.ofDocument {} (.parse brokenPhrase)))[1]?).map (·.payload) =
      some (some { text := "Sort by" }) := by
    decide +kernel
  obtain ⟨n, hn, hp⟩ := Option.map_eq_some_iff.mp hpayload
  exact ⟨_, n, hbuilt, by rw [Found.node?_graph, hn], hp⟩

theorem payload_denied_only_gapped_brokenPhrase :
    ∃ g n, ofDocument {} (.parse brokenPhrase) = .ok g ∧ g.node? 1 = some n ∧
      n.payload = some { text := "Sort by" } ∧
      ∃ f, (Found.ofDocument {} (.parse brokenPhrase))[1]? = some f ∧
        Text.collapse (String.join f.content.texts) = "Sort by" ∧
        ({} : BuildConfig).deniesText (Text.lower (Text.trim (String.join f.content.texts))) =
          false ∧
        Text.Gapped (String.join f.content.texts).toList := by
  obtain ⟨g, n, hbuilt, hn, hp⟩ := payload_brokenPhrase
  obtain ⟨f, hf, htext, hkept, hgapped⟩ := payload_denied_only_gapped {} _ g hbuilt 1 n _ hn hp
  exact ⟨g, n, hbuilt, hn, hp, f, hf, htext.symm, hkept, (hgapped (by decide +kernel)).1⟩

theorem denied_phrase_carried :
    ∃ g i n p, ofDocument {} (.parse brokenPhrase) = .ok g ∧ g.node? i = some n ∧
      n.payload = some p ∧ ({} : BuildConfig).deniesText (Text.lower p.text) = true := by
  obtain ⟨g, n, hbuilt, hn, hp⟩ := payload_brokenPhrase
  exact ⟨g, 1, n, _, hbuilt, hn, hp, by decide +kernel⟩

end Graph

end PageGraph
