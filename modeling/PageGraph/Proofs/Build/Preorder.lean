import PageGraph.Proofs.Build.Found

namespace PageGraph

open Markup

namespace Markup.Content

def admits (config : BuildConfig) : Content → Bool
  | .comment _ => false
  | .text s => !(Text.trim s).isEmpty && !config.deniesText (Text.lower (Text.trim s))
  | .element tag _ children =>
    !config.deniesTag tag &&
      !config.deniesText (Text.lower (Text.trim (String.join (textsOfAll children))))

def expands (tag : String) (children : List Content) : Bool :=
  !children.isEmpty && (tag ≠ "p" || holdsElement children)

mutual

def preorder (config : BuildConfig) (parent : Option Slot) (start : Nat) : Content → List Found
  | .comment _ => []
  | .text s => if admits config (.text s) then [⟨.text s, parent⟩] else []
  | .element tag attributes children =>
    if admits config (.element tag attributes children) then
      ⟨.element tag attributes children, parent⟩ ::
        if expands tag children then preorderAll config (some start) (start + 1) children else []
    else []

def preorderAll (config : BuildConfig) (parent : Option Slot) (start : Nat) :
    List Content → List Found
  | [] => []
  | c :: cs =>
    preorder config parent start c ++
      preorderAll config parent (start + (preorder config parent start c).length) cs

end

def inside : Content → List Content
  | .element tag _ children => if expands tag children then children else []
  | _ => []

theorem preorder_eq (config : BuildConfig) (parent : Option Slot) (start : Nat) (c : Content) :
    preorder config parent start c =
      if c.admits config then
        ⟨c, parent⟩ :: preorderAll config (some start) (start + 1) c.inside
      else [] := by
  cases c with
  | comment s => rfl
  | text s => simp [preorder, inside, preorderAll]
  | element tag attributes children =>
    rw [preorder, inside]
    split
    · split
      · rfl
      · rw [preorderAll]
    · rfl

theorem sizeOfAll_inside (c : Content) : sizeOfAll c.inside < c.size := by
  cases c with
  | comment s => simp [Content.inside, sizeOfAll, size]
  | text s => simp [Content.inside, sizeOfAll, size]
  | element tag attributes children =>
    rw [Content.inside, size]
    split
    · omega
    · simp [sizeOfAll]

end Markup.Content

namespace Found

def sprout (f : Found) : Sprout :=
  ⟨f.content.tag, f.content.classes, f.content.payload?, f.content.inside⟩

def ofDocument (config : BuildConfig) (d : Document) : List Found :=
  Content.preorderAll config none 0 d.children

end Found

namespace Markup.Content

theorem insideOf_eq (tag : String) (children : List Content) :
    Sprout.insideOf tag children = if expands tag children then children else [] := by
  rw [Sprout.insideOf, expands, holdsElement]
  cases children with
  | nil => simp
  | cons c cs => by_cases htag : tag = "p" <;> cases (c :: cs).any (·.isElement) <;> simp [htag]

theorem of?_eq (config : BuildConfig) (parent : Option Slot) (c : Content) :
    Sprout.of? config c =
      if c.admits config then some (Found.sprout ⟨c, parent⟩) else none := by
  cases c with
  | comment s => rfl
  | text s =>
    simp only [Sprout.of?, admits, Found.sprout, tag, classes, payload?, inside, ← Bool.not_or,
      Bool.not_eq_true', ← Bool.not_eq_true, ite_not]
  | element tag attributes children =>
    simp only [Sprout.of?, admits, Found.sprout, Content.tag, classes, payload?, inside,
      insideOf_eq, ← Bool.not_or, Bool.not_eq_true', ← Bool.not_eq_true, ite_not]

def preorderStack (config : BuildConfig) (start : Nat) : List (Content × Option Slot) → List Found
  | [] => []
  | (c, parent) :: rest =>
    preorder config parent start c ++
      preorderStack config (start + (preorder config parent start c).length) rest

theorem preorderStack_append (config : BuildConfig) (start : Nat)
    (a b : List (Content × Option Slot)) :
    preorderStack config start (a ++ b) = preorderStack config start a ++
      preorderStack config (start + (preorderStack config start a).length) b := by
  induction a generalizing start with
  | nil => simp [preorderStack]
  | cons entry a ih =>
    simp only [List.cons_append, preorderStack, ih, List.append_assoc, List.length_append,
      Nat.add_assoc]

theorem preorderStack_map (config : BuildConfig) (parent : Option Slot) (start : Nat)
    (cs : List Content) :
    preorderStack config start (cs.map (·, parent)) = preorderAll config parent start cs := by
  induction cs generalizing start with
  | nil => rfl
  | cons c cs ih => rw [List.map_cons, preorderStack, preorderAll, ih]

theorem preorderStack_skip {config : BuildConfig} {c : Content} (hout : ¬ c.admits config)
    (start : Nat) (parent : Option Slot) (rest : List (Content × Option Slot)) :
    preorderStack config start ((c, parent) :: rest) = preorderStack config start rest := by
  rw [preorderStack, preorder_eq, if_neg hout]
  rfl

theorem preorderStack_visit {config : BuildConfig} {c : Content} (hin : c.admits config)
    (start : Nat) (parent : Option Slot) (rest : List (Content × Option Slot)) :
    preorderStack config start ((c, parent) :: rest) =
      ⟨c, parent⟩ ::
        preorderStack config (start + 1) (c.inside.map (·, some start) ++ rest) := by
  rw [preorderStack, preorder_eq, if_pos hin, preorderStack_append, preorderStack_map,
    List.cons_append, List.length_cons, Nat.add_right_comm, Nat.add_assoc]

end Markup.Content

structure Growth.Holds (g : Growth) (found : List Found) : Prop where
  graph : g.graph = Found.graph found
  counts : ∀ tag, g.counts.getD tag 0 = found.countP (·.content.tag = tag)
  index : g.index = found.length

namespace Growth

namespace Holds

theorem empty : Holds {} [] := by
  refine ⟨rfl, ?_, rfl⟩
  intro tag
  simp

variable {g : Growth} {found : List Found}

theorem nodeOf (h : g.Holds found) (f : Found) :
    g.nodeOf f.sprout f.parent = f.node found := by
  simp only [Growth.nodeOf, Found.node, Found.sprout, h.counts, h.index]

theorem grow (h : g.Holds found) (f : Found) :
    (g.grow f.sprout f.parent).Holds (found ++ [f]) := by
  refine ⟨?_, ?_, ?_⟩
  · rw [Found.graph_concat, ← h.nodeOf, ← h.graph]
    rfl
  · intro tag
    simp only [Growth.grow, Std.HashMap.getD_insert, h.counts, List.countP_append,
      List.countP_singleton, Found.sprout]
    by_cases htag : f.content.tag = tag
    · simp [htag]
    · simp [htag]
  · rw [List.length_append, ← h.index]
    rfl

theorem add_eq (h : g.Holds found) (f : Found) :
    g.add f.sprout f.parent =
      if (f.node found).id ∈ Found.ids found then .error (.duplicateNode (f.node found).id)
      else .ok (g.grow f.sprout f.parent, found.length) := by
  have hfull : g.graph.free = [] := by
    rw [h.graph]
    rfl
  have hsize : g.graph.slots.size = found.length := by
    rw [h.graph, Found.size_slots_graph]
  have hchild : ∀ e ∈ g.graph.edges, e.2 < g.graph.slots.size := by
    rw [hsize, h.graph]
    exact fun e he => Found.child_lt_length he
  have hid : (g.graph.slotOf? (f.node found).id).isSome = true ↔
      (f.node found).id ∈ Found.ids found := by
    rw [Option.isSome_iff_ne_none, h.graph, Ne, Found.slotOf?_graph_eq_none_iff, not_not]
  rw [Growth.add_eq hfull hchild, h.nodeOf, hsize]
  simp only [hid]

end Holds

def Ends (found : List Found) : Except GraphError Growth → Prop
  | .ok g => (Found.ids found).Nodup ∧ g.Holds found
  | .error _ => ¬ (Found.ids found).Nodup

-- By induction along the run; what was found so far is that of the nodes built so far.
theorem ends_run (config : BuildConfig) (g : Growth) (found : List Found)
    (stack : List (Content × Option Slot)) (h : g.Holds found) (hids : (Found.ids found).Nodup) :
    Ends (found ++ Content.preorderStack config found.length stack) (run config g stack) := by
  induction g, stack using run.induct config generalizing found with
  | case1 g =>
    rw [run, Content.preorderStack, List.append_nil]
    exact ⟨hids, h⟩
  | case2 g c parent rest hnone ih =>
    rw [run_skip config g c parent rest hnone]
    rw [Content.of?_eq config parent c] at hnone
    split at hnone
    · contradiction
    · next hout =>
      rw [Content.preorderStack_skip hout]
      exact ih found h hids
  | case3 g c parent rest s hsome ih =>
    rw [run_add config g c parent rest s hsome]
    rw [Content.of?_eq config parent c] at hsome
    split at hsome
    · next hin =>
      obtain rfl := Option.some.inj hsome
      rw [Content.preorderStack_visit hin, List.append_cons, h.add_eq]
      have hnodup := Found.nodup_ids_concat hids ⟨c, parent⟩
      split
      · next hid =>
        -- An id that is taken stays taken, whatever else is to be found.
        intro hnew
        have hold := hnew.sublist (Found.ids_prefix _ _).sublist
        exact hnodup.mp hold hid
      · next hid =>
        have hrest := ih _ (found.length) _ (h.grow ⟨c, parent⟩) (hnodup.mpr hid)
        rw [List.length_append] at hrest
        exact hrest
    · contradiction

end Growth

theorem Graph.ofDocument_preorder (config : BuildConfig) (d : Document) :
    (∀ g, ofDocument config d = .ok g ↔
      (Found.ids (Found.ofDocument config d)).Nodup ∧
        g = Found.graph (Found.ofDocument config d)) ∧
    (Found.graph (Found.ofDocument config d)).Lists (Found.ofDocument config d) := by
  refine ⟨?_, Found.lists_graph _⟩
  intro g
  have hrun := Growth.ends_run config {} [] (d.children.map (·, none)) Growth.Holds.empty
    List.nodup_nil
  rw [List.nil_append, List.length_nil, Content.preorderStack_map] at hrun
  rw [ofDocument, Found.ofDocument]
  cases hend : Growth.run config {} (d.children.map (·, none)) with
  | error e =>
    rw [hend] at hrun
    constructor
    · intro h
      cases h
    · rintro ⟨hids, _⟩
      exact absurd hids hrun
  | ok built =>
    rw [hend] at hrun
    obtain ⟨hids, hbuilt⟩ := hrun
    rw [← hbuilt.graph]
    constructor
    · intro h
      exact ⟨hids, (Except.ok.inj h).symm⟩
    · rintro ⟨_, rfl⟩
      rfl

namespace Found

theorem ends_ofDocument (config : BuildConfig) (d : Document) :
    Growth.Ends (ofDocument config d) (Growth.run config {} (d.children.map (·, none))) := by
  have hrun := Growth.ends_run config {} [] (d.children.map (·, none)) Growth.Holds.empty
    List.nodup_nil
  rwa [List.nil_append, List.length_nil, Content.preorderStack_map] at hrun

theorem eq_graph_of_ok {config : BuildConfig} {d : Document} {g : Graph}
    (h : Graph.ofDocument config d = .ok g) : g = graph (ofDocument config d) := by
  obtain ⟨built, hrun, hbuilt⟩ := bind_eq_ok.mp h
  have hends := ends_ofDocument config d
  rw [hrun] at hends
  rw [← hends.2.graph]
  exact (Except.ok.inj hbuilt).symm

theorem nodup_ids_of_ok {config : BuildConfig} {d : Document} {g : Graph}
    (h : Graph.ofDocument config d = .ok g) : (ids (ofDocument config d)).Nodup := by
  obtain ⟨built, hrun, _⟩ := bind_eq_ok.mp h
  have hends := ends_ofDocument config d
  rw [hrun] at hends
  exact hends.1

theorem ok_of_nodup {config : BuildConfig} {d : Document} (h : (ids (ofDocument config d)).Nodup) :
    Graph.ofDocument config d = .ok (graph (ofDocument config d)) := by
  have hends := ends_ofDocument config d
  rw [Graph.ofDocument]
  cases hrun : Growth.run config {} (d.children.map (·, none)) with
  | error e =>
    rw [hrun] at hends
    exact absurd h hends
  | ok built =>
    rw [hrun] at hends
    rw [← hends.2.graph]
    rfl

end Found

end PageGraph
