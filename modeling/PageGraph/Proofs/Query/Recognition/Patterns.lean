import PageGraph.Proofs.Query.Recognition.Terms

namespace PageGraph.Query

open Phrase

variable {bound : Nat}

theorem reads_property : Reads bound anywhere readProperty PropertyPhrase.property never := by
  apply reads_ident.bind
  · intro key
    apply (reads_punct ":").bind
    · intro _
      apply reads_value.map
      intro v ts
      rfl
    · intro _ _ _
      exact opens_never _
  · intro _ _ _
    exact opens_never _

theorem reads_properties :
    Reads bound anywhere readProperties
      (fun x : Separated "," PropertyPhrase × Punct "\x7d" => x.1.items PropertyPhrase.property)
      never := by
  apply (reads_property.separated fun _ _ => rfl).bind
  · intro properties
    apply (reads_punct "\x7d").map
    intro _ ts
    rfl
  · rintro ⟨t, ht⟩ rest _
    simp [isPunct_eq_false ht]

theorem reads_node : Reads bound anywhere readNode NodePhrase.node never := by
  apply (reads_punct "(").bind
  · intro _
    apply reads_ident_option.bind
    · intro var
      apply (reads_ident.separated fun _ _ => rfl).announced.bind
      · intro labels
        apply reads_properties.announced.bind
        · intro properties
          apply (reads_punct ")").map
          intro _ ts
          cases labels <;> cases properties <;> rfl
        · rintro ⟨t, ht⟩ rest _
          simp [isPunct_eq_false ht]
      · rintro ⟨_ | ⟨⟨t, ht⟩, x⟩, ⟨t', ht'⟩⟩ rest _
        · simp [isPunct_eq_false ht']
        · simp [isPunct_eq_false ht]
    · rintro ⟨_ | ⟨⟨t, ht⟩, x⟩, _ | ⟨⟨t', ht'⟩, x'⟩, ⟨t'', ht''⟩⟩ rest _
      · simp [isKind_of_isPunct ht'']
      · simp [isKind_of_isPunct ht']
      · simp [isKind_of_isPunct ht]
      · simp [isKind_of_isPunct ht]
  · intro _ _ _
    exact opens_never _

theorem reads_hops :
    Reads bound anywhere readHops HopsPhrase.hops
      (fun t => t.isPunct ".." || isKind .number t) := by
  apply (reads_integer_option _).bind
  · intro min
    apply (reads_integer_option _).announced.map
    intro max ts
    rcases min with _ | n <;> rcases max with _ | ⟨_, _ | m⟩ <;> rfl
  · rintro (_ | ⟨⟨t, ht⟩, max⟩) rest hrest
    · exact (opens_or_eq_false.mp hrest).2
    · simp [isKind_of_isPunct ht]

theorem reads_edgeBody :
    Reads bound anywhere readEdgeBody
      (fun x : Option Ident × Option (Punct ":" × Ident) × Option (Punct "*" × HopsPhrase) ×
          Punct "]" =>
        (x.1.map (·.1.text), x.2.1.map (·.2.1.text), x.2.2.1.map fun y => HopsPhrase.hops y.2))
      never := by
  apply reads_ident_option.bind
  · intro var
    apply reads_ident.announced.bind
    · intro type
      apply reads_hops.announced.bind
      · intro hops
        apply (reads_punct "]").map
        intro _ ts
        rfl
      · rintro ⟨t, ht⟩ rest _
        simp [isPunct_eq_false ht, isKind_of_isPunct ht]
    · rintro ⟨_ | ⟨⟨t, ht⟩, x⟩, ⟨t', ht'⟩⟩ rest _
      · simp [isPunct_eq_false ht']
      · simp [isPunct_eq_false ht]
  · rintro ⟨_ | ⟨⟨t, ht⟩, x⟩, _ | ⟨⟨t', ht'⟩, x'⟩, ⟨t'', ht''⟩⟩ rest _
    · simp [isKind_of_isPunct ht'']
    · simp [isKind_of_isPunct ht']
    · simp [isKind_of_isPunct ht]
    · simp [isKind_of_isPunct ht]

theorem reads_edge :
    Reads bound anywhere readEdge EdgePhrase.edge (fun t => t.isPunct ">") := by
  apply (reads_punct_option "<").bind
  · intro left
    apply (reads_punct "-").bind
    · intro _
      apply reads_edgeBody.announced.bind
      · intro body
        apply (reads_punct "-").bind
        · intro _
          apply (reads_punct_option ">").map
          intro right ts
          rcases left with _ | left <;> rcases right with _ | right <;>
            rcases body with _ | ⟨_, var, type, hops, _⟩ <;> rfl
        · intro _ _ _
          exact opens_never _
      · rintro ⟨⟨t, ht⟩, right⟩ rest _
        simp [isPunct_eq_false ht]
    · intro _ _ _
      exact opens_never _
  · rintro ⟨⟨t, ht⟩, x⟩ rest _
    simp [isPunct_eq_false ht]

theorem reads_step :
    Reads bound anywhere readStep
      (fun s : EdgePhrase × NodePhrase => (EdgePhrase.edge s.1, NodePhrase.node s.2)) never := by
  apply reads_edge.bind
  · intro edge
    apply reads_node.map
    intro node ts
    rfl
  · rintro ⟨⟨t, ht⟩, x⟩ rest _
    simp [isPunct_eq_false ht]

def isEdgeStart (t : Token) : Bool :=
  t.isPunct "-" || t.isPunct "<"

theorem startsEdge_eq : startsEdge = opens isEdgeStart := by
  funext ts
  cases ts <;> rfl

theorem isEdgeStart_of_isKeyword {t : Token} {word : String} (h : t.isKeyword word = true) :
    isEdgeStart t = false := by
  rw [isEdgeStart, isPunct_of_isKeyword h, isPunct_of_isKeyword h, Bool.or_false]

theorem reads_pattern :
    Reads bound anywhere readPattern PatternPhrase.pattern isEdgeStart := by
  have hsteps : Reads bound (opens isEdgeStart) readStep
      (fun s : EdgePhrase × NodePhrase => (EdgePhrase.edge s.1, NodePhrase.node s.2)) never := by
    apply reads_step.guarded
    rintro ⟨⟨_ | ⟨t, ht⟩, ⟨t', ht'⟩, x⟩, y⟩ rest
    · simp [isEdgeStart, ht']
    · simp [isEdgeStart, ht]
  apply Reads.settle
  apply reads_node.bind
  · intro first
    rw [startsEdge_eq]
    apply (hsteps.many fun _ _ => rfl).map
    intro steps ts
    simp only [List.map_map]
    rfl
  · intro _ _ _
    exact opens_never _

theorem length_nodes_pattern (x : PatternPhrase) :
    x.pattern.nodes.length = x.pattern.edges.length + 1 := by
  obtain ⟨first, steps⟩ := x
  rw [PatternPhrase.pattern, List.length_cons, List.length_map, List.length_map]

end PageGraph.Query
