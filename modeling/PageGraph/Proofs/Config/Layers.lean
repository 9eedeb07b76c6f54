import PageGraph.Command.Execution
import PageGraph.Proofs.Json.Leaving

namespace PageGraph

variable {left : String → Bool} {j : Json}

namespace BuildConfig

def resetting (left : String → Bool) (c : BuildConfig) : BuildConfig where
  deniedTags := if left "denied_tags" then ({} : BuildConfig).deniedTags else c.deniedTags
  deniedTexts := if left "denied_texts" then ({} : BuildConfig).deniedTexts else c.deniedTexts

theorem plain_toJson (c : BuildConfig) : c.toJson.Plain := by
  refine .object fun f hf => ?_
  simp only [List.mem_cons, List.not_mem_nil, or_false] at hf
  rcases hf with rfl | rfl
  · exact Json.plain_ofTexts c.deniedTags
  · exact Json.plain_ofTexts c.deniedTexts

theorem ofJson?_leaves (c : BuildConfig) (h : c.toJson.Leaves left j) :
    ofJson? j = some (c.resetting left) := by
  obtain ⟨r, hr, hread⟩ := Json.record?_leaves ["denied_tags", "denied_texts"] rfl (by decide) h
  have htags := hread "denied_tags" (.ofTexts c.deniedTags) _ ({} : BuildConfig).deniedTags _
    (by simp) (Json.reads_whole rfl (Json.list?_ofTexts _))
  have htexts := hread "denied_texts" (.ofTexts c.deniedTexts) _ ({} : BuildConfig).deniedTexts _
    (by simp) (Json.reads_whole rfl (Json.list?_ofTexts _))
  rw [ofJson?, hr]
  simp only [Option.bind_eq_bind, Option.bind_some, htags, htexts]
  rfl

end BuildConfig

namespace PruneConfig

def resetting (left : String → Bool) (c : PruneConfig) : PruneConfig where
  keptTags := if left "keep_tags" then ({} : PruneConfig).keptTags else c.keptTags

theorem plain_toJson (c : PruneConfig) : c.toJson.Plain := by
  refine .object fun f hf => ?_
  obtain rfl := List.mem_singleton.mp hf
  exact Json.plain_ofTexts c.keptTags

theorem ofJson?_leaves (c : PruneConfig) (h : c.toJson.Leaves left j) :
    ofJson? j = some (c.resetting left) := by
  obtain ⟨r, hr, hread⟩ := Json.record?_leaves ["keep_tags"] rfl (by decide) h
  have htags := hread "keep_tags" (.ofTexts c.keptTags) _ ({} : PruneConfig).keptTags _
    (by simp) (Json.reads_whole rfl (Json.list?_ofTexts _))
  rw [ofJson?, hr]
  simp only [Option.bind_eq_bind, Option.bind_some, htags]
  rfl

end PruneConfig

namespace SearchConfig

def resetting (left : String → Bool) (c : SearchConfig) : SearchConfig where
  topAnchors := if left "top_k_anchors" then ({} : SearchConfig).topAnchors else c.topAnchors
  topNeighbours :=
    if left "top_k_neighbors" then ({} : SearchConfig).topNeighbours else c.topNeighbours
  ignoreCase := if left "case_insensitive" then ({} : SearchConfig).ignoreCase else c.ignoreCase
  window := if left "snippet_window" then ({} : SearchConfig).window else c.window

theorem plain_toJson (c : SearchConfig) : c.toJson.Plain := by
  refine .object fun f hf => ?_
  simp only [List.mem_cons, List.not_mem_nil, or_false] at hf
  rcases hf with rfl | rfl | rfl | rfl
  · exact .number _
  · exact .number _
  · exact .bool _
  · exact .number _

theorem ofJson?_leaves (c : SearchConfig) (h : c.toJson.Leaves left j) :
    ofJson? j = some (c.resetting left) := by
  obtain ⟨r, hr, hread⟩ := Json.record?_leaves
    ["top_k_anchors", "top_k_neighbors", "case_insensitive", "snippet_window"] rfl (by decide) h
  have hanchors := hread "top_k_anchors" (.ofNat c.topAnchors.toNat) _
    ({} : SearchConfig).topAnchors _ (by simp) (Json.reads_whole rfl (Json.uint64?_ofNat _))
  have hneighbours := hread "top_k_neighbors" (.ofNat c.topNeighbours.toNat) _
    ({} : SearchConfig).topNeighbours _ (by simp) (Json.reads_whole rfl (Json.uint64?_ofNat _))
  have hcase := hread "case_insensitive" (.bool c.ignoreCase) Json.bool?
    ({} : SearchConfig).ignoreCase _ (by simp) (Json.reads_whole rfl rfl)
  have hwindow := hread "snippet_window" (.ofNat c.window.toNat) _
    ({} : SearchConfig).window _ (by simp) (Json.reads_whole rfl (Json.uint64?_ofNat _))
  rw [ofJson?, hr]
  simp only [Option.bind_eq_bind, Option.bind_some, hanchors, hneighbours, hcase, hwindow]
  rfl

end SearchConfig

namespace FetchConfig

def resetting (left : String → Bool) (c : FetchConfig) : FetchConfig where
  userAgent := if left "user_agent" then ({} : FetchConfig).userAgent else c.userAgent
  timeoutSeconds :=
    if left "timeout_secs" then ({} : FetchConfig).timeoutSeconds else c.timeoutSeconds

theorem plain_toJson (c : FetchConfig) : c.toJson.Plain := by
  refine .object fun f hf => ?_
  simp only [List.mem_cons, List.not_mem_nil, or_false] at hf
  rcases hf with rfl | rfl
  · exact .string _
  · exact .number _

theorem ofJson?_leaves (c : FetchConfig) (h : c.toJson.Leaves left j) :
    ofJson? j = some (c.resetting left) := by
  obtain ⟨r, hr, hread⟩ := Json.record?_leaves ["user_agent", "timeout_secs"] rfl (by decide) h
  have hagent := hread "user_agent" (.string c.userAgent) Json.text? ({} : FetchConfig).userAgent _
    (by simp) (Json.reads_whole rfl rfl)
  have htimeout := hread "timeout_secs" (.ofNat c.timeoutSeconds.toNat) _
    ({} : FetchConfig).timeoutSeconds _ (by simp) (Json.reads_whole rfl (Json.uint64?_ofNat _))
  rw [ofJson?, hr]
  simp only [Option.bind_eq_bind, Option.bind_some, hagent, htimeout]
  rfl

end FetchConfig

namespace Config

def resetting (left : String → Bool) (c : Config) : Config where
  build := if left "builder" then {} else c.build.resetting left
  prune := if left "pruner" then {} else c.prune.resetting left
  search := if left "search" then {} else c.search.resetting left
  fetch := if left "fetch" then {} else c.fetch.resetting left

theorem plain_toJson (c : Config) : c.toJson.Plain := by
  refine .object fun f hf => ?_
  simp only [List.mem_cons, List.not_mem_nil, or_false] at hf
  rcases hf with rfl | rfl | rfl | rfl
  · exact c.build.plain_toJson
  · exact c.prune.plain_toJson
  · exact c.search.plain_toJson
  · exact c.fetch.plain_toJson

theorem ofJson?_leaves (c : Config) (h : c.toJson.Leaves left j) :
    ofJson? j = some (c.resetting left) := by
  obtain ⟨r, hr, hread⟩ :=
    Json.record?_leaves ["builder", "pruner", "search", "fetch"] rfl (by decide) h
  have hbuild := hread "builder" c.build.toJson _ {} _ (by simp) fun _ => c.build.ofJson?_leaves
  have hprune := hread "pruner" c.prune.toJson _ {} _ (by simp) fun _ => c.prune.ofJson?_leaves
  have hsearch := hread "search" c.search.toJson _ {} _ (by simp) fun _ => c.search.ofJson?_leaves
  have hfetch := hread "fetch" c.fetch.toJson _ {} _ (by simp) fun _ => c.fetch.ofJson?_leaves
  rw [ofJson?, hr]
  simp only [Option.bind_eq_bind, Option.bind_some, hbuild, hprune, hsearch, hfetch]
  rfl

theorem load?_leaves (c : Config) {text : String} (hparse : Json.parse? text = some j)
    (h : c.toJson.Leaves left j) : load? (some text) = some (c.resetting left) := by
  rw [load?]
  simp only [Option.bind_eq_bind, Option.bind_some, hparse, c.ofJson?_leaves h]

theorem load?_render (c : Config) (left : String → Bool) :
    load? (some (c.toJson.without left).render) = some (c.resetting left) :=
  c.load?_leaves (Json.parse?_render c.plain_toJson.without) (Json.leaves_without c.toJson)

def Found (read? : String → Option String) (env : Environment) (file : Config) : Prop :=
  (∃ path, env.configPath = some path ∧ load? (read? path) = some file) ∨
    (file = {} ∧ ∀ path, env.configPath = some path → load? (read? path) = none)

def Overridden {α : Type} (sets : α → Prop) (old new : α) : Prop :=
  (∀ a, sets a → new = a) ∧ ((∀ a, ¬ sets a) → new = old)

def Sets (setting : Option String) (n : UInt64) : Prop :=
  ∃ s, setting = some s ∧ Numeral.Denotes s n.toNat

structure Overlays (env : Environment) (file c : Config) : Prop where
  build : c.build = file.build
  prune : c.prune = file.prune
  ignoreCase : c.search.ignoreCase = file.search.ignoreCase
  window : c.search.window = file.search.window
  userAgent : Overridden (env.userAgent = some ·) file.fetch.userAgent c.fetch.userAgent
  timeoutSeconds :
    Overridden (Sets env.timeoutSeconds) file.fetch.timeoutSeconds c.fetch.timeoutSeconds
  topAnchors : Overridden (Sets env.topK) file.search.topAnchors c.search.topAnchors
  topNeighbours : Overridden (Sets env.topK) file.search.topNeighbours c.search.topNeighbours

theorem overridden_getD {α : Type} (set? : Option α) (old : α) :
    Overridden (set? = some ·) old (set?.getD old) := by
  cases set? with
  | none => exact ⟨nofun, fun _ => rfl⟩
  | some a =>
    refine ⟨fun _ h => Option.some.inj h, fun h => ?_⟩
    exact (h a rfl).elim

theorem sets_iff {setting : Option String} {n : UInt64} :
    Sets setting n ↔ setting.bind Numeral.readUInt64? = some n := by
  rw [Option.bind_eq_some_iff]
  exact exists_congr fun s => and_congr_right fun _ => Numeral.readUInt64?_eq_some_iff.symm

theorem overridden_number (setting : Option String) (old : UInt64) :
    Overridden (Sets setting) old ((setting.bind Numeral.readUInt64?).getD old) := by
  have hsets : Sets setting = (setting.bind Numeral.readUInt64? = some ·) :=
    funext fun n => propext sets_iff
  rw [hsets]
  exact overridden_getD _ old

theorem overlays_ofEnvironment (read? : String → Option String) (env : Environment) :
    ∃ file, Found read? env file ∧ Overlays env file (ofEnvironment read? env) := by
  refine ⟨(env.configPath.bind fun path => load? (read? path)).getD {}, ?_, ?_⟩
  · unfold Found
    cases env.configPath with
    | none => exact .inr ⟨rfl, nofun⟩
    | some path =>
      cases hload : load? (read? path) with
      | none => exact .inr ⟨by simp [hload], by rintro _ ⟨⟩; exact hload⟩
      | some file => exact .inl ⟨path, rfl, by simp [hload]⟩
  · exact {
      build := rfl
      prune := rfl
      ignoreCase := rfl
      window := rfl
      userAgent := overridden_getD _ _
      timeoutSeconds := overridden_number _ _
      topAnchors := overridden_number _ _
      topNeighbours := overridden_number _ _ }

theorem configOf_none (w : World Id) :
    Command.configOf w none = .ok (ofEnvironment w.read w.environment) := by
  unfold Command.configOf ofEnvironment
  cases w.environment.configPath <;> rfl

/-- A configuration that is written with fields and sections left out, on one line or in any other
way, is loaded with just these at their defaults. The environment always gives a configuration: that
of the file, but for the fields it sets, one by one. -/
theorem layered :
    (∀ (c : Config) (left : String → Bool),
        load? (some (c.toJson.without left).render) = some (c.resetting left) ∧
        ∀ text j, Json.parse? text = some j → c.toJson.Leaves left j →
          load? (some text) = some (c.resetting left)) ∧
      (∀ (read? : String → Option String) (env : Environment),
        ∃ file, Found read? env file ∧ Overlays env file (ofEnvironment read? env)) ∧
      ∀ w : World Id, Command.configOf w none = .ok (ofEnvironment w.read w.environment) :=
  ⟨fun c left => ⟨c.load?_render left, fun _ _ => c.load?_leaves⟩, overlays_ofEnvironment,
    configOf_none⟩

theorem layered_partialFile :
    load? (some
      "\x7b\"search\":\x7b\"top_k_anchors\":3\x7d,\"pruner\":\x7b\"keep_tags\":[\"li\"]\x7d\x7d") =
      some { prune := ⟨["li"]⟩, search := { topAnchors := 3 } } := by
  change load? (some (Json.render (.object [("search", .object [("top_k_anchors", .ofNat 3)]),
    ("pruner", .object [("keep_tags", .ofTexts ["li"])])]))) = _
  refine (layered.1 { prune := ⟨["li"]⟩, search := { topAnchors := 3, topNeighbours := 7 } }
    fun name => !(["pruner", "keep_tags", "search", "top_k_anchors"].contains name)).2 _ _
    (Json.parse?_render ?_) ?_
  · refine .object (List.forall_mem_cons.mpr ⟨?_, List.forall_mem_singleton.mpr ?_⟩)
    · exact .object (List.forall_mem_singleton.mpr (.number 3))
    · exact .object (List.forall_mem_singleton.mpr (Json.plain_ofTexts ["li"]))
  · refine .object (.drop (by decide) (.keep (by decide) ?_ (.keep (by decide) ?_
      (.drop (by decide) .nil)))) (.swap _ _ _)
    · exact .object (.keep (by decide) (.whole rfl) .nil) (.refl _)
    · exact .object (.keep (by decide) (.whole rfl) (.drop (by decide) (.drop (by decide)
        (.drop (by decide) .nil)))) (.refl _)

end Config

end PageGraph
