import PageGraph.Proofs.Run.HopRange

namespace PageGraph

def Fetcher.logged [Monad m] (fetch : Fetcher m) : Fetcher (StateT (List String) m) :=
  fun url calls => (·, calls ++ [url]) <$> fetch url

theorem Fetcher.run_map_logged [Monad m] [LawfulMonad m] (fetch : Fetcher m)
    (f : Except FetchError String → α) (url : String) (calls : List String) :
    (f <$> fetch.logged url).run calls =
      (fun answer => (f answer, calls ++ [url])) <$> fetch url := by
  rw [StateT.run_map]
  simp [Fetcher.logged, StateT.run]

namespace QueryAnswer

def withFetch (a : QueryAnswer) : QueryAnswer :=
  { a with stages := a.stages.flatMap fun s => if s = .compile then [.compile, .fetch] else [s] }

def afterFetch (config : Config) (query : String) :
    Except FetchError String → Except RunError QueryAnswer
  | .error e => .error (.fetch e)
  | .ok page => (onPage config query page).map withFetch

theorem onPage_of_error {config : Config} {query : String} {e : QueryError}
    (h : Plan.ofText query config.search = .error e) (page : String) :
    onPage config query page = .error (.query e) := by
  rw [onPage, compile, h]
  rfl

theorem onPage_of_ok {config : Config} {query : String} {plan : Plan}
    (h : Plan.ofText query config.search = .ok plan) (page : String) :
    onPage config query page = ofPlan config plan page [.compile] := by
  rw [onPage, compile, h]
  rfl

theorem ofPlan_eq (config : Config) (plan : Plan) (page : String) :
    (∃ e, ∀ before, ofPlan config plan page before = .error (.graph e)) ∨
      (∃ model f, PageModel.ofPage config page = .ok model ∧
        model.graph.anchors plan.textMatch config.search.window = .error f ∧
        ∀ before, ofPlan config plan page before = .error (.fault f)) ∨
      ∃ a : QueryAnswer, a.plan = plan ∧ ∀ before, ofPlan config plan page before =
        .ok { a with stages := before ++ Stage.onPage } := by
  cases hmodel : PageModel.ofPage config page with
  | error e =>
    refine .inl ⟨e, fun before => ?_⟩
    rw [ofPlan, hmodel]
    rfl
  | ok model =>
    right
    cases hanchors : model.graph.anchors plan.textMatch config.search.window with
    | error f =>
      refine .inl ⟨model, f, rfl, hanchors, fun before => ?_⟩
      simp only [ofPlan, hmodel, hanchors, Except.mapError, bind, Except.bind]
    | ok anchors =>
      refine .inr ⟨ofModel Stage.onPage page model anchors plan, rfl, fun before => ?_⟩
      simp only [ofPlan, hmodel, hanchors, Except.mapError, bind, Except.bind]
      rfl

theorem ofPlan_withFetch (config : Config) (plan : Plan) (page : String) :
    ofPlan config plan page [.compile, .fetch] =
      (ofPlan config plan page [.compile]).map withFetch := by
  rcases ofPlan_eq config plan page with ⟨e, he⟩ | ⟨_, f, _, _, hf⟩ | ⟨a, _, ha⟩
  · rw [he, he]
    rfl
  · rw [hf, hf]
    rfl
  · rw [ha, ha]
    rfl

section Fetching

variable {m : Type → Type} [Monad m] (fetch : Fetcher m) {config : Config} {query : String}

theorem fetching_of_error {e : QueryError} (h : Plan.ofText query config.search = .error e) :
    fetching fetch config query = pure (.error (.query e)) := by
  rw [fetching, compile, h]
  rfl

theorem fetching_of_none {plan : Plan} (h : Plan.ofText query config.search = .ok plan)
    (hpage : plan.page = none) :
    fetching fetch config query = pure (.error (.query (.unsupported .missingPage))) := by
  simp only [fetching, compile, h, Except.mapError, hpage]

theorem fetching_of_some [LawfulMonad m] {plan : Plan} {url : String}
    (h : Plan.ofText query config.search = .ok plan) (hpage : plan.page = some url) :
    fetching fetch config query = afterFetch config query <$> fetch url := by
  rw [map_eq_pure_bind]
  simp only [fetching, compile, h, Except.mapError, hpage]
  congr 1
  funext answer
  cases answer with
  | error e => rfl
  | ok page =>
    rw [afterFetch, onPage_of_ok h, ← ofPlan_withFetch]

end Fetching

theorem page_of_plan {q : Query} {config : SearchConfig} {plan : Plan}
    (hplan : q.plan config = .ok plan) : plan.page = q.page := by
  obtain ⟨pattern, _, h⟩ := bind_eq_ok.mp hplan
  obtain ⟨roles, _, h⟩ := bind_eq_ok.mp h
  obtain ⟨c, _, h⟩ := bind_eq_ok.mp h
  obtain ⟨t, _, h⟩ := bind_eq_ok.mp h
  obtain ⟨⟨⟩, _, h⟩ := bind_eq_ok.mp h
  rw [← Except.ok.inj h]

theorem fetching_onPage {m : Type → Type} [Monad m] [LawfulMonad m] (fetch : Fetcher m)
    (config : Config) (query : String) (calls : List String) :
    fetching fetch config query = Prod.fst <$> (fetching fetch.logged config query).run calls ∧
      (∀ e, Plan.ofText query config.search = .error e →
        (fetching fetch.logged config query).run calls = pure (.error (.query e), calls) ∧
        ∀ page, onPage config query page = .error (.query e)) ∧
      ∀ q plan, Query.parse query = .ok q → q.plan config.search = .ok plan →
        (q.page = none → (fetching fetch.logged config query).run calls =
          pure (.error (.query (.unsupported .missingPage)), calls)) ∧
        (∀ url, q.page = some url → (fetching fetch.logged config query).run calls =
          (fun answer => (afterFetch config query answer, calls ++ [url])) <$> fetch url) ∧
        ∀ page, (∃ e, onPage config query page = .error (.graph e)) ∨
          (∃ model f, PageModel.ofPage config page = .ok model ∧
            model.graph.anchors plan.textMatch config.search.window = .error f ∧
            onPage config query page = .error (.fault f)) ∨
          ∃ a, onPage config query page = .ok a ∧ a.plan = plan ∧
            a.stages = .compile :: Stage.onPage ∧
            a.withFetch.stages = .compile :: .fetch :: Stage.onPage := by
  refine ⟨?_, ?_, ?_⟩
  · cases h : Plan.ofText query config.search with
    | error e => simp [fetching_of_error _ h]
    | ok plan =>
      cases hpage : plan.page with
      | none => simp [fetching_of_none _ h hpage]
      | some url =>
        rw [fetching_of_some _ h hpage, fetching_of_some _ h hpage, fetch.run_map_logged]
        simp
  · intro e h
    refine ⟨?_, onPage_of_error h⟩
    rw [fetching_of_error _ h, StateT.run_pure]
  · intro q plan hq hplan
    have h := Plan.ofText_eq_ok.mpr ⟨q, hq, hplan⟩
    rw [← page_of_plan hplan]
    refine ⟨?_, ?_, ?_⟩
    · intro hpage
      rw [fetching_of_none _ h hpage, StateT.run_pure]
    · intro url hpage
      rw [fetching_of_some _ h hpage, fetch.run_map_logged]
    · intro page
      rw [onPage_of_ok h]
      rcases ofPlan_eq config plan page with ⟨e, he⟩ | ⟨model, f, hmodel, hf, hall⟩ | ⟨a, ha, hall⟩
      · exact .inl ⟨e, he _⟩
      · exact .inr (.inl ⟨model, f, hmodel, hf, hall _⟩)
      · exact .inr (.inr ⟨_, hall _, ha, rfl, rfl⟩)

def namedQuery : String :=
  "USE \"http://risks\" " ++ plainQuery

def namedSyntax : Query :=
  { rangedSyntax.withHops none with page := some "http://risks" }

theorem parse_namedQuery : Query.parse namedQuery = .ok namedSyntax := by
  decide +kernel

theorem plan_namedSyntax :
    namedSyntax.plan {} = .ok { linkPlan with page := some "http://risks" } :=
  rfl

theorem fetching_onPage_linkedHeading :
    ∃ answer, onPage {} namedQuery linkedHeading = .ok answer ∧
      (fetching (Fetcher.logged (m := Id) (PageStore.put {} "http://risks" linkedHeading).fetch) {}
        namedQuery).run [] = (.ok answer.withFetch, ["http://risks"]) ∧
      answer.withFetch.stages = Stage.all := by
  obtain ⟨_, _, hall⟩ := fetching_onPage (m := Id)
    (PageStore.put {} "http://risks" linkedHeading).fetch {} namedQuery []
  obtain ⟨_, hurl, hpage⟩ := hall _ _ parse_namedQuery plan_namedSyntax
  obtain ⟨model, anchors, hmodel, hanchors, _⟩ := exists_model_linkedHeading
  have hplan : Plan.ofText namedQuery ({} : Config).search = .ok _ :=
    Plan.ofText_eq_ok.mpr ⟨_, parse_namedQuery, plan_namedSyntax⟩
  obtain ⟨answer, hanswer⟩ : ∃ answer, onPage {} namedQuery linkedHeading = .ok answer :=
    ⟨_, onPage_eq_ok.mpr ⟨_, model, anchors, hplan, hmodel, hanchors, rfl⟩⟩
  have hstages : answer.withFetch.stages = Stage.all := by
    rcases hpage linkedHeading with ⟨e, he⟩ | ⟨_, f, _, _, hf⟩ | ⟨a, ha, _, _, hstages⟩
    · rw [hanswer] at he
      contradiction
    · rw [hanswer] at hf
      contradiction
    · rw [hanswer] at ha
      cases ha
      exact hstages
  have hfetch : (PageStore.put {} "http://risks" linkedHeading).fetch "http://risks" =
      .ok linkedHeading := rfl
  refine ⟨answer, hanswer, ?_, hstages⟩
  rw [hurl "http://risks" rfl, hfetch]
  change (afterFetch {} namedQuery (.ok linkedHeading), _) = _
  rw [afterFetch, hanswer]
  rfl

end QueryAnswer

end PageGraph
