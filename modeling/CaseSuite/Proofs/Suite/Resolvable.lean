import CaseSuite.Proofs.Suite.Flattening
/-!
When a configuration resolves at all. What is asked of a case depends on whether something on its
way is skipped and on whether it runs: steps have to be built for every case that is not skipped,
requests only for the cases that run and for the leaves these select.
-/
set_option autoImplicit false

namespace CaseSuite

variable {m : Type → Type} {ρ : Type}

namespace Config

section

variable (c : Config) (r : Registry m ρ)

/-- Every service that a case names is declared and builds the step that the case asks of it. -/
structure BuildsOwnSteps (own : CaseFields) : Prop where
  preparers : ∀ entry ∈ own.prepareServices, ∃ preparer, c.BuildsPreparer r entry preparer
  checkers : ∀ entry ∈ own.checkServices.flatten, ∃ checker, c.BuildsChecker r entry checker

variable [Joinable ρ]

/-- What a selector needs: of general cases that it does not take, no more than their names. -/
structure BuildsSelected (s : Selector) : Prop where
  declared : ∀ name ∈ s.includes ++ s.excludes, name ∈ c.generalCases.names
  request : ∀ value ∈ s.request, ∃ request, c.BuildsRequest r value request
  leaves : ∀ general ∈ c.generalCases, s.Takes general → ∀ leaf ∈ general.2.cases,
    (∃ request, c.BuildsJoined r leaf.2.own.request s.request request) ∧
      c.BuildsOwnSteps r leaf.2.own

/-- What a case needs for its tests: those of the leaves it selects, and its own. -/
structure BuildsTests (own : CaseFields) : Prop where
  selected : ∀ s ∈ own.generalCases, c.BuildsSelected r s
  own : own.AsksTest → ∃ request, c.BuildsJoined r own.request own.modifyRequest request

/-- What a case needs at the end of its way. -/
structure BuildsAt (w : Way) : Prop where
  steps : (∀ entry ∈ w, entry.2.isSkipped = false) → c.BuildsOwnSteps r w.own
  tests : c.Runs w → c.BuildsTests r w.own

/-- Everything that a configuration names is there and can be built. -/
structure Resolvable : Prop where
  environment : ∀ entry ∈ c.environment, ∃ factory action,
    r.initializers.find? entry.1 = some factory ∧ factory entry.2 = .ok action
  services : ∀ entry ∈ c.services, ∃ factory service,
    r.services.find? entry.2.serviceType = some factory ∧
      factory ⟨entry.1, c.baseDir⟩ (.object entry.2.params) = .ok service
  requestType : ∃ factory, r.requesters.find? c.application.requestType = some factory
  cases : ∀ w ∈ c.ways, c.BuildsAt r w

end

variable {c : Config} {r : Registry m ρ}

theorem BuildsRequest.unique {value : Value} {q q' : ρ} (h : c.BuildsRequest r value q)
    (h' : c.BuildsRequest r value q') : q = q' := by
  obtain ⟨factory, hfactory, hq⟩ := h
  obtain ⟨factory', hfactory', hq'⟩ := h'
  obtain rfl := Except.ok.inj (hfactory.symm.trans hfactory')
  exact Except.ok.inj (hq.symm.trans hq')

theorem override_unique {change : Option Value} {above above' : Option ρ}
    (h : Option.Rel (c.BuildsRequest r) change above)
    (h' : Option.Rel (c.BuildsRequest r) change above') : above = above' := by
  cases h with
  | none =>
    cases h'
    rfl
  | some hq =>
    cases h' with
    | some hq' => rw [hq.unique hq']

theorem buildsAt_of_skipped [Joinable ρ] {w : Way} {entry : String × CaseFields} (hmem : entry ∈ w)
    (h : entry.2.isSkipped = true) : c.BuildsAt r w where
  steps hkept := absurd (hkept entry hmem) (by simp [h])
  tests hruns := absurd (hruns.1 entry hmem) (by simp [h])

end Config

namespace TestBuilder

variable {b : TestBuilder m ρ} {c : Config} {r : Registry m ρ} {steps : ServiceSteps m}

theorem Serves.exists_extend (hb : b.Serves c r) (case : String) (steps : ServiceSteps m)
    {own : CaseFields} :
    (∃ steps', b.extend case steps own = .ok steps') ↔ c.BuildsOwnSteps r own := by
  have hpreparers : (∃ preparers, own.prepareServices.mapM (b.preparer case) = .ok preparers) ↔
      ∀ entry ∈ own.prepareServices, ∃ preparer, c.BuildsPreparer r entry preparer := by
    simp only [exists_mapM_eq_ok, hb.preparer_eq_ok]
  have hcheckers :
      (∃ checkers, own.checkServices.flatten.mapM (b.checker case) = .ok checkers) ↔
        ∀ entry ∈ own.checkServices.flatten, ∃ checker, c.BuildsChecker r entry checker := by
    simp only [exists_mapM_eq_ok, hb.checker_eq_ok]
  constructor
  · rintro ⟨steps', h⟩
    obtain ⟨preparers, hp, h⟩ := bind_eq_ok.mp h
    obtain ⟨checkers, hc, _⟩ := bind_eq_ok.mp h
    exact ⟨hpreparers.mp ⟨_, hp⟩, hcheckers.mp ⟨_, hc⟩⟩
  · rintro ⟨hp, hc⟩
    obtain ⟨preparers, hp⟩ := hpreparers.mpr hp
    obtain ⟨checkers, hc⟩ := hcheckers.mpr hc
    exact ⟨_, bind_eq_ok.mpr ⟨_, hp, bind_eq_ok.mpr ⟨_, hc, rfl⟩⟩⟩

variable [Joinable ρ]

/-- Of a leaf, its request is needed with the selector's over it, and its own steps. -/
theorem Serves.exists_leafTest (hb : b.Serves c r) {override : Option ρ} {change : Option Value}
    (hover : Option.Rel (c.BuildsRequest r) change override) {name : String} {leaf : CaseFields} :
    (∃ t, b.leafTest steps override name leaf = .ok t) ↔
      (∃ request, c.BuildsJoined r leaf.request change request) ∧ c.BuildsOwnSteps r leaf := by
  rw [← hb.exists_extend name steps]
  constructor
  · rintro ⟨t, h⟩
    obtain ⟨value, below, request, steps', hv, hbelow, hq, hsteps, _⟩ := leafTest_eq_ok.mp h
    have hbelow := hb.requestOf_eq_ok.mp hbelow
    have hjoined := (buildsJoined_iff _).mpr ⟨value, below, override, hv, hbelow, hover, hq⟩
    exact ⟨⟨request, hjoined⟩, steps', hsteps⟩
  · rintro ⟨⟨request, hq⟩, steps', hsteps⟩
    obtain ⟨value, below, above, hv, hbelow, habove, hq⟩ :=
      (buildsJoined_iff (.selectorNotJoined name)).mp hq
    -- the request over the leaf's is the one that was built for the selector
    obtain rfl := Config.override_unique hover habove
    have hbelow : b.requestOf name value = .ok below := hb.requestOf_eq_ok.mpr hbelow
    exact ⟨_, leafTest_eq_ok.mpr ⟨value, below, request, steps', hv, hbelow, hq, hsteps, rfl⟩⟩

omit [Joinable ρ] in
theorem Serves.checkNames_eq_ok (hb : b.Serves c r) {s : Selector} :
    b.checkNames s = .ok () ↔ ∀ name ∈ s.includes ++ s.excludes, name ∈ c.generalCases.names := by
  rw [checkNames, forM_eq_ok]
  refine forall₂_congr fun name _ => ?_
  rw [← hb.generalCases, ← Entries.has_iff]
  cases b.generalCases.has name <;> simp

theorem Serves.exists_generalTests (hb : b.Serves c r) {override : Option ρ} {s : Selector}
    (hover : Option.Rel (c.BuildsRequest r) s.request override) {case : String} :
    (∃ testss, (b.generalCases.filter fun g => s.selects g.1 g.2).mapM
        (b.generalTests case steps override) = .ok testss) ↔
      ∀ general ∈ c.generalCases, s.Takes general → ∀ leaf ∈ general.2.cases,
        (∃ request, c.BuildsJoined r leaf.2.own.request s.request request) ∧
          c.BuildsOwnSteps r leaf.2.own := by
  simp only [exists_mapM_eq_ok, generalTests, hb.exists_leafTest hover, hb.generalCases,
    List.mem_filter, s.selects_iff, and_imp]

theorem Serves.exists_selectedTests (hb : b.Serves c r) {case : String} {s : Selector} :
    (∃ tests, b.selectedTests case steps s = .ok tests) ↔ c.BuildsSelected r s := by
  have hrequest : (∃ override, s.request.mapM (b.requestOf case) = .ok override) ↔
      ∀ value ∈ s.request, ∃ request, c.BuildsRequest r value request := by
    simp only [exists_optionMapM_eq_ok, hb.requestOf_eq_ok]
  constructor
  · rintro ⟨tests, h⟩
    obtain ⟨_, hnames, h⟩ := bind_eq_ok.mp h
    obtain ⟨override, hover, h⟩ := bind_eq_ok.mp h
    obtain ⟨testss, htests, _⟩ := map_eq_ok.mp h
    have hleaves := (hb.exists_generalTests (hb.override_rel hover)).mp ⟨_, htests⟩
    exact ⟨hb.checkNames_eq_ok.mp hnames, hrequest.mp ⟨_, hover⟩, hleaves⟩
  · rintro ⟨hnames, hchange, hleaves⟩
    obtain ⟨override, hover⟩ := hrequest.mpr hchange
    obtain ⟨testss, htests⟩ := (hb.exists_generalTests (hb.override_rel hover)).mpr hleaves
    refine ⟨testss.flatten, bind_eq_ok.mpr ⟨(), hb.checkNames_eq_ok.mpr hnames, ?_⟩⟩
    exact bind_eq_ok.mpr ⟨override, hover, map_eq_ok.mpr ⟨testss, htests, rfl⟩⟩

theorem Serves.exists_generalTestsOf (hb : b.Serves c r) {own : CaseFields}
    (h : ∀ s, own.generalCases = some s → c.BuildsSelected r s) (case : String)
    (steps : ServiceSteps m) :
    ∃ general, match own.generalCases with
      | none => general = []
      | some s => b.selectedTests case steps s = .ok general := by
  cases hs : own.generalCases with
  | none => exact ⟨[], rfl⟩
  | some s => exact hb.exists_selectedTests.mpr (h s hs)

theorem Serves.exists_caseTests (hb : b.Serves c r) {case : String} {own : CaseFields} :
    (∃ tests, b.caseTests case steps own = .ok tests) ↔ c.BuildsTests r own := by
  simp only [caseTests_eq_ok]
  constructor
  · rintro ⟨tests, general, hgeneral, hown⟩
    constructor
    · intro s hs
      rw [hs] at hgeneral
      exact hb.exists_selectedTests.mp ⟨general, hgeneral⟩
    · intro hasks
      rw [if_pos (own.definesRequest_iff.mpr hasks)] at hown
      obtain ⟨request, hrequest, _⟩ := hown
      exact ⟨request, hb.ownRequest_eq_ok.mp hrequest⟩
  · rintro ⟨hselected, hown⟩
    obtain ⟨general, hgeneral⟩ := hb.exists_generalTestsOf hselected case steps
    by_cases hasks : own.AsksTest
    · obtain ⟨request, hrequest⟩ := hown hasks
      refine ⟨general ++ [test case steps request own], general, hgeneral, ?_⟩
      rw [if_pos (own.definesRequest_iff.mpr hasks)]
      exact ⟨request, hb.ownRequest_eq_ok.mpr hrequest, rfl⟩
    · refine ⟨general, general, hgeneral, ?_⟩
      rw [if_neg (mt own.definesRequest_iff.mp hasks)]

mutual

/-- The tests of a case and of all below it are built if each of these has what it needs. -/
theorem Serves.exists_nodeTests (hb : b.Serves c r) {above : Way} {name : String}
    {steps : ServiceSteps m} {runs : Bool} (hands : Hands b c r above steps runs) :
    (node : CaseNode) →
      ((∃ tests, b.nodeTests (qualify above.name name) steps runs node = .ok tests) ↔
        ∀ w ∈ node.ways above name, c.BuildsAt r w)
  | ⟨own, cases⟩ => by
    cases hskipped : own.isSkipped with
    | true =>
      have hbuilds : ∀ w ∈ CaseNode.ways above name ⟨own, cases⟩, c.BuildsAt r w := by
        intro w hw
        have hmem : (name, own) ∈ w := (CaseNode.isPrefix_of_mem_ways _ hw).subset (by simp)
        exact Config.buildsAt_of_skipped hmem hskipped
      rw [nodeTests, if_pos hskipped]
      exact ⟨fun _ => hbuilds, fun _ => ⟨[], rfl⟩⟩
    | false =>
      rw [← Way.name_concat above (name, own), CaseNode.ways, List.forall_mem_cons]
      simp only [nodeTests_eq_ok hskipped]
      constructor
      · rintro ⟨_, steps', mine, below, hsteps, hmine, hbelow, _⟩
        have hands' : Hands b c r (above ++ [(name, own)]) steps' _ :=
          hands.step hb hskipped hsteps
        refine ⟨⟨fun _ => ?_, fun hruns => ?_⟩, (hb.exists_treeTests hands' cases).mp ⟨_, hbelow⟩⟩
        · rw [Way.own_concat]
          exact (hb.exists_extend _ steps).mp ⟨steps', hsteps⟩
        · rw [if_pos ((hb.runs_iff hands).mpr hruns.2)] at hmine
          rw [Way.own_concat]
          exact hb.exists_caseTests.mp ⟨mine, hmine⟩
      · rintro ⟨⟨hown, htests⟩, hcases⟩
        rw [Way.own_concat] at hown htests
        have hkept : ∀ entry ∈ above ++ [(name, own)], entry.2.isSkipped = false := by
          simp only [List.forall_mem_append, List.forall_mem_singleton]
          exact ⟨hands.kept, hskipped⟩
        obtain ⟨steps', hsteps⟩ := (hb.exists_extend _ steps).mpr (hown hkept)
        have hands' : Hands b c r (above ++ [(name, own)]) steps' _ :=
          hands.step hb hskipped hsteps
        obtain ⟨below, hbelow⟩ := (hb.exists_treeTests hands' cases).mpr hcases
        -- a case that does not run adds no tests, but cases below it may, with its steps
        by_cases hruns : b.runs (Way.name (above ++ [(name, own)])) runs = true
        · obtain ⟨mine, hmine⟩ :=
            hb.exists_caseTests.mpr (htests ⟨hkept, (hb.runs_iff hands).mp hruns⟩)
          exact ⟨_, steps', mine, below, hsteps, by rwa [if_pos hruns], hbelow, rfl⟩
        · exact ⟨_, steps', [], below, hsteps, by rw [if_neg hruns], hbelow, rfl⟩

theorem Serves.exists_treeTests (hb : b.Serves c r) {above : Way} {steps : ServiceSteps m}
    {runs : Bool} (hands : Hands b c r above steps runs) : (cases : List (String × CaseNode)) →
      ((∃ tests, b.treeTests above.name steps runs cases = .ok tests) ↔
        ∀ w ∈ waysBelow above cases, c.BuildsAt r w)
  | [] => by simp [treeTests, waysBelow]
  | (name, node) :: cases => by
    rw [waysBelow, List.forall_mem_append, ← hb.exists_nodeTests hands node,
      ← hb.exists_treeTests hands cases]
    constructor
    · rintro ⟨_, h⟩
      obtain ⟨first, hfirst, h⟩ := bind_eq_ok.mp h
      obtain ⟨others, hothers, _⟩ := bind_eq_ok.mp h
      exact ⟨⟨first, hfirst⟩, others, hothers⟩
    · rintro ⟨⟨first, hfirst⟩, others, hothers⟩
      exact ⟨first ++ others, bind_eq_ok.mpr ⟨first, hfirst, bind_eq_ok.mpr ⟨others, hothers, rfl⟩⟩⟩

end

end TestBuilder

namespace Suite

variable {c : Config} {r : Registry m ρ}

theorem exists_environment :
    (∃ actions, c.environment.mapM (fun e => r.initializer e.1 e.2) = .ok actions) ↔
      ∀ entry ∈ c.environment, ∃ factory action,
        r.initializers.find? entry.1 = some factory ∧ factory entry.2 = .ok action := by
  rw [exists_mapM_eq_ok]
  refine forall₂_congr fun entry _ => ?_
  unfold Registry.initializer
  cases r.initializers.find? entry.1 <;> simp

theorem exists_services :
    (∃ services, c.services.mapM (buildService r c.baseDir) = .ok services) ↔
      ∀ entry ∈ c.services, ∃ factory service,
        r.services.find? entry.2.serviceType = some factory ∧
          factory ⟨entry.1, c.baseDir⟩ (.object entry.2.params) = .ok service := by
  rw [exists_mapM_eq_ok]
  refine forall₂_congr fun entry _ => ?_
  simp only [buildService, bind_eq_ok, mapError_eq_ok, pure_eq_ok, Registry.service]
  cases r.services.find? entry.2.serviceType <;> simp

theorem exists_requestFactory :
    (∃ factory, r.requestFactory c.application.requestType = .ok factory) ↔
      ∃ factory, r.requesters.find? c.application.requestType = some factory := by
  unfold Registry.requestFactory
  cases r.requesters.find? c.application.requestType <;> simp

/-- A configuration gives a suite exactly if everything that is needed of it can be built. What
stands below a skipped case is not needed, and neither are general cases that no running case
takes. -/
theorem ofConfig_isOk_iff [Joinable ρ] :
    (∃ suite, ofConfig c r = .ok suite) ↔ c.Resolvable r := by
  constructor
  · rintro ⟨suite, h⟩
    obtain ⟨services, factory, henvironment, hservices, hfactory, htests⟩ := ofConfig_eq_ok.mp h
    have hb : (c.builder services factory).Serves c r := serves_builder hservices hfactory
    exact {
      environment := exists_environment.mp ⟨_, henvironment⟩
      services := exists_services.mp ⟨services, hservices⟩
      requestType := exists_requestFactory.mp ⟨factory, hfactory⟩
      cases := (hb.exists_treeTests (hands_root hb) c.cases).mp ⟨_, htests⟩ }
  · intro h
    obtain ⟨environment, henvironment⟩ := exists_environment.mpr h.environment
    obtain ⟨services, hservices⟩ := exists_services.mpr h.services
    obtain ⟨factory, hfactory⟩ := exists_requestFactory.mpr h.requestType
    have hb : (c.builder services factory).Serves c r := serves_builder hservices hfactory
    obtain ⟨tests, htests⟩ := (hb.exists_treeTests (hands_root hb) c.cases).mpr h.cases
    exact ⟨⟨tests, environment⟩,
      ofConfig_eq_ok.mpr ⟨services, factory, henvironment, hservices, hfactory, htests⟩⟩

end Suite

end CaseSuite
