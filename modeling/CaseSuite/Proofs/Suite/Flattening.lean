import CaseSuite.Proofs.Suite.Alike
import CaseSuite.Proofs.Suite.Way
/-!
What a suite holds once its configuration is resolved: for each origin of a test, in their order,
the test that is built from the fields on its way. The tests of a case tree are taken from ways and
not from the order in which steps are handed down, so that nothing but the way can reach a test.
-/
set_option autoImplicit false

namespace CaseSuite

variable {m : Type → Type} {ρ : Type}

namespace Config

variable (c : Config) (r : Registry m ρ)

/-- The service that is declared under a name, as its type builds it. -/
def BuildsService (name : String) (service : Service m) : Prop :=
  ∃ declaration, c.services.find? name = some declaration ∧
    r.service ⟨name, c.baseDir⟩ declaration.serviceType (.object declaration.params) = .ok service

/-- The preparer that the service of an entry makes of what the entry says. -/
def BuildsPreparer (entry : String × Value) (preparer : Action m Unit) : Prop :=
  ∃ service, c.BuildsService r entry.1 service ∧ service.preparer entry.2 = .ok preparer

def BuildsChecker (entry : String × Value) (checker : Check m) : Prop :=
  ∃ service, c.BuildsService r entry.1 service ∧ service.checker entry.2 = .ok checker

/-- The request that the application's request type makes of a value. -/
def BuildsRequest (value : Value) (request : ρ) : Prop :=
  ∃ factory, r.requestFactory c.application.requestType = .ok factory ∧
    factory value c.application.defaults = .ok request

/-- A request with another one joined over it, if there is one. -/
def BuildsJoined [Joinable ρ] (base change : Option Value) (request : ρ) : Prop :=
  ∃ value below, base = some value ∧ c.BuildsRequest r value below ∧
    match change with
    | none => request = below
    | some value => ∃ above, c.BuildsRequest r value above ∧ Joinable.join below above = .ok request

/-- The steps of all fields on a chain of cases, the outermost first. -/
structure BuildsSteps (chain : Way) (preparers : List (Action m Unit)) (checkers : List (Check m)) :
    Prop where
  preparers : List.Forall₂ (c.BuildsPreparer r) (chain.flatMap (·.2.prepareServices)) preparers
  checkers : List.Forall₂ (c.BuildsChecker r) (chain.flatMap (·.2.checkServices.flatten)) checkers

end Config

namespace Origin

/-- The cases whose steps a test goes through: those on the way, and the leaf after them. -/
def chain : Origin → Way
  | .own w => w
  | .leaf w _ entry => w ++ [entry]

def request : Origin → Option Value
  | .own w => w.own.request
  | .leaf _ _ entry => entry.2.request

/-- What goes over the request: a case's own modification, or the request of the selector. -/
def override : Origin → Option Value
  | .own w => w.own.modifyRequest
  | .leaf w _ _ => w.own.generalCases.bind Selector.request

/-- A test is what its origin says and nothing else. -/
structure Describes [Joinable ρ] (c : Config) (r : Registry m ρ) (o : Origin) (t : Test m ρ) :
    Prop where
  name : t.name = o.name
  steps : c.BuildsSteps r o.chain t.preparers t.checkers
  request : c.BuildsJoined r o.request o.override t.request
  expectedResponse : t.expectedResponse = o.chain.own.expectedResponse
  expectedCode : t.expectedCode =
    if o.chain.own.expectedCode = some 0 then none else o.chain.own.expectedCode
  saveResponseTo : t.saveResponseTo = o.chain.own.saveResponseTo

end Origin

mutual

theorem CaseNode.mem_onlyNames (above : Way) (name n : String) : (node : CaseNode) →
    (n ∈ node.onlyNames (qualify above.name name) ↔
      ∃ w ∈ node.ways above name, w.own.isOnly = true ∧ w.name = n)
  | ⟨own, cases⟩ => by
    have ih := mem_caseOnlyNames (above ++ [(name, own)]) n cases
    simp only [Way.name_concat] at ih
    simp only [CaseNode.onlyNames, CaseNode.ways, List.mem_append, ih, List.mem_cons,
      exists_eq_or_imp, Way.own_concat, Way.name_concat]
    rw [or_comm]
    refine or_congr ?_ Iff.rfl
    cases own.isOnly <;> simp [eq_comm (a := n)]

theorem mem_caseOnlyNames (above : Way) (n : String) : (cases : List (String × CaseNode)) →
    (n ∈ caseOnlyNames above.name cases ↔
      ∃ w ∈ waysBelow above cases, w.own.isOnly = true ∧ w.name = n)
  | [] => by simp [caseOnlyNames, waysBelow]
  | (name, node) :: cases => by
    simp only [caseOnlyNames, waysBelow, List.mem_append, node.mem_onlyNames above,
      mem_caseOnlyNames above n cases, or_and_right, exists_or]

end

theorem Config.mem_only_builder {c : Config} {services : Entries (Service m)}
    {factory : RequestFactory ρ} {name : String} :
    name ∈ (c.builder services factory).only ↔ name ∈ c.onlyNames := by
  have hmem := mem_caseOnlyNames [] name c.cases
  simpa [builder, onlyNames, ways, and_assoc] using hmem

theorem CaseFields.assertedCode_eq (own : CaseFields) :
    own.assertedCode = if own.expectedCode = some 0 then none else own.expectedCode := by
  cases h : own.expectedCode with
  | none => simp [assertedCode, h]
  | some code => by_cases hz : code = 0 <;> simp [assertedCode, h, hz]

/-- A builder that has what a configuration and a registry give. -/
structure TestBuilder.Serves (b : TestBuilder m ρ) (c : Config) (r : Registry m ρ) : Prop where
  service : ∀ name service, b.services.find? name = some service ↔ c.BuildsService r name service
  request : ∀ value request, b.request value = .ok request ↔ c.BuildsRequest r value request
  generalCases : b.generalCases = c.generalCases
  only : ∀ name, name ∈ b.only ↔ name ∈ c.onlyNames

namespace TestBuilder

variable {b : TestBuilder m ρ} {c : Config} {r : Registry m ρ}

theorem service_eq_ok {name : String} {service : Service m} :
    b.service name = .ok service ↔ b.services.find? name = some service := by
  unfold TestBuilder.service
  split <;> simp_all

theorem Serves.preparer_eq_ok (hb : b.Serves c r) {case : String} {entry : String × Value}
    {preparer : Action m Unit} :
    b.preparer case entry = .ok preparer ↔ c.BuildsPreparer r entry preparer := by
  simp only [TestBuilder.preparer, bind_eq_ok, mapError_eq_ok, service_eq_ok, hb.service,
    Config.BuildsPreparer]

theorem Serves.checker_eq_ok (hb : b.Serves c r) {case : String} {entry : String × Value}
    {checker : Check m} :
    b.checker case entry = .ok checker ↔ c.BuildsChecker r entry checker := by
  simp only [TestBuilder.checker, bind_eq_ok, mapError_eq_ok, service_eq_ok, hb.service,
    Config.BuildsChecker]

theorem Serves.requestOf_eq_ok (hb : b.Serves c r) {case : String} {value : Value} {request : ρ} :
    b.requestOf case value = .ok request ↔ c.BuildsRequest r value request := by
  rw [TestBuilder.requestOf, mapError_eq_ok, hb.request]

theorem Serves.extend_buildsSteps (hb : b.Serves c r) {case : String} {above : Way}
    {steps steps' : ServiceSteps m} {entry : String × CaseFields}
    (hs : c.BuildsSteps r above steps.preparers steps.checkers)
    (h : b.extend case steps entry.2 = .ok steps') :
    c.BuildsSteps r (above ++ [entry]) steps'.preparers steps'.checkers := by
  obtain ⟨preparers, hp, h⟩ := bind_eq_ok.mp h
  obtain ⟨checkers, hc, h⟩ := bind_eq_ok.mp h
  obtain rfl := pure_eq_ok.mp h
  have hp' := (mapM_eq_ok.mp hp).imp fun _ _ => hb.preparer_eq_ok.mp
  have hc' := (mapM_eq_ok.mp hc).imp fun _ _ => hb.checker_eq_ok.mp
  constructor
  · simpa using forall₂_append hs.preparers hp'
  · simpa using forall₂_append hs.checkers hc'

theorem Serves.override_rel (hb : b.Serves c r) {case : String} {change : Option Value}
    {above : Option ρ} (h : change.mapM (b.requestOf case) = .ok above) :
    Option.Rel (c.BuildsRequest r) change above := by
  cases optionMapM_eq_ok.mp h with
  | none => exact .none
  | some hone => exact .some (hb.requestOf_eq_ok.mp hone)

variable [Joinable ρ] {w : Way} {steps : ServiceSteps m}

/-- A request with an optional one over it; a failing join has a name of its own. -/
def joined (name : Error → Error) (below : ρ) : Option ρ → Except Error ρ
  | none => .ok below
  | some above => (Joinable.join below above).mapError name

@[simp] theorem joined_none (name : Error → Error) (below : ρ) :
    joined name below none = .ok below := rfl

@[simp] theorem joined_some (name : Error → Error) (below above : ρ) :
    joined name below (some above) = (Joinable.join below above).mapError name := rfl

theorem ownRequest_eq_ok {case : String} {own : CaseFields} {request : ρ} :
    b.ownRequest case own = .ok request ↔ ∃ value below above, own.request = some value ∧
      b.requestOf case value = .ok below ∧
      own.modifyRequest.mapM (b.requestOf case) = .ok above ∧
      joined (.modificationNotJoined case) below above = .ok request := by
  unfold ownRequest
  cases own.request with
  | none => simp
  | some value =>
    cases own.modifyRequest with
    | none => simp [pure_eq_ok]
    | some modification => simp [bind_eq_ok, map_eq_ok]

theorem leafTest_eq_ok {override : Option ρ} {name : String} {leaf : CaseFields} {t : Test m ρ} :
    b.leafTest steps override name leaf = .ok t ↔ ∃ value below request steps',
      leaf.request = some value ∧ b.requestOf name value = .ok below ∧
      joined (.selectorNotJoined name) below override = .ok request ∧
      b.extend name steps leaf = .ok steps' ∧ test name steps' request leaf = t := by
  unfold leafTest
  cases leaf.request with
  | none => simp
  | some value => cases override <;> simp [bind_eq_ok, map_eq_ok]

theorem buildsJoined_iff (name : Error → Error) {base change : Option Value}
    {request : ρ} :
    c.BuildsJoined r base change request ↔ ∃ value below above, base = some value ∧
      c.BuildsRequest r value below ∧ Option.Rel (c.BuildsRequest r) change above ∧
      joined name below above = .ok request := by
  constructor
  · rintro ⟨value, below, hbase, hbelow, hchange⟩
    cases change with
    | none => exact ⟨value, below, none, hbase, hbelow, .none, by simp [hchange]⟩
    | some modification =>
      obtain ⟨above, habove, hjoin⟩ := hchange
      exact ⟨value, below, some above, hbase, hbelow, .some habove, mapError_eq_ok.mpr hjoin⟩
  · rintro ⟨value, below, _, hbase, hbelow, habove | _, hjoin⟩
    · exact ⟨value, below, hbase, hbelow, _, habove, mapError_eq_ok.mp hjoin⟩
    · exact ⟨value, below, hbase, hbelow, by simpa [eq_comm] using hjoin⟩

theorem Serves.ownRequest_eq_ok (hb : b.Serves c r) {case : String} {own : CaseFields}
    {request : ρ} :
    b.ownRequest case own = .ok request ↔
      c.BuildsJoined r own.request own.modifyRequest request := by
  rw [TestBuilder.ownRequest_eq_ok, buildsJoined_iff (.modificationNotJoined case)]
  simp only [hb.requestOf_eq_ok, optionMapM_eq_ok]

theorem describes_test {o : Origin} {request : ρ}
    (hs : c.BuildsSteps r o.chain steps.preparers steps.checkers)
    (hq : c.BuildsJoined r o.request o.override request) :
    o.Describes c r (test o.name steps request o.chain.own) where
  name := rfl
  steps := hs
  request := hq
  expectedResponse := rfl
  expectedCode := o.chain.own.assertedCode_eq
  saveResponseTo := rfl

/-- The test of a leaf has the steps of the selecting case before its own, and the selector's
request over its own. -/
theorem Serves.leafTest_describes (hb : b.Serves c r) {general : String} {override : Option ρ}
    {entry : String × CaseFields} {t : Test m ρ}
    (hs : c.BuildsSteps r w steps.preparers steps.checkers)
    (ho : Option.Rel (c.BuildsRequest r) (w.own.generalCases.bind Selector.request) override)
    (h : b.leafTest steps override s!"{w.name} {general} {entry.1}" entry.2 = .ok t) :
    (Origin.leaf w general entry).Describes c r t := by
  obtain ⟨value, below, request, steps', hv, hbelow, hq, hsteps, rfl⟩ := leafTest_eq_ok.mp h
  have hbelow := hb.requestOf_eq_ok.mp hbelow
  have hjoined := (buildsJoined_iff _).mpr ⟨value, below, override, hv, hbelow, ho, hq⟩
  have hown : (Origin.leaf w general entry).chain.own = entry.2 := w.own_concat entry
  rw [← hown]
  exact describes_test (hb.extend_buildsSteps hs hsteps) hjoined

theorem Serves.ownTest_describes (hb : b.Serves c r) {request : ρ}
    (hs : c.BuildsSteps r w steps.preparers steps.checkers)
    (h : b.ownRequest w.name w.own = .ok request) :
    (Origin.own w).Describes c r (test w.name steps request w.own) :=
  describes_test (o := .own w) hs (hb.ownRequest_eq_ok.mp h)

theorem Serves.selectedTests_describes (hb : b.Serves c r) {s : Selector} {tests : List (Test m ρ)}
    (hs : c.BuildsSteps r w steps.preparers steps.checkers) (hw : w.own.generalCases = some s)
    (h : b.selectedTests w.name steps s = .ok tests) :
    List.Forall₂ (Origin.Describes c r) (c.leavesAt w s) tests := by
  obtain ⟨_, _, hrest⟩ := bind_eq_ok.mp h
  obtain ⟨override, hover, hrest⟩ := bind_eq_ok.mp hrest
  obtain ⟨testss, htests, rfl⟩ := map_eq_ok.mp hrest
  have hover : Option.Rel (c.BuildsRequest r) (w.own.generalCases.bind Selector.request) override :=
    hw ▸ hb.override_rel hover
  have hselects : (fun g : String × GeneralCase => s.selects g.1 g.2) = fun g => s.Takes g :=
    funext fun g => Bool.eq_iff_iff.mpr (by simpa using s.selects_iff g)
  rw [hb.generalCases, hselects] at htests
  refine forall₂_flatMap ((mapM_eq_ok.mp htests).imp fun general ts hts => ?_)
  rw [List.forall₂_map_left_iff]
  exact (mapM_eq_ok.mp hts).imp fun leaf t ht => hb.leafTest_describes hs hover ht

theorem caseTests_eq_ok {case : String} {own : CaseFields} {tests : List (Test m ρ)} :
    b.caseTests case steps own = .ok tests ↔ ∃ general,
      (match own.generalCases with
        | none => general = []
        | some s => b.selectedTests case steps s = .ok general) ∧
      if own.definesRequest then
        ∃ request, b.ownRequest case own = .ok request ∧
          general ++ [test case steps request own] = tests
      else general = tests := by
  unfold caseTests
  cases own.generalCases with
  | none => cases own.definesRequest <;> simp [pure_eq_ok, map_eq_ok]
  | some s => cases own.definesRequest <;> simp [bind_eq_ok, map_eq_ok]

theorem Serves.caseTests_describes (hb : b.Serves c r) {tests : List (Test m ρ)}
    (hs : c.BuildsSteps r w steps.preparers steps.checkers)
    (h : b.caseTests w.name steps w.own = .ok tests) :
    List.Forall₂ (Origin.Describes c r) (c.originsAt w) tests := by
  obtain ⟨general, hgeneral, hown⟩ := caseTests_eq_ok.mp h
  have hleaves : List.Forall₂ (Origin.Describes c r)
      (w.own.generalCases.toList.flatMap (c.leavesAt w)) general := by
    cases hw : w.own.generalCases with
    | none => simp_all
    | some s => simpa using hb.selectedTests_describes hs hw (by simpa [hw] using hgeneral)
  by_cases hdefines : w.own.definesRequest = true
  · simp only [hdefines, if_true] at hown
    obtain ⟨request, hrequest, rfl⟩ := hown
    have hasks := w.own.definesRequest_iff.mp hdefines
    rw [Config.originsAt, if_pos hasks]
    exact forall₂_append hleaves (.cons (hb.ownTest_describes hs hrequest) .nil)
  · have hasks := mt w.own.definesRequest_iff.mpr hdefines
    obtain rfl : general = tests := by simpa [hdefines] using hown
    rw [Config.originsAt, if_neg hasks, List.append_nil]
    exact hleaves

/-- What the cases below a way are given: the steps built on it, and whether they run for sure. -/
structure Serves.Hands (b : TestBuilder m ρ) (c : Config) (r : Registry m ρ) (above : Way)
    (steps : ServiceSteps m) (runs : Bool) : Prop where
  steps : c.BuildsSteps r above steps.preparers steps.checkers
  kept : ∀ entry ∈ above, entry.2.isSkipped = false
  runs : (b.only.isEmpty || runs) = true ↔ c.Admits above

omit [Joinable ρ] in
theorem Serves.isEmpty_only (hb : b.Serves c r) : b.only.isEmpty = true ↔ c.Admits [] := by
  rw [List.isEmpty_iff, List.eq_nil_iff_forall_not_mem, c.admits_nil,
    List.eq_nil_iff_forall_not_mem]
  exact forall_congr' fun name => not_congr (hb.only name)

omit [Joinable ρ] in
theorem Serves.runs_iff (hb : b.Serves c r) {above : Way} {runs : Bool}
    {entry : String × CaseFields} (h : Hands b c r above steps runs) :
    b.runs (Way.name (above ++ [entry])) runs = true ↔ c.Admits (above ++ [entry]) := by
  rw [c.admits_concat, ← h.runs, ← hb.only, Way.name_concat]
  simp [TestBuilder.runs, or_comm]

omit [Joinable ρ] in
/-- What is handed to a case that is not skipped is handed on with its own steps. -/
theorem Serves.Hands.step (hb : b.Serves c r) {above : Way} {runs : Bool}
    {entry : String × CaseFields} {case : String} {steps' : ServiceSteps m}
    (h : Hands b c r above steps runs) (hkept : entry.2.isSkipped = false)
    (hsteps : b.extend case steps entry.2 = .ok steps') :
    Hands b c r (above ++ [entry]) steps' (b.runs (Way.name (above ++ [entry])) runs) where
  steps := hb.extend_buildsSteps h.steps hsteps
  kept e he := by
    obtain he | he := List.mem_append.mp he
    · exact h.kept e he
    · rwa [List.mem_singleton.mp he]
  runs := by
    rw [← hb.runs_iff h]
    simp +contextual [TestBuilder.runs]

theorem nodeTests_eq_ok {case : String} {runs : Bool} {own : CaseFields}
    {cases : List (String × CaseNode)} {tests : List (Test m ρ)} (hkept : own.isSkipped = false) :
    b.nodeTests case steps runs ⟨own, cases⟩ = .ok tests ↔ ∃ steps' mine below,
      b.extend case steps own = .ok steps' ∧
      (if b.runs case runs then b.caseTests case steps' own = .ok mine else mine = []) ∧
      b.treeTests case steps' (b.runs case runs) cases = .ok below ∧ mine ++ below = tests := by
  rw [nodeTests, hkept]
  cases b.runs case runs <;> simp [bind_eq_ok, map_eq_ok]

mutual

theorem Serves.nodeTests_describes (hb : b.Serves c r) {above : Way} {name : String}
    {steps : ServiceSteps m} {runs : Bool} {tests : List (Test m ρ)}
    (hands : Hands b c r above steps runs) : (node : CaseNode) →
      b.nodeTests (qualify above.name name) steps runs node = .ok tests →
      List.Forall₂ (Origin.Describes c r) (c.originsOf (node.ways above name)) tests
  | ⟨own, cases⟩, h => by
    cases hkept : own.isSkipped with
    | true =>
      rw [nodeTests, if_pos hkept] at h
      obtain rfl := Except.ok.inj h
      rw [c.originsOf_skipped above name _ hkept]
      exact .nil
    | false =>
      rw [← Way.name_concat above (name, own), nodeTests_eq_ok hkept] at h
      obtain ⟨steps', mine, below, hsteps, hmine, hbelow, rfl⟩ := h
      have hands' : Hands b c r (above ++ [(name, own)]) steps' _ := hands.step hb hkept hsteps
      have hruns : c.Runs (above ++ [(name, own)]) ↔ b.runs _ runs = true :=
        (and_iff_right hands'.kept).trans (hb.runs_iff hands).symm
      rw [CaseNode.ways, c.originsOf_cons]
      -- the case itself comes before the cases below it, on the way and in the suite
      refine forall₂_append ?_ (hb.treeTests_describes hands' cases hbelow)
      split at hmine
      · rename_i hrun
        rw [if_pos (hruns.mpr hrun)]
        exact hb.caseTests_describes hands'.steps (by rwa [Way.own_concat])
      · rename_i hrun
        rw [if_neg (mt hruns.mp hrun), hmine]
        exact .nil

theorem Serves.treeTests_describes (hb : b.Serves c r) {above : Way} {steps : ServiceSteps m}
    {runs : Bool} {tests : List (Test m ρ)} (hands : Hands b c r above steps runs) :
    (cases : List (String × CaseNode)) → b.treeTests above.name steps runs cases = .ok tests →
      List.Forall₂ (Origin.Describes c r) (c.originsOf (waysBelow above cases)) tests
  | [], h => by
    obtain rfl := Except.ok.inj h
    exact .nil
  | (name, node) :: cases, h => by
    obtain ⟨first, hfirst, hrest⟩ := bind_eq_ok.mp h
    obtain ⟨others, hothers, hrest⟩ := bind_eq_ok.mp hrest
    obtain rfl := pure_eq_ok.mp hrest
    rw [waysBelow, c.originsOf_append]
    exact forall₂_append (hb.nodeTests_describes hands node hfirst)
      (hb.treeTests_describes hands cases hothers)

end

end TestBuilder

namespace Suite

variable {c : Config} {r : Registry m ρ}

theorem find?_built {declared : Entries ServiceDeclaration} {built : Entries (Service m)}
    {baseDir : String}
    (h : List.Forall₂ (fun e f => buildService r baseDir e = .ok f) declared built)
    (name : String) (service : Service m) :
    built.find? name = some service ↔ ∃ d, declared.find? name = some d ∧
      r.service ⟨name, baseDir⟩ d.serviceType (.object d.params) = .ok service := by
  induction h with
  | nil => simp [Entries.find?]
  | @cons e f es fs hef _ ih =>
    obtain ⟨s, hs, heq⟩ := bind_eq_ok.mp hef
    obtain rfl := pure_eq_ok.mp heq
    have hs := mapError_eq_ok.mp hs
    by_cases hname : e.1 = name
    · subst hname
      simp [Entries.find?, hs]
    · simp [Entries.find?, hname, ih]

theorem hands_root {b : TestBuilder m ρ} (hb : b.Serves c r) :
    TestBuilder.Serves.Hands b c r [] ⟨[], []⟩ false where
  steps := ⟨.nil, .nil⟩
  kept := by simp
  runs := by rw [Bool.or_false, hb.isEmpty_only]

variable [Joinable ρ] {suite : Suite m ρ}

omit [Joinable ρ] in
/-- With the services built and the request type known, the builder has what is needed. -/
theorem serves_builder {services : Entries (Service m)} {factory : RequestFactory ρ}
    (hservices : c.services.mapM (buildService r c.baseDir) = .ok services)
    (hfactory : r.requestFactory c.application.requestType = .ok factory) :
    (c.builder services factory).Serves c r where
  service := find?_built (mapM_eq_ok.mp hservices)
  request := by simp [Config.builder, Config.BuildsRequest, hfactory]
  generalCases := rfl
  only _ := Config.mem_only_builder

/-- The tests of a suite come from a builder of what the configuration and the registry give. -/
theorem exists_serves_of_ofConfig (h : ofConfig c r = .ok suite) :
    ∃ b : TestBuilder m ρ, b.Serves c r ∧
      b.treeTests "" ⟨[], []⟩ false c.cases = .ok suite.tests := by
  obtain ⟨services, factory, _, hservices, hfactory, htests⟩ := ofConfig_eq_ok.mp h
  exact ⟨c.builder services factory, serves_builder hservices hfactory, htests⟩

/-- The tests of a resolved suite are, by name and in order, those of the cases that run: for each
of them the leaves it selects and then the case itself. No two have the same origin. -/
theorem names_ofConfig (h : ofConfig c r = .ok suite) :
    suite.names = c.origins.map Origin.name ∧ (c.Distinct → c.origins.Nodup) := by
  refine ⟨?_, Config.nodup_origins⟩
  obtain ⟨b, hb, htests⟩ := exists_serves_of_ofConfig h
  have hdescribed := hb.treeTests_describes (hands_root hb) c.cases htests
  have hnames : List.Forall₂ (fun o t => Origin.name o = Test.name t) c.origins suite.tests :=
    hdescribed.imp fun o t ht => ht.name.symm
  rw [Suite.names, eq_comm, ← List.forall₂_eq_eq_eq, List.forall₂_map_left_iff,
    List.forall₂_map_right_iff]
  exact hnames

/-- A registry with services that do nothing, and requests that are never sent. -/
def sampleRegistry : Registry Id GraphqlRequest where
  services := [("memory", fun _ _ => .ok ⟨fun _ => .ok (pure ()), fun _ => .ok (pure ())⟩)]
  requesters := [("graphql", GraphqlRequest.read)]
  initializers := []

def sampleCase (query : String) : CaseFields :=
  { CaseFields.blank with request := some (.object [("query", .str query)]) }

/-- A marked case that selects leaves, a skipped case below it and an unmarked one beside it. -/
def sampleConfig : Config where
  application := ⟨"graphql", .blank⟩
  services := [("db", ⟨"memory", []⟩)]
  environment := []
  generalCases := [
    ("auth", ⟨true, [
      ("denied", ⟨{ sampleCase "a" with prepareServices := [("db", .str "lock")] }, []⟩)]⟩),
    ("paging", ⟨false, [("large", ⟨sampleCase "b", []⟩)]⟩)]
  cases := [
    ("users", ⟨{ CaseFields.blank with prepareServices := [("db", .str "clear")] }, [
      ("list", ⟨{ sampleCase "c" with
          only := some true
          modifyRequest := some (.object [("query", .str "n")])
          generalCases := some ⟨some (.object [("url", .str "u")]), ["paging"], []⟩ }, [
        ("again", ⟨sampleCase "d", []⟩),
        ("draft", ⟨{ sampleCase "e" with skip := some true }, []⟩)]⟩),
      ("other", ⟨sampleCase "f", []⟩)]⟩)]
  baseDir := "/suite"

theorem distinct_sampleConfig : sampleConfig.Distinct := by
  constructor <;> simp [sampleConfig, sampleCase, CaseFields.blank, Entries.Distinct,
    casesDistinct, CaseNode.Distinct]

theorem names_sampleConfig : ∃ suite, ofConfig sampleConfig sampleRegistry = .ok suite ∧
    suite.names = ["users list auth denied", "users list paging large", "users list",
      "users list again"] ∧ sampleConfig.origins.Nodup := by
  have hresolved : ∃ suite, ofConfig sampleConfig sampleRegistry = .ok suite := ⟨_, rfl⟩
  obtain ⟨suite, h⟩ := hresolved
  obtain ⟨hnames, hnodup⟩ := names_ofConfig h
  exact ⟨suite, h, hnames.trans (by decide), hnodup distinct_sampleConfig⟩

/-- Every test of a resolved suite is what its origin says: the steps of the cases on the way in
their order, the case's own request with what goes over it, and its own expectations. -/
theorem tests_ofConfig (h : ofConfig c r = .ok suite) :
    List.Forall₂ (Origin.Describes c r) c.origins suite.tests := by
  obtain ⟨b, hb, htests⟩ := exists_serves_of_ofConfig h
  exact hb.treeTests_describes (hands_root hb) c.cases htests

theorem tests_sampleConfig : ∃ suite, ofConfig sampleConfig sampleRegistry = .ok suite ∧
    List.Forall₂ (Origin.Describes sampleConfig sampleRegistry) sampleConfig.origins suite.tests ∧
    suite.tests.map (·.preparers.length) = [2, 1, 1, 1] := by
  have hresolved : ∃ suite, ofConfig sampleConfig sampleRegistry = .ok suite ∧
      suite.tests.map (·.preparers.length) = [2, 1, 1, 1] := ⟨_, rfl, rfl⟩
  obtain ⟨suite, h, hlengths⟩ := hresolved
  exact ⟨suite, h, tests_ofConfig h, hlengths⟩

end Suite

end CaseSuite
