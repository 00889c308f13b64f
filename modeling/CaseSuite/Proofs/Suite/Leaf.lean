import CaseSuite.Proofs.Suite.Resolvable
/-!
Leaves of general cases are not treated as the cases of the tree are. A leaf that is skipped still
gives a test, and a modification of its request is left out. What the rules of cases would give for
leaves is written down here, and compared with the tests of a suite.
-/
set_option autoImplicit false

namespace CaseSuite

variable {m : Type → Type} {ρ : Type}

/-- A leaf that says of itself that it is skipped. -/
def Origin.IsSkippedLeaf : Origin → Prop
  | .own _ => False
  | .leaf _ _ entry => entry.2.isSkipped = true

instance : DecidablePred Origin.IsSkippedLeaf
  | .own _ => inferInstanceAs (Decidable False)
  | .leaf _ _ entry => inferInstanceAs (Decidable (entry.2.isSkipped = true))

section

variable [Joinable ρ] (c : Config) (r : Registry m ρ)

/-- A request that is built already, with another one over it, if there is one. -/
def Config.BuildsOver (below : ρ) (change : Option Value) (request : ρ) : Prop :=
  match change with
  | none => request = below
  | some value => ∃ above, c.BuildsRequest r value above ∧ Joinable.join below above = .ok request

/-- The request by the rules of cases: over the request of a case goes its own modification, and
over both of a leaf goes the request of the selector. -/
def Origin.RuledRequest : Origin → ρ → Prop
  | .own w, request => c.BuildsJoined r w.own.request w.own.modifyRequest request
  | .leaf w _ entry, request => ∃ below,
      c.BuildsJoined r entry.2.request entry.2.modifyRequest below ∧
        c.BuildsOver r below (w.own.generalCases.bind Selector.request) request

/-- A test as the rules of cases have it. -/
structure Origin.Rules (o : Origin) (t : Test m ρ) : Prop where
  name : t.name = o.name
  steps : c.BuildsSteps r o.chain t.preparers t.checkers
  request : o.RuledRequest c r t.request

/-- The suite has tests by the rules of cases: none of a skipped leaf, and all requests with their
modifications. -/
def Suite.LeavesRuled (suite : Suite m ρ) : Prop :=
  List.Forall₂ (Origin.Rules c r) (c.origins.filter (¬ ·.IsSkippedLeaf)) suite.tests

/-- The modification of a leaf makes no difference: the request is the same without it. -/
def Origin.ModificationIdle : Origin → Prop
  | .own _ => True
  | .leaf w general entry => ∀ request : ρ,
      c.BuildsJoined r entry.2.request (w.own.generalCases.bind Selector.request) request →
        (Origin.leaf w general entry).RuledRequest c r request

end

theorem Config.BuildsJoined.unique [Joinable ρ] {c : Config} {r : Registry m ρ}
    {base change : Option Value} {q q' : ρ} (h : c.BuildsJoined r base change q)
    (h' : c.BuildsJoined r base change q') : q = q' := by
  obtain ⟨value, below, above, hbase, hbelow, habove, hjoin⟩ :=
    (TestBuilder.buildsJoined_iff id).mp h
  obtain ⟨value', below', above', hbase', hbelow', habove', hjoin'⟩ :=
    (TestBuilder.buildsJoined_iff id).mp h'
  obtain rfl := Option.some.inj (hbase.symm.trans hbase')
  obtain rfl := hbelow.unique hbelow'
  obtain rfl := Config.override_unique habove habove'
  exact Except.ok.inj (hjoin.symm.trans hjoin')

/-- Without a modification of its own, a leaf has the request that the rules of cases give it. -/
theorem Origin.modificationIdle_of_none [Joinable ρ] {c : Config} {r : Registry m ρ} {w : Way}
    {general : String} {entry : String × CaseFields} (h : entry.2.modifyRequest = none) :
    (Origin.leaf w general entry).ModificationIdle c r := by
  rintro request ⟨value, below, hvalue, hbelow, hover⟩
  exact ⟨below, ⟨value, below, hvalue, hbelow, by rw [h]⟩, hover⟩

namespace Suite

variable [Joinable ρ] {c : Config} {r : Registry m ρ} {suite : Suite m ρ}

/-- A test that its origin describes has the request of the rules if no modification makes a
difference. -/
theorem rules_iff {o : Origin} {t : Test m ρ} (h : o.Describes c r t) :
    o.Rules c r t ↔ o.ModificationIdle c r := by
  have hrules : o.Rules c r t ↔ o.RuledRequest c r t.request :=
    ⟨Origin.Rules.request, fun hrequest => ⟨h.name, h.steps, hrequest⟩⟩
  rw [hrules]
  cases o with
  | own w => exact iff_of_true h.request trivial
  | leaf w general entry =>
    constructor
    · intro hruled request hrequest
      rwa [hrequest.unique h.request]
    · exact fun hidle => hidle t.request h.request

/-- A suite treats leaves by the rules of cases exactly if no leaf that it takes is skipped, and no
modification of such a leaf makes a difference. -/
theorem leavesRuled_iff (h : ofConfig c r = .ok suite) :
    suite.LeavesRuled c r ↔
      ∀ o ∈ c.origins, ¬ o.IsSkippedLeaf ∧ o.ModificationIdle c r := by
  obtain ⟨b, hb, htests⟩ := exists_serves_of_ofConfig h
  have hdescribed : List.Forall₂ (Origin.Describes c r) c.origins suite.tests :=
    hb.treeTests_describes (hands_root hb) c.cases htests
  have hrules : List.Forall₂ (Origin.Rules c r) c.origins suite.tests ↔
      ∀ o ∈ c.origins, o.ModificationIdle c r := by
    clear h htests
    generalize c.origins = origins, suite.tests = tests at hdescribed
    induction hdescribed with
    | nil => simp
    | cons hdescribes _ ih => rw [List.forall₂_cons, List.forall_mem_cons, ih, rules_iff hdescribes]
  rw [LeavesRuled, forall₂_and, ← hrules]
  constructor
  · intro hfiltered
    -- there is a test for every origin, so no origin is left out
    have hlength := hfiltered.length_eq.trans hdescribed.length_eq.symm
    rw [List.length_filter_eq_length_iff] at hlength
    refine ⟨by simpa using hlength, ?_⟩
    rwa [List.filter_eq_self.mpr hlength] at hfiltered
  · rintro ⟨hkept, hall⟩
    rwa [List.filter_eq_self.mpr (by simpa using hkept)]

theorem leavesRuled_sampleConfig : ∃ suite, ofConfig sampleConfig sampleRegistry = .ok suite ∧
    suite.tests.length = 4 ∧ suite.LeavesRuled sampleConfig sampleRegistry := by
  have hresolved : ∃ suite, ofConfig sampleConfig sampleRegistry = .ok suite ∧
      suite.tests.length = 4 := ⟨_, rfl, rfl⟩
  obtain ⟨suite, h, hlength⟩ := hresolved
  have hplain : ∀ g ∈ sampleConfig.generalCases, ∀ leaf ∈ g.2.cases,
      leaf.2.own.isSkipped = false ∧ leaf.2.own.modifyRequest = none := by
    simp [sampleConfig, sampleCase, CaseFields.blank, CaseFields.isSkipped]
  refine ⟨suite, h, hlength, (leavesRuled_iff h).mpr fun o ho => ?_⟩
  cases o with
  | own w => exact ⟨id, trivial⟩
  | leaf w general entry =>
    obtain ⟨_, _, g, hg, _, _, leaf, hleaf, rfl⟩ := Config.exists_of_leaf_mem_origins ho
    obtain ⟨hskip, hmodify⟩ := hplain g hg leaf hleaf
    exact ⟨by simp [Origin.IsSkippedLeaf, hskip], Origin.modificationIdle_of_none hmodify⟩

/-- A leaf that is skipped, and one whose request is modified. -/
def skippedLeaf : CaseFields := { sampleCase "a" with skip := some true }

def modifiedLeaf : CaseFields :=
  { sampleCase "b" with modifyRequest := some (.object [("query", .str "n")]) }

/-- A case that selects both leaves and asks for no test of its own. -/
def selectingCase : CaseFields := { CaseFields.blank with generalCases := some .blank }

def unruledConfig : Config where
  application := ⟨"graphql", .blank⟩
  services := []
  environment := []
  generalCases := [("auth", ⟨true, [("gone", ⟨skippedLeaf, []⟩), ("other", ⟨modifiedLeaf, []⟩)]⟩)]
  cases := [("users", ⟨selectingCase, []⟩)]
  baseDir := "/suite"

/-- The skipped leaf gives a test, and the test of the other one has the request as it was before
its modification. -/
theorem not_leavesRuled_unruledConfig : ∃ suite, ofConfig unruledConfig sampleRegistry = .ok suite ∧
    suite.names = ["users auth gone", "users auth other"] ∧
    ¬ suite.LeavesRuled unruledConfig sampleRegistry ∧
    ∃ t ∈ suite.tests, t.name = "users auth other" ∧ ∀ o ∈ unruledConfig.origins,
      o.Describes unruledConfig sampleRegistry t →
        ¬ o.RuledRequest unruledConfig sampleRegistry t.request := by
  have hresolved : ∃ suite, ∃ first second : Test Id GraphqlRequest,
      ofConfig unruledConfig sampleRegistry = .ok suite ∧ suite.tests = [first, second] ∧
        suite.names = ["users auth gone", "users auth other"] ∧
        second.name = "users auth other" ∧ second.request.query = some "b" :=
    ⟨_, _, _, rfl, rfl, rfl, rfl, rfl⟩
  obtain ⟨suite, first, second, h, htests, hnames, hname, hquery⟩ := hresolved
  have horigins : unruledConfig.origins = [
      .leaf [("users", selectingCase)] "auth" ("gone", skippedLeaf),
      .leaf [("users", selectingCase)] "auth" ("other", modifiedLeaf)] := rfl
  refine ⟨suite, h, hnames, fun hruled => ?_, second, by simp [htests], hname, ?_⟩
  · -- two tests, but only one leaf that is not skipped
    have hlength := hruled.length_eq
    have hkept : (unruledConfig.origins.filter (¬ ·.IsSkippedLeaf)).length = 1 := by decide
    rw [hkept, htests] at hlength
    simp at hlength
  · rw [horigins]
    intro o ho hdescribes
    obtain rfl | ho := List.mem_cons.mp ho
    · have hother := hdescribes.name
      rw [hname] at hother
      exact absurd hother (by decide)
    · obtain rfl := List.mem_singleton.mp ho
      rintro ⟨below, ⟨value, base, hvalue, _, above, habove, hjoin⟩, rfl⟩
      -- the modification sets the query
      obtain ⟨_, hfactory, hread⟩ := habove
      obtain rfl := Except.ok.inj hfactory
      rw [← Except.ok.inj hread] at hjoin
      rw [← Except.ok.inj hjoin] at hquery
      simp [GraphqlRequest.join] at hquery

end Suite

end CaseSuite
