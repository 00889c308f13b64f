import CaseSuite.Proofs.Suite.Flattening
/-!
Marks only leave tests out. Without its marks a configuration gives all of its tests; with them it
gives some of these in the same order, and nothing that was built before fails for a mark.
-/
set_option autoImplicit false

namespace CaseSuite

mutual

def CaseNode.unmarked : CaseNode → CaseNode
  | ⟨own, cases⟩ => ⟨own.unmarked, unmarkedCases cases⟩

def unmarkedCases : List (String × CaseNode) → List (String × CaseNode)
  | [] => []
  | (name, node) :: cases => (name, node.unmarked) :: unmarkedCases cases

end

def GeneralCase.unmarked (g : GeneralCase) : GeneralCase :=
  { g with cases := unmarkedCases g.cases }

def Config.unmarked (c : Config) : Config :=
  { c with
    generalCases := c.generalCases.mapValues GeneralCase.unmarked
    cases := unmarkedCases c.cases }

mutual

theorem CaseNode.onlyNames_unmarked (name : String) :
    (node : CaseNode) → node.unmarked.onlyNames name = []
  | ⟨own, cases⟩ => by
    rw [CaseNode.unmarked, CaseNode.onlyNames, caseOnlyNames_unmarked name cases]
    rfl

theorem caseOnlyNames_unmarked (parent : String) :
    (cases : List (String × CaseNode)) → caseOnlyNames parent (unmarkedCases cases) = []
  | [] => rfl
  | (name, node) :: cases => by
    rw [unmarkedCases, caseOnlyNames, node.onlyNames_unmarked, caseOnlyNames_unmarked parent cases]
    rfl

end

theorem unmarkedCases_alike : (cases : List (String × CaseNode)) →
    List.Forall₂ (fun leaf leaf' : String × CaseNode =>
      leaf.1 = leaf'.1 ∧ leaf.2.own.unmarked = leaf'.2.own.unmarked) cases (unmarkedCases cases)
  | [] => .nil
  | (_, ⟨_, _⟩) :: cases => .cons ⟨rfl, rfl⟩ (unmarkedCases_alike cases)

theorem GeneralCase.alike_unmarked (generals : Entries GeneralCase) :
    List.Forall₂ GeneralCase.Alike generals (generals.mapValues GeneralCase.unmarked) := by
  rw [Entries.mapValues, List.forall₂_map_right_iff, List.forall₂_same]
  intro general _
  exact ⟨rfl, rfl, unmarkedCases_alike general.2.cases⟩

variable {m : Type → Type} {ρ : Type} [Joinable ρ]

namespace TestBuilder

variable {b b' : TestBuilder m ρ}

omit [Joinable ρ] in
theorem runs_of_only_nil (h : b.only = []) (case : String) (runs : Bool) :
    b.runs case runs = true := by
  simp [TestBuilder.runs, h]

theorem caseTests_unmarked (b : TestBuilder m ρ) (case : String) (steps : ServiceSteps m)
    (own : CaseFields) : b.caseTests case steps own.unmarked = b.caseTests case steps own := rfl

mutual

theorem Alike.nodeTests_sublist (h : b.Alike b') (hall : b'.only = []) {case : String}
    {steps : ServiceSteps m} {runs' : Bool} {all : List (Test m ρ)} (runs : Bool) :
    (node : CaseNode) → b'.nodeTests case steps runs' node.unmarked = .ok all →
      ∃ tests, b.nodeTests case steps runs node = .ok tests ∧ tests.Sublist all
  | ⟨own, cases⟩, hok => by
    rw [CaseNode.unmarked] at hok
    cases hkept : own.isSkipped with
    | true =>
      refine ⟨[], ?_, List.nil_sublist all⟩
      rw [nodeTests, if_pos hkept]
    | false =>
      have hkept' : own.unmarked.isSkipped = false := hkept
      obtain ⟨steps', mine, below, hsteps, hmine, hbelow, rfl⟩ := (nodeTests_eq_ok hkept').mp hok
      rw [if_pos (runs_of_only_nil hall case runs'), caseTests_unmarked] at hmine
      -- steps are built for every case that is not skipped, whether it runs or not
      have hsteps' : b.extend case steps own = .ok steps' := (h.extend case own).trans hsteps
      obtain ⟨rest, hrest, hsub⟩ := h.treeTests_sublist hall (b.runs case runs) cases hbelow
      cases hruns : b.runs case runs with
      | true =>
        refine ⟨mine ++ rest, (nodeTests_eq_ok hkept).mpr ?_, (List.Sublist.refl mine).append hsub⟩
        refine ⟨steps', mine, rest, hsteps', ?_, hrest, rfl⟩
        rw [if_pos hruns, h.caseTests]
        exact hmine
      | false =>
        refine ⟨rest, (nodeTests_eq_ok hkept).mpr ?_, hsub.trans (List.sublist_append_right _ _)⟩
        exact ⟨steps', [], rest, hsteps', by simp [hruns], hrest, rfl⟩

theorem Alike.treeTests_sublist (h : b.Alike b') (hall : b'.only = []) {parent : String}
    {steps : ServiceSteps m} {runs' : Bool} {all : List (Test m ρ)} (runs : Bool) :
    (cases : List (String × CaseNode)) →
      b'.treeTests parent steps runs' (unmarkedCases cases) = .ok all →
      ∃ tests, b.treeTests parent steps runs cases = .ok tests ∧ tests.Sublist all
  | [], hok => ⟨[], rfl, List.nil_sublist all⟩
  | (name, node) :: cases, hok => by
    rw [unmarkedCases] at hok
    obtain ⟨first, hfirst, hok⟩ := bind_eq_ok.mp hok
    obtain ⟨others, hothers, hok⟩ := bind_eq_ok.mp hok
    obtain rfl := pure_eq_ok.mp hok
    obtain ⟨tests, htests, hsub⟩ := h.nodeTests_sublist hall runs node hfirst
    obtain ⟨more, hmore, hsub'⟩ := h.treeTests_sublist hall runs cases hothers
    refine ⟨tests ++ more, ?_, hsub.append hsub'⟩
    rw [treeTests, htests, hmore]
    rfl

end

end TestBuilder

namespace Suite

variable {c : Config} {r : Registry m ρ} {full : Suite m ρ}

/-- If a configuration resolves without its marks, it resolves with them, to some of the same tests
in the same order and to the same environment. -/
theorem sublist_of_unmarked (h : ofConfig c.unmarked r = .ok full) :
    ∃ suite, ofConfig c r = .ok suite ∧ suite.tests.Sublist full.tests ∧
      suite.environment = full.environment := by
  obtain ⟨services, factory, henvironment, hservices, hfactory, hall⟩ := ofConfig_eq_ok.mp h
  have halike : (c.builder services factory).Alike (c.unmarked.builder services factory) :=
    ⟨rfl, rfl, GeneralCase.alike_unmarked c.generalCases⟩
  have hnone : (c.unmarked.builder services factory).only = [] := caseOnlyNames_unmarked "" c.cases
  obtain ⟨tests, htests, hsub⟩ := halike.treeTests_sublist hnone false c.cases hall
  refine ⟨⟨tests, full.environment⟩, ?_, hsub, rfl⟩
  exact ofConfig_eq_ok.mpr ⟨services, factory, henvironment, hservices, hfactory, htests⟩

theorem sublist_of_unmarked_sampleConfig : ∃ full,
    ofConfig sampleConfig.unmarked sampleRegistry = .ok full ∧ full.tests.length = 5 ∧
    ∃ suite, ofConfig sampleConfig sampleRegistry = .ok suite ∧
      suite.tests.Sublist full.tests ∧ suite.environment = full.environment := by
  have hfull : ∃ full, ofConfig sampleConfig.unmarked sampleRegistry = .ok full ∧
      full.tests.length = 5 := ⟨_, rfl, rfl⟩
  obtain ⟨full, h, hlength⟩ := hfull
  exact ⟨full, h, hlength, sublist_of_unmarked h⟩

end Suite

end CaseSuite
