import CaseSuite.Proofs.Suite.Flattening
/-!
Skipped cases count for nothing but the names of marked cases in them: configurations that differ
only inside skipped cases, and in which the same names are marked, have the same outcome, be it a
suite or an error.
-/
set_option autoImplicit false

namespace CaseSuite

mutual

/-- The same case, or two skipped ones. -/
inductive CaseNode.SameKept : CaseNode → CaseNode → Prop
  | skipped {node other : CaseNode} : node.own.isSkipped = true → other.own.isSkipped = true →
      CaseNode.SameKept node other
  | kept {own : CaseFields} {cases others : List (String × CaseNode)} :
      CasesSameKept cases others → CaseNode.SameKept ⟨own, cases⟩ ⟨own, others⟩

/-- Cases of the same names in the same order, that differ only inside skipped ones. -/
inductive CasesSameKept : List (String × CaseNode) → List (String × CaseNode) → Prop
  | nil : CasesSameKept [] []
  | cons {name : String} {node other : CaseNode} {cases others : List (String × CaseNode)} :
      node.SameKept other → CasesSameKept cases others →
      CasesSameKept ((name, node) :: cases) ((name, other) :: others)

end

/-- Leaves are taken over whether they say that they are skipped or not, so they are the same; what
stands below them may differ inside skipped cases. -/
structure Leaf.SameKept (leaf other : String × CaseNode) : Prop where
  name : leaf.1 = other.1
  own : leaf.2.own = other.2.own
  below : CasesSameKept leaf.2.cases other.2.cases

structure GeneralCase.SameKept (general other : String × GeneralCase) : Prop where
  name : general.1 = other.1
  autoInclude : general.2.autoInclude = other.2.autoInclude
  leaves : List.Forall₂ Leaf.SameKept general.2.cases other.2.cases

structure Config.SameKept (c other : Config) : Prop where
  application : c.application = other.application
  services : c.services = other.services
  environment : c.environment = other.environment
  generalCases : List.Forall₂ GeneralCase.SameKept c.generalCases other.generalCases
  cases : CasesSameKept c.cases other.cases
  baseDir : c.baseDir = other.baseDir

theorem GeneralCase.SameKept.alike {general other : String × GeneralCase}
    (h : GeneralCase.SameKept general other) : GeneralCase.Alike general other where
  name := h.name
  autoInclude := h.autoInclude
  leaves := h.leaves.imp fun leaf leaf' hleaf => ⟨hleaf.name, by rw [hleaf.own]⟩

variable {m : Type → Type} {ρ : Type}

namespace TestBuilder

variable {b b' : TestBuilder m ρ}

theorem runs_congr (h : ∀ name, name ∈ b.only ↔ name ∈ b'.only) : b.runs = b'.runs := by
  have hempty : b.only.isEmpty = b'.only.isEmpty := by
    rw [Bool.eq_iff_iff, List.isEmpty_iff, List.isEmpty_iff, List.eq_nil_iff_forall_not_mem,
      List.eq_nil_iff_forall_not_mem]
    exact forall_congr' fun name => not_congr (h name)
  funext case parentRuns
  have hcontains : b.only.contains case = b'.only.contains case := by
    rw [Bool.eq_iff_iff, List.contains_iff_mem, List.contains_iff_mem, h]
  rw [TestBuilder.runs, TestBuilder.runs, hempty, hcontains]

variable [Joinable ρ]

mutual

theorem Alike.nodeTests_eq (h : b.Alike b') (hruns : b.runs = b'.runs) {node other : CaseNode}
    (hsame : node.SameKept other) (case : String) (steps : ServiceSteps m) (runs : Bool) :
    b.nodeTests case steps runs node = b'.nodeTests case steps runs other := by
  cases hsame with
  | skipped hnode hother =>
    obtain ⟨own, cases⟩ := node
    obtain ⟨own', others⟩ := other
    rw [nodeTests, nodeTests, if_pos hnode, if_pos hother]
  | kept hcases =>
    rw [nodeTests, nodeTests]
    simp only [h.extend, h.caseTests, hruns, h.treeTests_eq hruns hcases]

theorem Alike.treeTests_eq (h : b.Alike b') (hruns : b.runs = b'.runs)
    {cases others : List (String × CaseNode)} (hsame : CasesSameKept cases others)
    (parent : String) (steps : ServiceSteps m) (runs : Bool) :
    b.treeTests parent steps runs cases = b'.treeTests parent steps runs others := by
  cases hsame with
  | nil => rfl
  | cons hnode hcases =>
    rw [treeTests, treeTests]
    simp only [h.nodeTests_eq hruns hnode, h.treeTests_eq hruns hcases]

end

end TestBuilder

theorem Config.SameKept.builder_alike {c other : Config} (h : c.SameKept other)
    (services : Entries (Service m)) (factory : RequestFactory ρ) :
    (c.builder services factory).Alike (other.builder services factory) where
  services := rfl
  request := by rw [builder, builder, h.application]
  generalCases := h.generalCases.imp fun _ _ hgeneral => hgeneral.alike

namespace Suite

variable [Joinable ρ] {c other : Config}

/-- Where only skipped cases differ and the same names are marked, the outcome is the same. -/
theorem ofConfig_sameKept (r : Registry m ρ) (h : c.SameKept other)
    (hmarks : ∀ name, name ∈ c.onlyNames ↔ name ∈ other.onlyNames) :
    ofConfig c r = ofConfig other r := by
  rw [ofConfig_eq, ofConfig_eq, h.environment, h.services, h.baseDir, h.application]
  -- initializers and services are built before the cases are looked at
  refine bind_congr fun environment => bind_congr fun services => bind_congr fun factory => ?_
  have hruns : (c.builder services factory).runs = (other.builder services factory).runs :=
    TestBuilder.runs_congr fun name =>
      Config.mem_only_builder.trans ((hmarks name).trans Config.mem_only_builder.symm)
  rw [(h.builder_alike services factory).treeTests_eq hruns h.cases]

/-- A marked case, and a skipped one with this in it. -/
def draftConfig (draft : CaseFields) (below : List (String × CaseNode)) : Config where
  application := ⟨"graphql", .blank⟩
  services := []
  environment := []
  generalCases := []
  cases := [
    ("users", ⟨{ sampleCase "a" with only := some true }, []⟩),
    ("draft", ⟨{ draft with skip := some true }, below⟩)]
  baseDir := "/suite"

theorem sameKept_draftConfig (draft draft' : CaseFields) (below below' : List (String × CaseNode)) :
    (draftConfig draft below).SameKept (draftConfig draft' below') where
  application := rfl
  services := rfl
  environment := rfl
  generalCases := .nil
  cases := .cons (.kept .nil) (.cons (.skipped rfl rfl) .nil)
  baseDir := rfl

/-- A case that asks for everything that is not there. -/
def brokenCase : CaseFields :=
  { CaseFields.blank with
    prepareServices := [("undeclared", .null)]
    expectedCode := some 200
    generalCases := some ⟨none, ["unknown"], []⟩ }

theorem ofConfig_draftConfig : ∃ suite, suite.names = ["users"] ∧
    ofConfig (draftConfig .blank [("more", ⟨{ sampleCase "b" with only := some true }, []⟩)])
      sampleRegistry = .ok suite ∧
    ofConfig (draftConfig brokenCase [("less", ⟨brokenCase, []⟩),
      ("more", ⟨{ brokenCase with only := some true }, []⟩)]) sampleRegistry = .ok suite := by
  have hresolved : ∃ suite, suite.names = ["users"] ∧
      ofConfig (draftConfig .blank [("more", ⟨{ sampleCase "b" with only := some true }, []⟩)])
        sampleRegistry = .ok suite := ⟨_, rfl, rfl⟩
  obtain ⟨suite, hnames, h⟩ := hresolved
  refine ⟨suite, hnames, h, ?_⟩
  rw [← h]
  refine (ofConfig_sameKept sampleRegistry (sameKept_draftConfig _ _ _ _) fun name => ?_).symm
  exact Iff.rfl

end Suite

end CaseSuite
