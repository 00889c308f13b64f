import CaseSuite.Proofs.Entries
import CaseSuite.Proofs.Outcome
import CaseSuite.Suite.OfConfig
/-!
What the tests of one case depend on: its fields but for the mark, the services and requests that
are to be had, and of the general cases what their leaves say for themselves. Marks of leaves and
anything below leaves never count. The builder of a configuration is named here, so that suites of
two configurations can be compared through their builders.
-/
set_option autoImplicit false

namespace CaseSuite

variable {m : Type → Type} {ρ : Type}

def CaseFields.unmarked (own : CaseFields) : CaseFields := { own with only := none }

/-- General cases with leaves that differ at most in marks and in what stands below them. -/
structure GeneralCase.Alike (general other : String × GeneralCase) : Prop where
  name : general.1 = other.1
  autoInclude : general.2.autoInclude = other.2.autoInclude
  leaves : List.Forall₂ (fun leaf leaf' : String × CaseNode =>
    leaf.1 = leaf'.1 ∧ leaf.2.own.unmarked = leaf'.2.own.unmarked) general.2.cases other.2.cases

namespace TestBuilder

/-- Builders with the same services and requests, and with general cases that are alike. -/
structure Alike (b b' : TestBuilder m ρ) : Prop where
  services : b.services = b'.services
  request : b.request = b'.request
  generalCases : List.Forall₂ GeneralCase.Alike b.generalCases b'.generalCases

variable {b b' : TestBuilder m ρ} {steps : ServiceSteps m}

theorem Alike.preparer (h : b.Alike b') : b.preparer = b'.preparer := by
  funext case entry
  simp only [TestBuilder.preparer, TestBuilder.service, h.services]

theorem Alike.checker (h : b.Alike b') : b.checker = b'.checker := by
  funext case entry
  simp only [TestBuilder.checker, TestBuilder.service, h.services]

theorem Alike.extend (h : b.Alike b') (case : String) (own : CaseFields) :
    b.extend case steps own = b'.extend case steps own := by
  rw [TestBuilder.extend, TestBuilder.extend, h.preparer, h.checker]

theorem Alike.requestOf (h : b.Alike b') : b.requestOf = b'.requestOf := by
  funext case request
  rw [TestBuilder.requestOf, TestBuilder.requestOf, h.request]

theorem Alike.has (h : b.Alike b') (name : String) :
    b.generalCases.has name = b'.generalCases.has name := by
  have hnames : b.generalCases.names = b'.generalCases.names := by
    rw [Entries.names, Entries.names, ← List.forall₂_eq_eq_eq, List.forall₂_map_left_iff,
      List.forall₂_map_right_iff]
    exact h.generalCases.imp fun _ _ halike => halike.name
  rw [Bool.eq_iff_iff, Entries.has_iff, Entries.has_iff, hnames]

variable [Joinable ρ]

theorem Alike.ownRequest (h : b.Alike b') (case : String) (own : CaseFields) :
    b.ownRequest case own = b'.ownRequest case own := by
  rw [TestBuilder.ownRequest, TestBuilder.ownRequest, h.requestOf]

theorem leafTest_unmarked (b : TestBuilder m ρ) (override : Option ρ) (name : String)
    (leaf : CaseFields) :
    b.leafTest steps override name leaf.unmarked = b.leafTest steps override name leaf := rfl

theorem Alike.leafTest (h : b.Alike b') (override : Option ρ) (name : String)
    {leaf leaf' : CaseFields} (hleaf : leaf.unmarked = leaf'.unmarked) :
    b.leafTest steps override name leaf = b'.leafTest steps override name leaf' := by
  rw [← b.leafTest_unmarked, hleaf, b.leafTest_unmarked]
  simp only [TestBuilder.leafTest, h.requestOf, h.extend]

theorem Alike.generalTests (h : b.Alike b') (case : String) (override : Option ρ)
    {general general' : String × GeneralCase} (halike : GeneralCase.Alike general general') :
    b.generalTests case steps override general = b'.generalTests case steps override general' := by
  refine mapM_congr halike.leaves fun leaf leaf' hleaf => ?_
  rw [halike.name, hleaf.1]
  exact h.leafTest override _ hleaf.2

theorem Alike.selectedTests (h : b.Alike b') (case : String) (s : Selector) :
    b.selectedTests case steps s = b'.selectedTests case steps s := by
  have hnames : b.checkNames s = b'.checkNames s := by
    simp only [checkNames, h.has]
  have hselected : List.Forall₂ GeneralCase.Alike
      (b.generalCases.filter fun g => s.selects g.1 g.2)
      (b'.generalCases.filter fun g => s.selects g.1 g.2) := by
    refine List.rel_filter (fun general general' halike => ?_) h.generalCases
    simp only [Selector.selects, halike.name, halike.autoInclude]
  -- the same names are checked, the same request is built, and then leaf by leaf the same tests
  rw [TestBuilder.selectedTests, TestBuilder.selectedTests, hnames, h.requestOf]
  refine bind_congr fun _ => bind_congr fun override => ?_
  exact congrArg (List.flatten <$> ·) (mapM_congr hselected fun _ _ => h.generalTests case override)

theorem Alike.caseTests (h : b.Alike b') (case : String) (own : CaseFields) :
    b.caseTests case steps own = b'.caseTests case steps own := by
  simp only [TestBuilder.caseTests, h.selectedTests, h.ownRequest]

end TestBuilder

/-- The builder of a configuration, with its services and what builds its requests. -/
def Config.builder (c : Config) (services : Entries (Service m)) (factory : RequestFactory ρ) :
    TestBuilder m ρ :=
  ⟨services, fun request => factory request c.application.defaults, c.generalCases,
    caseOnlyNames "" c.cases⟩

theorem Suite.ofConfig_eq [Joinable ρ] (c : Config) (r : Registry m ρ) :
    ofConfig c r = do
      let environment ← c.environment.mapM fun e => r.initializer e.1 e.2
      let services ← c.services.mapM (buildService r c.baseDir)
      let factory ← r.requestFactory c.application.requestType
      let tests ← (c.builder services factory).treeTests "" ⟨[], []⟩ false c.cases
      return ⟨tests, environment⟩ := rfl

theorem Suite.ofConfig_eq_ok [Joinable ρ] {c : Config} {r : Registry m ρ} {suite : Suite m ρ} :
    ofConfig c r = .ok suite ↔ ∃ services factory,
      c.environment.mapM (fun e => r.initializer e.1 e.2) = .ok suite.environment ∧
      c.services.mapM (buildService r c.baseDir) = .ok services ∧
      r.requestFactory c.application.requestType = .ok factory ∧
      (c.builder services factory).treeTests "" ⟨[], []⟩ false c.cases = .ok suite.tests := by
  simp only [ofConfig_eq, bind_eq_ok, pure_eq_ok]
  constructor
  · rintro ⟨environment, henvironment, services, hservices, factory, hfactory, tests, htests, rfl⟩
    exact ⟨services, factory, henvironment, hservices, hfactory, htests⟩
  · rintro ⟨services, factory, henvironment, hservices, hfactory, htests⟩
    exact ⟨_, henvironment, services, hservices, factory, hfactory, _, htests, rfl⟩

end CaseSuite
