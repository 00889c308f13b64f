import CaseSuite.Proofs.Suite.Skipped
import Mathlib.Data.Multiset.MapFold
/-!
Configurations that differ in the order of their maps alone: of services, of general cases and their
leaves, of cases at any depth, and of the steps of any case. Selectors may name what they name in
another order, and more than once. Such configurations resolve together, to the same tests up to
order.
-/
set_option autoImplicit false

namespace CaseSuite

/-- Lists with related items, in whatever order these stand. -/
def UpToOrder {α β : Type} (R : α → β → Prop) (as : List α) (cs : List β) : Prop :=
  ∃ bs, List.Forall₂ R as bs ∧ bs.Perm cs

/-- Selectors that name the same general cases. -/
structure Selector.Permuted (s s' : Selector) : Prop where
  request : s.request = s'.request
  includes : ∀ name, name ∈ s.includes ↔ name ∈ s'.includes
  excludes : ∀ name, name ∈ s.excludes ↔ name ∈ s'.excludes

structure CaseFields.Permuted (own own' : CaseFields) : Prop where
  prepareServices : own.prepareServices.Perm own'.prepareServices
  request : own.request = own'.request
  modifyRequest : own.modifyRequest = own'.modifyRequest
  expectedResponse : own.expectedResponse = own'.expectedResponse
  expectedCode : own.expectedCode = own'.expectedCode
  checkServices : own.checkServices.flatten.Perm own'.checkServices.flatten
  only : own.only = own'.only
  skip : own.skip = own'.skip
  generalCases : Option.Rel Selector.Permuted own.generalCases own'.generalCases
  saveResponseTo : own.saveResponseTo = own'.saveResponseTo

mutual

/-- The second case is the first one with maps in another order, its own and those below it. -/
inductive CaseNode.Permuted : CaseNode → CaseNode → Prop
  | mk {own own' : CaseFields} {cases others : List (String × CaseNode)} :
      own.Permuted own' → CasesPermuted cases others →
      CaseNode.Permuted ⟨own, cases⟩ ⟨own', others⟩

/-- Case by case under the same names, and then in another order. -/
inductive CasesPermuted : List (String × CaseNode) → List (String × CaseNode) → Prop
  | nil : CasesPermuted [] []
  | cons {name : String} {node other : CaseNode} {cases others : List (String × CaseNode)} :
      node.Permuted other → CasesPermuted cases others →
      CasesPermuted ((name, node) :: cases) ((name, other) :: others)
  | perm {cases others others' : List (String × CaseNode)} :
      CasesPermuted cases others → others.Perm others' → CasesPermuted cases others'

end

structure GeneralCase.Permuted (general other : String × GeneralCase) : Prop where
  name : general.1 = other.1
  autoInclude : general.2.autoInclude = other.2.autoInclude
  leaves : CasesPermuted general.2.cases other.2.cases

structure Config.Permuted (c other : Config) : Prop where
  application : c.application = other.application
  services : c.services.Perm other.services
  environment : c.environment = other.environment
  generalCases : UpToOrder GeneralCase.Permuted c.generalCases other.generalCases
  cases : CasesPermuted c.cases other.cases
  baseDir : c.baseDir = other.baseDir

/-- What a test says, with its steps in no order. -/
structure Test.Content (m : Type → Type) (ρ : Type) where
  name : String
  preparers : Multiset (Action m Unit)
  checkers : Multiset (Check m)
  request : ρ
  expectedResponse : ExpectedResponse
  expectedCode : Option Nat
  saveResponseTo : Option String

variable {m : Type → Type} {ρ : Type}

def Test.content (t : Test m ρ) : Test.Content m ρ :=
  ⟨t.name, t.preparers, t.checkers, t.request, t.expectedResponse, t.expectedCode, t.saveResponseTo⟩

/-- The same tests, in whatever order these and the steps of each stand. -/
def SameTests (ts us : List (Test m ρ)) : Prop :=
  (ts.map Test.content : Multiset (Test.Content m ρ)) = us.map Test.content

/-- The same tests, and the same initializers in their order. -/
structure Suite.SameContent (suite other : Suite m ρ) : Prop where
  tests : SameTests suite.tests other.tests
  environment : suite.environment = other.environment

/-- A leaf whose general case the selecting case excludes. -/
def Origin.IsExcluded : Origin → Prop
  | .own _ => False
  | .leaf w general _ => ∃ s ∈ w.own.generalCases, general ∈ s.excludes

theorem Config.not_isExcluded {c : Config} {o : Origin} (h : o ∈ c.origins) : ¬ o.IsExcluded := by
  cases o with
  | own w => exact id
  | leaf w general entry =>
    rintro ⟨s, hs, hexcluded⟩
    obtain ⟨s', hs', g, _, htakes, rfl, _⟩ := Config.exists_of_leaf_mem_origins h
    obtain rfl := Option.mem_unique hs hs'
    exact htakes.2 hexcluded

namespace UpToOrder

variable {α β : Type} {R : α → β → Prop}

theorem filter {p : α → Bool} {q : β → Bool} (hpq : ∀ a b, R a b → p a = q b) {as : List α}
    {cs : List β} (h : UpToOrder R as cs) : UpToOrder R (as.filter p) (cs.filter q) := by
  obtain ⟨bs, hbs, hperm⟩ := h
  refine ⟨bs.filter q, List.rel_filter (fun a b hab => ?_) hbs, hperm.filter q⟩
  simp only [hpq a b hab]

theorem map_eq {γ : Type} {f : α → γ} {g : β → γ} (hfg : ∀ a b, R a b → f a = g b) {as : List α}
    {cs : List β} (h : UpToOrder R as cs) : (as.map f).Perm (cs.map g) := by
  obtain ⟨bs, hbs, hperm⟩ := h
  have heq : as.map f = bs.map g := by
    rw [← List.forall₂_eq_eq_eq, List.forall₂_map_left_iff, List.forall₂_map_right_iff]
    exact hbs.imp hfg
  exact heq ▸ hperm.map g

theorem mapM {γ δ ε ε' : Type} {S : γ → δ → Prop} {f : α → Except ε γ} {g : β → Except ε' δ}
    (hfg : ∀ a b, R a b → Agree S (f a) (g b)) {as : List α} {cs : List β}
    (h : UpToOrder R as cs) : Agree (UpToOrder S) (as.mapM f) (cs.mapM g) := by
  obtain ⟨bs, hbs, hperm⟩ := h
  refine (Agree.mapM hbs hfg).trans (Agree.mapM_perm hperm) ?_
  exact fun xs ys zs hys hperm => ⟨ys, hys, hperm⟩

end UpToOrder

namespace SameTests

theorem iff_perm {ts us : List (Test m ρ)} :
    SameTests ts us ↔ (ts.map Test.content).Perm (us.map Test.content) :=
  Multiset.coe_eq_coe

theorem append {ts us ts' us' : List (Test m ρ)} (h : SameTests ts us) (h' : SameTests ts' us') :
    SameTests (ts ++ ts') (us ++ us') := by
  rw [iff_perm, List.map_append, List.map_append]
  exact (iff_perm.mp h).append (iff_perm.mp h')

theorem singleton {t u : Test m ρ} (h : t.content = u.content) : SameTests [t] [u] := by
  rw [iff_perm, List.map_singleton, List.map_singleton, h]

theorem of_upToOrder {ts us : List (Test m ρ)}
    (h : UpToOrder (fun t u => Test.content t = Test.content u) ts us) : SameTests ts us :=
  iff_perm.mpr (h.map_eq fun _ _ => id)

theorem flatten_perm {tss uss : List (List (Test m ρ))} (h : tss.Perm uss) :
    SameTests tss.flatten uss.flatten :=
  iff_perm.mpr (h.flatten.map Test.content)

theorem flatten {tss uss : List (List (Test m ρ))} (h : UpToOrder SameTests tss uss) :
    SameTests tss.flatten uss.flatten := by
  obtain ⟨vss, hvss, hperm⟩ := h
  refine Eq.trans ?_ (flatten_perm hperm)
  clear hperm
  induction hvss with
  | nil => rfl
  | cons hts _ ih => exact hts.append ih

end SameTests

theorem CaseNode.Permuted.own {node other : CaseNode} (h : node.Permuted other) :
    node.own.Permuted other.own := by
  cases h with
  | mk hown _ => exact hown

theorem CaseFields.Permuted.refl (own : CaseFields) : own.Permuted own where
  prepareServices := .refl _
  request := rfl
  modifyRequest := rfl
  expectedResponse := rfl
  expectedCode := rfl
  checkServices := .refl _
  only := rfl
  skip := rfl
  generalCases := by
    cases own.generalCases with
    | none => exact .none
    | some s => exact .some ⟨rfl, fun _ => Iff.rfl, fun _ => Iff.rfl⟩
  saveResponseTo := rfl

mutual

theorem CaseNode.Permuted.refl : (node : CaseNode) → node.Permuted node
  | ⟨own, cases⟩ => .mk (.refl own) (CasesPermuted.refl cases)

theorem CasesPermuted.refl : (cases : List (String × CaseNode)) → CasesPermuted cases cases
  | [] => .nil
  | (_, node) :: cases => .cons (.refl node) (CasesPermuted.refl cases)

end

theorem CasesPermuted.upToOrder : {cases others : List (String × CaseNode)} →
    CasesPermuted cases others →
      UpToOrder (fun e e' => e.1 = e'.1 ∧ e.2.own.Permuted e'.2.own) cases others
  | _, _, .nil => ⟨[], .nil, .nil⟩
  | _, (name, other) :: _, .cons hnode hcases =>
    have ⟨bs, hbs, hperm⟩ := hcases.upToOrder
    ⟨(name, other) :: bs, .cons ⟨rfl, hnode.own⟩ hbs, hperm.cons _⟩
  | _, _, .perm hcases hperm =>
    have ⟨bs, hbs, hperm'⟩ := hcases.upToOrder
    ⟨bs, hbs, hperm'.trans hperm⟩

theorem caseOnlyNames_eq_flatMap (parent : String) (cases : List (String × CaseNode)) :
    caseOnlyNames parent cases = cases.flatMap fun e => e.2.onlyNames (qualify parent e.1) := by
  induction cases with
  | nil => rfl
  | cons e cases ih => rw [caseOnlyNames, ih, List.flatMap_cons]

mutual

theorem CaseNode.Permuted.onlyNames_perm : {node other : CaseNode} → node.Permuted other →
    (name : String) → (node.onlyNames name).Perm (other.onlyNames name)
  | _, _, .mk hown hcases, name => by
    rw [CaseNode.onlyNames, CaseNode.onlyNames, CaseFields.isOnly, CaseFields.isOnly, hown.only]
    exact (hcases.onlyNames_perm name).append_right _

theorem CasesPermuted.onlyNames_perm : {cases others : List (String × CaseNode)} →
    CasesPermuted cases others →
      (parent : String) → (caseOnlyNames parent cases).Perm (caseOnlyNames parent others)
  | _, _, .nil, _ => .nil
  | _, _, .cons hnode hcases, parent => by
    rw [caseOnlyNames, caseOnlyNames]
    exact (hnode.onlyNames_perm _).append (hcases.onlyNames_perm parent)
  | _, _, .perm hcases hperm, parent => by
    refine (hcases.onlyNames_perm parent).trans ?_
    rw [caseOnlyNames_eq_flatMap, caseOnlyNames_eq_flatMap]
    exact hperm.flatMap_right _

end

theorem CaseFields.Permuted.definesRequest_eq {own own' : CaseFields} (h : own.Permuted own') :
    own.definesRequest = own'.definesRequest := by
  simp only [definesRequest, assertedCode, h.request, h.modifyRequest, h.expectedCode,
    h.expectedResponse]

theorem Selector.Permuted.selects_eq {s s' : Selector} (h : s.Permuted s')
    {g g' : String × GeneralCase} (hg : GeneralCase.Permuted g g') :
    s.selects g.1 g.2 = s'.selects g'.1 g'.2 := by
  rw [Bool.eq_iff_iff, selects_iff, selects_iff, Takes, Takes, hg.name, hg.autoInclude, h.includes,
    h.excludes]

/-- The same steps in any order. -/
structure ServiceSteps.Permuted (steps steps' : ServiceSteps m) : Prop where
  preparers : steps.preparers.Perm steps'.preparers
  checkers : steps.checkers.Perm steps'.checkers

namespace TestBuilder

/-- Builders with the same services and requests, the same marks, and general cases in any order. -/
structure Permuted (b b' : TestBuilder m ρ) : Prop where
  services : ∀ name, b.services.find? name = b'.services.find? name
  request : b.request = b'.request
  generalCases : UpToOrder GeneralCase.Permuted b.generalCases b'.generalCases
  only : ∀ name, name ∈ b.only ↔ name ∈ b'.only

variable {b b' : TestBuilder m ρ} {steps steps' : ServiceSteps m}

theorem Permuted.preparer_eq (h : b.Permuted b') : b.preparer = b'.preparer := by
  funext case entry
  simp only [TestBuilder.preparer, TestBuilder.service, h.services]

theorem Permuted.checker_eq (h : b.Permuted b') : b.checker = b'.checker := by
  funext case entry
  simp only [TestBuilder.checker, TestBuilder.service, h.services]

theorem Permuted.requestOf_eq (h : b.Permuted b') : b.requestOf = b'.requestOf := by
  funext case request
  rw [TestBuilder.requestOf, TestBuilder.requestOf, h.request]

theorem Permuted.extend (h : b.Permuted b') (hsteps : steps.Permuted steps')
    {own own' : CaseFields} (hown : own.Permuted own') (case : String) :
    Agree ServiceSteps.Permuted (b.extend case steps own) (b'.extend case steps' own') := by
  rw [TestBuilder.extend, TestBuilder.extend, h.preparer_eq, h.checker_eq]
  refine (Agree.mapM_perm hown.prepareServices).bind fun preparers preparers' hpreparers => ?_
  refine (Agree.mapM_perm hown.checkServices).bind fun checkers checkers' hcheckers => ?_
  exact .ok ⟨hsteps.preparers.append hpreparers, hsteps.checkers.append hcheckers⟩

theorem content_test (hsteps : steps.Permuted steps') {own own' : CaseFields}
    (hown : own.Permuted own') (case : String) (request : ρ) :
    (test case steps request own).content = (test case steps' request own').content := by
  have hpreparers := Multiset.coe_eq_coe.mpr hsteps.preparers
  have hcheckers := Multiset.coe_eq_coe.mpr hsteps.checkers
  simp only [test, Test.content, hpreparers, hcheckers, CaseFields.assertedCode,
    hown.expectedResponse, hown.expectedCode, hown.saveResponseTo]

variable [Joinable ρ]

theorem Permuted.ownRequest_eq (h : b.Permuted b') {own own' : CaseFields}
    (hown : own.Permuted own') (case : String) :
    b.ownRequest case own = b'.ownRequest case own' := by
  rw [TestBuilder.ownRequest, TestBuilder.ownRequest, h.requestOf_eq, hown.request,
    hown.modifyRequest]

theorem Permuted.leafTest (h : b.Permuted b') (hsteps : steps.Permuted steps')
    {leaf leaf' : CaseFields} (hleaf : leaf.Permuted leaf') (override : Option ρ) (name : String) :
    Agree (fun t t' => Test.content t = Test.content t') (b.leafTest steps override name leaf)
      (b'.leafTest steps' override name leaf') := by
  have hrest (request : ρ) : Agree (fun t t' => Test.content t = Test.content t')
      (do return test name (← b.extend name steps leaf) request leaf)
      (do return test name (← b'.extend name steps' leaf') request leaf') :=
    (h.extend hsteps hleaf name).bind fun _ _ hextended =>
      .ok (content_test hextended hleaf name request)
  rw [TestBuilder.leafTest, TestBuilder.leafTest, h.requestOf_eq, hleaf.request]
  cases leaf'.request with
  | none => exact .error _ _
  | some value =>
    refine Agree.bind_same fun below => ?_
    cases override with
    | none => exact hrest below
    | some above => exact Agree.bind_same hrest

omit [Joinable ρ] in
theorem Permuted.checkNames (h : b.Permuted b') {s s' : Selector} (hs : s.Permuted s') :
    Agree Eq (b.checkNames s) (b'.checkNames s') := by
  have hnames : b.generalCases.names.Perm b'.generalCases.names :=
    h.generalCases.map_eq fun _ _ hg => hg.name
  refine .of_iff ?_
  simp only [TestBuilder.checkNames, forM_eq_ok, List.mem_append, hs.includes, hs.excludes,
    ite_eq_left_iff, reduceCtorEq, imp_false, not_not, Entries.has_iff, hnames.mem_iff]

theorem Permuted.selectedTests (h : b.Permuted b') (hsteps : steps.Permuted steps')
    {s s' : Selector} (hs : s.Permuted s') (case : String) :
    Agree SameTests (b.selectedTests case steps s) (b'.selectedTests case steps' s') := by
  rw [TestBuilder.selectedTests, TestBuilder.selectedTests, h.requestOf_eq, hs.request]
  refine (h.checkNames hs).bind fun _ _ _ => ?_
  refine Agree.bind_same fun override => ?_
  have hselected := h.generalCases.filter
    (p := fun g => s.selects g.1 g.2) (q := fun g => s'.selects g.1 g.2)
    fun _ _ hg => hs.selects_eq hg
  refine (hselected.mapM fun g g' hg => ?_).map fun _ _ => .flatten
  rw [TestBuilder.generalTests, TestBuilder.generalTests, hg.name]
  refine (hg.leaves.upToOrder.mapM fun leaf leaf' hleaf => ?_).imp
    fun _ _ => .of_upToOrder
  rw [hleaf.1]
  exact h.leafTest hsteps hleaf.2 override _

theorem Permuted.caseTests (h : b.Permuted b') (hsteps : steps.Permuted steps')
    {own own' : CaseFields} (hown : own.Permuted own') (case : String) :
    Agree SameTests (b.caseTests case steps own) (b'.caseTests case steps' own') := by
  have hrest (general general' : List (Test m ρ)) (hgeneral : SameTests general general') :
      Agree SameTests
        (if own.definesRequest then
          do return general ++ [test case steps (← b.ownRequest case own) own]
        else return general)
        (if own'.definesRequest then
          do return general' ++ [test case steps' (← b'.ownRequest case own') own']
        else return general') := by
    rw [hown.definesRequest_eq, h.ownRequest_eq hown]
    split
    · refine Agree.bind_same fun request => .ok ?_
      exact hgeneral.append (.singleton (content_test hsteps hown case request))
    · exact .ok hgeneral
  have hgeneralCases := hown.generalCases
  rw [TestBuilder.caseTests, TestBuilder.caseTests]
  generalize own.generalCases = o, own'.generalCases = o' at hgeneralCases ⊢
  cases hgeneralCases with
  | none => exact hrest [] [] rfl
  | some hs => exact (h.selectedTests hsteps hs case).bind hrest

theorem treeTests_eq_flatten (b : TestBuilder m ρ) (parent : String) (runs : Bool)
    (cases : List (String × CaseNode)) : b.treeTests parent steps runs cases =
      List.flatten <$> cases.mapM fun e => b.nodeTests (qualify parent e.1) steps runs e.2 := by
  induction cases with
  | nil => rfl
  | cons e cases ih =>
    rw [treeTests, ih, List.mapM_cons]
    cases b.nodeTests (qualify parent e.1) steps runs e.2 with
    | error _ => rfl
    | ok ts => cases cases.mapM fun e => b.nodeTests (qualify parent e.1) steps runs e.2 <;> rfl

theorem treeTests_perm (b : TestBuilder m ρ) (parent : String) (runs : Bool)
    {cases others : List (String × CaseNode)} (h : cases.Perm others) :
    Agree SameTests (b.treeTests parent steps runs cases)
      (b.treeTests parent steps runs others) := by
  rw [treeTests_eq_flatten, treeTests_eq_flatten]
  exact (Agree.mapM_perm h).map fun _ _ => .flatten_perm

mutual

theorem Permuted.nodeTests (h : b.Permuted b') : {node other : CaseNode} → node.Permuted other →
    {steps steps' : ServiceSteps m} → steps.Permuted steps' → (case : String) → (runs : Bool) →
    Agree SameTests (b.nodeTests case steps runs node) (b'.nodeTests case steps' runs other)
  | _, _, .mk hown hcases, _, _, hsteps, case, runs => by
    rw [TestBuilder.nodeTests, TestBuilder.nodeTests, CaseFields.isSkipped, CaseFields.isSkipped,
      hown.skip, runs_congr h.only]
    split
    · exact .ok rfl
    · refine (h.extend hsteps hown case).bind fun steps steps' hsteps => ?_
      have htests := h.caseTests hsteps hown case
      have hbelow := h.treeTests hcases hsteps case (b'.runs case runs)
      split
      · exact htests.bind fun _ _ hts => hbelow.bind fun _ _ hts' => .ok (hts.append hts')
      · exact hbelow.bind fun _ _ hts => .ok hts

/-- The tests of cases in another order are the same, or there are none of either. -/
theorem Permuted.treeTests (h : b.Permuted b') : {cases others : List (String × CaseNode)} →
    CasesPermuted cases others → {steps steps' : ServiceSteps m} → steps.Permuted steps' →
    (parent : String) → (runs : Bool) →
    Agree SameTests (b.treeTests parent steps runs cases)
      (b'.treeTests parent steps' runs others)
  | _, _, .nil, _, _, _, _, _ => .ok rfl
  | _, _, .cons hnode hcases, _, _, hsteps, parent, runs => by
    rw [TestBuilder.treeTests, TestBuilder.treeTests]
    refine (h.nodeTests hnode hsteps _ runs).bind fun _ _ hts => ?_
    exact (h.treeTests hcases hsteps parent runs).bind fun _ _ hts' => .ok (hts.append hts')
  | _, _, .perm hcases hperm, _, _, hsteps, parent, runs =>
    (h.treeTests hcases hsteps parent runs).trans (b'.treeTests_perm parent runs hperm)
      fun _ _ _ => Eq.trans

end

end TestBuilder

variable {c other : Config}

theorem Suite.names_buildService {r : Registry m ρ} {baseDir : String}
    {declared : Entries ServiceDeclaration} {services : Entries (Service m)}
    (h : declared.mapM (buildService r baseDir) = .ok services) :
    services.names = declared.names := by
  have hnames : List.Forall₂ (fun e e' => Prod.fst e' = Prod.fst e) declared services := by
    refine (mapM_eq_ok.mp h).imp fun e e' he => ?_
    obtain ⟨service, _, he⟩ := bind_eq_ok.mp he
    rw [← pure_eq_ok.mp he]
  rw [Entries.names, Entries.names, ← List.forall₂_eq_eq_eq, List.forall₂_map_left_iff,
    List.forall₂_map_right_iff]
  exact hnames.flip

/-- Declarations in another order build the same services, each under a name of its own. -/
theorem Suite.services_perm (r : Registry m ρ) (baseDir : String)
    {declared declared' : Entries ServiceDeclaration} (h : declared.Perm declared')
    (hd : declared.Distinct) :
    Agree (fun services services' => Entries.Distinct services ∧ services.Perm services')
      (declared.mapM (buildService r baseDir)) (declared'.mapM (buildService r baseDir)) := by
  refine (Agree.mapM_perm h).left.imp fun services services' ⟨hbuilt, hperm⟩ => ⟨?_, hperm⟩
  rw [Entries.Distinct, names_buildService hbuilt]
  exact hd

theorem Config.Permuted.builder (h : c.Permuted other) {services services' : Entries (Service m)}
    (hd : services.Distinct) (hperm : services.Perm services') (factory : RequestFactory ρ) :
    (c.builder services factory).Permuted (other.builder services' factory) where
  services := hd.find?_perm hperm
  request := by rw [Config.builder, Config.builder, h.application]
  generalCases := h.generalCases
  only _ := (h.cases.onlyNames_perm "").mem_iff

namespace Suite

variable [Joinable ρ]

/-- Configurations in another order resolve both or neither, to suites of the same tests. In no
order does an excluded general case give a test. -/
theorem ofConfig_permuted (r : Registry m ρ) (h : c.Permuted other) (hd : c.services.Distinct) :
    Agree SameContent (ofConfig c r) (ofConfig other r) ∧
      ∀ suite, ofConfig c r = .ok suite →
        List.Forall₂ (fun o t => ¬ o.IsExcluded ∧ o.Describes c r t) c.origins suite.tests := by
  constructor
  · rw [ofConfig_eq, ofConfig_eq, h.environment, h.application, h.baseDir]
    refine Agree.bind_same fun environment => ?_
    refine (services_perm r other.baseDir h.services hd).bind fun services services' hservices => ?_
    refine Agree.bind_same fun factory => ?_
    have hbuilder := h.builder hservices.1 hservices.2 factory
    have hsteps : ServiceSteps.Permuted (m := m) ⟨[], []⟩ ⟨[], []⟩ := ⟨.nil, .nil⟩
    exact (hbuilder.treeTests h.cases hsteps "" false).bind fun _ _ htests => .ok ⟨htests, rfl⟩
  · intro suite hsuite
    obtain ⟨b, hb, htests⟩ := exists_serves_of_ofConfig hsuite
    exact (List.forall₂_and_left _ _).mpr ⟨fun _ => Config.not_isExcluded,
      hb.treeTests_describes (hands_root hb) c.cases htests⟩

def straightConfig : Config where
  application := ⟨"graphql", .blank⟩
  services := [("db", ⟨"memory", []⟩), ("log", ⟨"memory", []⟩)]
  environment := []
  generalCases := sampleConfig.generalCases
  cases := [
    ("users", ⟨{ CaseFields.blank with
        prepareServices := [("db", .str "clear"), ("log", .null)] }, [
      ("list", ⟨{ sampleCase "c" with
          modifyRequest := some (.object [("query", .str "n")])
          generalCases := some ⟨none, ["auth", "paging"], ["auth"]⟩ }, []⟩),
      ("other", ⟨sampleCase "f", []⟩)]⟩)]
  baseDir := "/suite"

/-- The same in another order: services, general cases, the steps of a case and the cases below it
are turned around, and a general case is named twice. -/
def turnedConfig : Config where
  application := ⟨"graphql", .blank⟩
  services := [("log", ⟨"memory", []⟩), ("db", ⟨"memory", []⟩)]
  environment := []
  generalCases := sampleConfig.generalCases.reverse
  cases := [
    ("users", ⟨{ CaseFields.blank with
        prepareServices := [("log", .null), ("db", .str "clear")] }, [
      ("other", ⟨sampleCase "f", []⟩),
      ("list", ⟨{ sampleCase "c" with
          modifyRequest := some (.object [("query", .str "n")])
          generalCases := some ⟨none, ["paging", "auth", "paging"], ["auth"]⟩ }, []⟩)]⟩)]
  baseDir := "/suite"

theorem permuted_straightConfig : straightConfig.Permuted turnedConfig where
  application := rfl
  services := .swap _ _ _
  environment := rfl
  generalCases := ⟨_, List.forall₂_same.mpr fun g _ => ⟨rfl, rfl, .refl _⟩, .swap _ _ _⟩
  cases := by
    have hlist : CaseFields.Permuted
        { sampleCase "c" with
          modifyRequest := some (.object [("query", .str "n")])
          generalCases := some ⟨none, ["auth", "paging"], ["auth"]⟩ }
        { sampleCase "c" with
          modifyRequest := some (.object [("query", .str "n")])
          generalCases := some ⟨none, ["paging", "auth", "paging"], ["auth"]⟩ } :=
      { CaseFields.Permuted.refl _ with
        generalCases := .some ⟨rfl, by simp [or_comm], fun _ => Iff.rfl⟩ }
    have husers : CaseFields.Permuted
        { CaseFields.blank with prepareServices := [("db", .str "clear"), ("log", .null)] }
        { CaseFields.blank with prepareServices := [("log", .null), ("db", .str "clear")] } :=
      { CaseFields.Permuted.refl _ with prepareServices := .swap _ _ _ }
    exact .cons (.mk husers (.perm (.cons (.mk hlist .nil) (.refl _)) (.swap _ _ _))) .nil
  baseDir := rfl

theorem ofConfig_turnedConfig : ∃ suite other,
    ofConfig straightConfig sampleRegistry = .ok suite ∧
    ofConfig turnedConfig sampleRegistry = .ok other ∧
    suite.names = ["users list paging large", "users list", "users other"] ∧
    other.names = ["users other", "users list paging large", "users list"] ∧
    suite.SameContent other := by
  have hresolved : ∃ suite other, ofConfig straightConfig sampleRegistry = .ok suite ∧
      ofConfig turnedConfig sampleRegistry = .ok other ∧
      suite.names = ["users list paging large", "users list", "users other"] ∧
      other.names = ["users other", "users list paging large", "users list"] :=
    ⟨_, _, rfl, rfl, rfl, rfl⟩
  obtain ⟨suite, other, h, h', hnames, hnames'⟩ := hresolved
  refine ⟨suite, other, h, h', hnames, hnames', ?_⟩
  have hdistinct : straightConfig.services.Distinct := by
    simp [straightConfig, Entries.Distinct]
  have hagree := (ofConfig_permuted sampleRegistry permuted_straightConfig hdistinct).1
  rw [h, h'] at hagree
  cases hagree with
  | ok hsame => exact hsame

end Suite

end CaseSuite
