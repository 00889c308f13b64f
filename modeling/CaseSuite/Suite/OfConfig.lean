import CaseSuite.Collaborator.Registry
import CaseSuite.Config.Join
import CaseSuite.Suite.Basic
/-!
The suite that a configuration describes. The case tree is gone through in its order: a case gives
a test for each leaf of the general cases it selects and one of its own if it defines a request, and
then come the cases below it. Steps of services go down the tree, so that a case has its parents'
steps before its own.
-/
set_option autoImplicit false

namespace CaseSuite

mutual

/-- The names of the nodes from this one on that are marked as the only ones to run. -/
def CaseNode.onlyNames (name : String) : CaseNode → List String
  | ⟨own, cases⟩ => caseOnlyNames name cases ++ if own.isOnly then [name] else []

def caseOnlyNames (parent : String) : List (String × CaseNode) → List String
  | [] => []
  | (name, node) :: cases => node.onlyNames (qualify parent name) ++ caseOnlyNames parent cases

end

structure ServiceSteps (m : Type → Type) where
  preparers : List (Action m Unit)
  checkers : List (Check m)

structure TestBuilder (m : Type → Type) (ρ : Type) where
  services : Entries (Service m)
  request : Value → Except Error ρ
  generalCases : Entries GeneralCase
  /-- The names of the cases that alone are to run; without any, all cases run. -/
  only : List String

namespace TestBuilder

variable {m : Type → Type} {ρ : Type} (b : TestBuilder m ρ)

def service (name : String) : Except Error (Service m) :=
  match b.services.find? name with
  | some service => .ok service
  | none => .error (.undeclaredService name)

def preparer (case : String) (entry : String × Value) : Except Error (Action m Unit) := do
  ((← b.service entry.1).preparer entry.2).mapError (.preparerNotBuilt case entry.1)

def checker (case : String) (entry : String × Value) : Except Error (Check m) := do
  ((← b.service entry.1).checker entry.2).mapError (.checkerNotBuilt case entry.1)

/-- The steps with those of one more case after them. -/
def extend (case : String) (steps : ServiceSteps m) (own : CaseFields) :
    Except Error (ServiceSteps m) := do
  let preparers ← own.prepareServices.mapM (b.preparer case)
  let checkers ← own.checkServices.flatten.mapM (b.checker case)
  return ⟨steps.preparers ++ preparers, steps.checkers ++ checkers⟩

def requestOf (case : String) (request : Value) : Except Error ρ :=
  (b.request request).mapError (.requesterNotBuilt case)

def test (case : String) (steps : ServiceSteps m) (request : ρ) (own : CaseFields) : Test m ρ :=
  ⟨case, steps.preparers, steps.checkers, request, own.expectedResponse, own.assertedCode,
    own.saveResponseTo⟩

variable [Joinable ρ]

/-- The request of a case, with its modification over it. -/
def ownRequest (case : String) (own : CaseFields) : Except Error ρ := do
  let some request := own.request | throw (.requestMissing case)
  let request ← b.requestOf case request
  match own.modifyRequest with
  | none => return request
  | some modification =>
    let modification ← b.requestOf case modification
    (Joinable.join request modification).mapError (.modificationNotJoined case)

/-- The test of a general case's leaf; the selector's request goes over that of the leaf. -/
def leafTest (steps : ServiceSteps m) (override : Option ρ) (name : String) (leaf : CaseFields) :
    Except Error (Test m ρ) := do
  let some request := leaf.request | throw (.leafRequestMissing name)
  let request ← b.requestOf name request
  let request ← match override with
    | none => pure request
    | some override => (Joinable.join request override).mapError (.selectorNotJoined name)
  -- services are asked only now, when the request has been built
  let steps ← b.extend name steps leaf
  return test name steps request leaf

/-- Every general case that a selector names must be declared. -/
def checkNames (selector : Selector) : Except Error Unit :=
  (selector.includes ++ selector.excludes).forM fun name =>
    if b.generalCases.has name then .ok () else .error (.undeclaredGeneralCase name)

def generalTests (case : String) (steps : ServiceSteps m) (override : Option ρ)
    (general : String × GeneralCase) : Except Error (List (Test m ρ)) :=
  general.2.cases.mapM fun leaf =>
    b.leafTest steps override s!"{case} {general.1} {leaf.1}" leaf.2.own

def selectedTests (case : String) (steps : ServiceSteps m) (selector : Selector) :
    Except Error (List (Test m ρ)) := do
  b.checkNames selector
  let override ← selector.request.mapM (b.requestOf case)
  let selected := b.generalCases.filter fun g => selector.selects g.1 g.2
  List.flatten <$> selected.mapM (b.generalTests case steps override)

/-- The tests of a case without those of the cases below it. -/
def caseTests (case : String) (steps : ServiceSteps m) (own : CaseFields) :
    Except Error (List (Test m ρ)) := do
  let general ← match own.generalCases with
    | none => pure []
    | some selector => b.selectedTests case steps selector
  if own.definesRequest then
    return general ++ [test case steps (← b.ownRequest case own) own]
  else return general

def runs (case : String) (parentRuns : Bool) : Bool :=
  parentRuns || b.only.isEmpty || b.only.contains case

mutual

def nodeTests (case : String) (steps : ServiceSteps m) (parentRuns : Bool) :
    CaseNode → Except Error (List (Test m ρ))
  | ⟨own, cases⟩ =>
    -- nothing in a skipped case is asked for, not even its services
    if own.isSkipped then .ok []
    else do
      let runs := b.runs case parentRuns
      -- cases below may run where this one does not, and they need its steps
      let steps ← b.extend case steps own
      let tests ← if runs then b.caseTests case steps own else pure []
      return tests ++ (← treeTests case steps runs cases)

def treeTests (parent : String) (steps : ServiceSteps m) (parentRuns : Bool) :
    List (String × CaseNode) → Except Error (List (Test m ρ))
  | [] => .ok []
  | (name, node) :: cases => do
    let tests ← nodeTests (qualify parent name) steps parentRuns node
    return tests ++ (← treeTests parent steps parentRuns cases)

end

end TestBuilder

namespace Suite

variable {m : Type → Type} {ρ : Type}

/-- The error of a service that is not built; an unknown type stands for itself. -/
def serviceError (name : String) : Error → Error
  | .unknownServiceType type => .unknownServiceType type
  | cause => .serviceNotBuilt name cause

def buildService (registry : Registry m ρ) (baseDir : String)
    (entry : String × ServiceDeclaration) : Except Error (String × Service m) := do
  let (name, declaration) := entry
  let service ← (registry.service ⟨name, baseDir⟩ declaration.serviceType
    (.object declaration.params)).mapError (serviceError name)
  return (name, service)

def ofConfig [Joinable ρ] (config : Config) (registry : Registry m ρ) :
    Except Error (Suite m ρ) := do
  let environment ← config.environment.mapM fun e => registry.initializer e.1 e.2
  let services ← config.services.mapM (buildService registry config.baseDir)
  let factory ← registry.requestFactory config.application.requestType
  let builder : TestBuilder m ρ :=
    ⟨services, fun request => factory request config.application.defaults, config.generalCases,
      caseOnlyNames "" config.cases⟩
  return ⟨← builder.treeTests "" ⟨[], []⟩ false config.cases, environment⟩

end Suite

end CaseSuite
