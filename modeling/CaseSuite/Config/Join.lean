import CaseSuite.Config.Basic
import CaseSuite.Error
/-!
Joining the fragments of a suite. Case trees are laid over each other node by node, and nothing may
be said twice: a field of a node, or a name in a section, that two fragments have is a conflict.
-/
set_option autoImplicit false

namespace CaseSuite

/-- A field that two fragments define. -/
structure Conflict where
  path : String
  field : String
  deriving DecidableEq, Repr

def Conflict.error (c : Conflict) : Error := .conflict c.path c.field

/-- How far a merge came, and the conflict that stopped it if there is one. -/
structure Progress (α : Type) where
  reached : α
  stopped : Option Conflict

namespace Progress

variable {α β : Type}

def start (a : α) : Progress α := ⟨a, none⟩

/-- Goes on unless the merge was stopped. -/
def next (p : Progress α) (step : α → Progress α) : Progress α :=
  if p.stopped.isSome then p else step p.reached

def map (f : α → β) (p : Progress α) : Progress β := ⟨f p.reached, p.stopped⟩

end Progress

/-- The name of a node below another one. -/
def qualify (parent name : String) : String :=
  if parent.isEmpty then name else s!"{parent} {name}"

namespace CaseFields

/-- Takes over a field that the other side defines; it is a conflict if this side does too. -/
def takeField {α : Type} (path field : String) (mine theirs : Option α)
    (put : α → CaseFields) (c : CaseFields) : Progress CaseFields :=
  match theirs, mine with
  | none, _ => ⟨c, none⟩
  | some a, none => ⟨put a, none⟩
  | some _, some _ => ⟨c, some ⟨path, field⟩⟩

/-- Takes over the preparations of services, each of which is a field of its own. -/
def takePreparations (path : String) : Entries Value → CaseFields → Progress CaseFields
  | [], c => ⟨c, none⟩
  | (service, params) :: es, c =>
    if c.prepareServices.has service then ⟨c, some ⟨path, s!"prepare_services.{service}"⟩⟩
    else takePreparations path es
      { c with prepareServices := c.prepareServices.insert service params }

/-- A response is defined unless it is absent. -/
def definedResponse (c : CaseFields) : Option ExpectedResponse :=
  if c.expectedResponse.isAbsent then none else some c.expectedResponse

/-- Checks of services are defined unless there are none. -/
def definedChecks (c : CaseFields) : Option (List (Entries Value)) :=
  if c.checkServices.isEmpty then none else some c.checkServices

/-- Lays the fields of another definition of the same node over these. -/
def merge (path : String) (c other : CaseFields) : Progress CaseFields :=
  Progress.start c
    |>.next (takePreparations path other.prepareServices)
    |>.next (fun c => c.takeField path "request" c.request other.request
      fun a => { c with request := some a })
    |>.next (fun c => c.takeField path "modify_request" c.modifyRequest other.modifyRequest
      fun a => { c with modifyRequest := some a })
    |>.next (fun c => c.takeField path "expected_response" c.definedResponse other.definedResponse
      fun a => { c with expectedResponse := a })
    |>.next (fun c => c.takeField path "expected_code" c.expectedCode other.expectedCode
      fun a => { c with expectedCode := some a })
    |>.next (fun c => c.takeField path "check_services" c.definedChecks other.definedChecks
      fun a => { c with checkServices := a })
    |>.next (fun c => c.takeField path "only" c.only other.only fun a => { c with only := some a })
    |>.next (fun c => c.takeField path "skip" c.skip other.skip fun a => { c with skip := some a })
    |>.next (fun c => c.takeField path "general_cases" c.generalCases other.generalCases
      fun a => { c with generalCases := some a })
    |>.next (fun c => c.takeField path "save_response_to" c.saveResponseTo other.saveResponseTo
      fun a => { c with saveResponseTo := some a })

end CaseFields

mutual

def CaseNode.merge (path : String) (node : CaseNode) : (other : CaseNode) → Progress CaseNode
  | ⟨own, cases⟩ =>
    let fields := node.own.merge path own
    if fields.stopped.isSome then fields.map fun c => { node with own := c }
    else (mergeCases path node.cases cases).map fun below => ⟨fields.reached, below⟩

/-- Lays nodes over those of the same names; new ones come after them. -/
def mergeCases (parent : String) (known : Entries CaseNode) :
    List (String × CaseNode) → Progress (Entries CaseNode)
  | [] => ⟨known, none⟩
  | (name, other) :: cases =>
    match known.find? name with
    | none => mergeCases parent (known.insert name other) cases
    | some node =>
      let merged := node.merge (qualify parent name) other
      if merged.stopped.isSome then merged.map fun node => known.insert name node
      else mergeCases parent (known.insert name merged.reached) cases

end

/-- Adds the entries of a section; a name that is there already is a conflict. -/
def addUnique {α : Type} (part : String) (known : Entries α) :
    List (String × α) → Except Error (Entries α)
  | [] => .ok known
  | (name, a) :: es =>
    if known.has name then .error (.conflict part name)
    else addUnique part (known.insert name a) es

namespace Fragment

/-- The application of two fragments, which only one of them may have. -/
def joinApplication (a b : Option Application) : Except Error (Option Application) :=
  match b, a with
  | none, _ => .ok a
  | some _, none => .ok b
  | some _, some _ => .error (.conflict "application" "application")

def join (f g : Fragment) : Except Error Fragment := do
  let application ← joinApplication f.application g.application
  let services ← addUnique "services" f.services g.services
  let environment ← addUnique "environment" f.environment g.environment
  let generalCases ← addUnique "general_cases" f.generalCases g.generalCases
  let cases := mergeCases "" f.cases g.cases
  match cases.stopped with
  | some conflict => throw conflict.error
  | none => return ⟨application, services, environment, generalCases, cases.reached⟩

def joinAll (f : Fragment) : List Fragment → Except Error Fragment
  | [] => .ok f
  | g :: fragments => do joinAll (← f.join g) fragments

end Fragment

/-- The suite that fragments make together; one of them must say what the application is. -/
def Config.ofFragments (fragments : List Fragment) (baseDir : String) : Except Error Config := do
  let f ← Fragment.blank.joinAll fragments
  match f.application with
  | none => throw (.config .noApplication)
  | some application =>
    if application.requestType.isEmpty then throw (.config .noRequestType)
    else return ⟨application, f.services, f.environment, f.generalCases, f.cases, baseDir⟩

end CaseSuite
