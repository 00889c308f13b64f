import CaseSuite.Pattern.Match
import CaseSuite.Interpolation
import CaseSuite.Suite.Basic
/-!
Running one test. It goes through its stages in order, and the first thing that fails ends it. What
a test saves is seen by its own checks only.
-/
set_option autoImplicit false

namespace CaseSuite

inductive Stage where
  | environment
  | preparation
  | request
  | response
  | check
  deriving DecidableEq, Repr

def Stage.message : Stage → String
  | .environment => "unable to initialize environment"
  | .preparation => "unable to prepare service"
  | .request => "unable to make request"
  | .response => "invalid response"
  | .check => "unable to check service"

structure Failure where
  stage : Stage
  error : Error

def Failure.message (f : Failure) : String := s!"{f.stage.message}: {f.error.message}"

def responseName : String := "response"

/-- The value of a body; an empty one stands for null. -/
def Response.value (r : Response) : Except Error Value :=
  if r.body.isEmpty then .ok .null
  else (Value.readJson r.body).mapError fun e => .assertion (.bodyNotJson (Utf8.text r.body) e)

/-- Holds a response, whose body has this value, against what is expected of it; markers in a
pattern stand for these variables. -/
def ExpectedResponse.check (expected : ExpectedResponse) (vars : VariableStore) (r : Response)
    (actual : Value) : Except Error Unit :=
  match expected with
  | .absent => .ok ()
  | .empty =>
    if r.body.isEmpty then .ok () else .error (.assertion (.bodyNotEmpty (Utf8.text r.body)))
  | .pattern p => do checkEqual actual (← interpolate p vars)

def checkCode (expected : Option Nat) (actual : Nat) : Except Error Unit :=
  match expected with
  | none => .ok ()
  | some code => if actual == code then .ok () else .error (.assertion (.code code actual))

namespace Test

variable {m : Type → Type} {ρ : Type} (t : Test m ρ)

/-- The variables after a response with this value. -/
def saved (vars : VariableStore) (actual : Value) : VariableStore :=
  let vars := match t.saveResponseTo with
    | none => vars
    | some name => vars.save name actual
  vars.save responseName actual

/-- Holds a response against what the test expects, and saves it. -/
def assess (vars : VariableStore) (r : Response) : Except Error VariableStore := do
  -- a body that cannot be decoded fails the test whatever is expected of it
  let actual ← r.value
  t.expectedResponse.check vars r actual
  checkCode t.expectedCode r.status
  return t.saved vars actual

variable [Monad m]

/-- Does something at a stage, to which its error belongs. -/
def atStage {α : Type} (stage : Stage) (action : ExceptT Error m α) : ExceptT Failure m α :=
  action.adapt fun error => ⟨stage, error⟩

/-- Runs all checks, each on the variables that those before it left. -/
def runChecks (vars : VariableStore) : ExceptT Failure m VariableStore := ExceptT.mk do
  let (outcome, vars) ← (t.checkers.forM id).run.run vars
  match outcome with
  | .ok () => return .ok vars
  | .error error => return .error ⟨.check, error⟩

/-- Runs the test in an environment, on variables of its own; the result is what it saved. -/
def run [Requester m ρ] (environment : List (Action m Unit)) :
    ExceptT Failure m VariableStore := do
  environment.forM (atStage .environment)
  t.preparers.forM (atStage .preparation)
  let response ← atStage .request (Requester.send t.request)
  let vars ← atStage .response (liftExcept (t.assess .empty response))
  t.runChecks vars

end Test

end CaseSuite
