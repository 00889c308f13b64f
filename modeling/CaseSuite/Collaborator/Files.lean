import CaseSuite.Collaborator.Basic
import CaseSuite.Disk.Storage
import CaseSuite.Interpolation
import CaseSuite.Pattern.Match
/-!
The service for files below a directory. It is prepared by removing and writing files, and checked
by looking for them and holding their contents against patterns.
-/
set_option autoImplicit false

namespace CaseSuite

inductive FilePreparation where
  /-- Removes everything below the root. -/
  | clear
  | write (name content : String)

/-- One step of checking files. Markers in names are replaced when the check runs. -/
inductive FileCheck where
  | presence (name : String) (expected : Bool)
  | content (name : String) (expected : Option Value) (saveTo : Option String)

structure FileService where
  name : String
  root : String

namespace FileService

/-- The service that parameters describe; a relative root starts at the base directory. -/
def read (context : ServiceContext) (params : Value) : Except Error FileService :=
  match (params.get? "root").bind Value.asStr? with
  | some root => .ok ⟨context.name, Path.join context.baseDir root⟩
  | none => .error (.service context.name .noRoot)

variable (s : FileService)

def failed (problem : ServiceProblem) : Error := .service s.name problem

def fileName (step : String) (params : Value) : Except Error String :=
  match (params.get? "name").bind Value.asStr? with
  | some name => .ok name
  | none => .error (s.failed (.fieldNotText s!"{step}.name"))

def preparation : String × Value → Except Error FilePreparation
  | ("clear", _) => .ok .clear
  | ("file", params) => do
    let name ← s.fileName "file" params
    return .write name (((params.get? "content").map Value.text).getD "")
  | (other, _) => .error (s.failed (.unknownPreparer other))

def itemPreparations : Value → Except Error (List FilePreparation)
  | .str "clear" => .ok [.clear]
  | .object entries => entries.mapM s.preparation
  | other => .error (s.failed (.preparerShape other.display))

def preparations (params : Value) : Except Error (List FilePreparation) :=
  List.flatten <$> (paramItems params).mapM s.itemPreparations

def fileCheck : String × Value → Except Error FileCheck
  | ("exists", params) => do
    let name ← s.fileName "exists" params
    return .presence name (((params.get? "exists").bind Value.asBool?).getD true)
  | ("content", params) => do
    let name ← s.fileName "content" params
    return .content name (params.get? "expected")
      ((params.get? "save_result_to").bind Value.asStr?)
  | (other, _) => .error (s.failed (.unknownChecker other))

def itemChecks : Value → Except Error (List FileCheck)
  | .object entries => entries.mapM s.fileCheck
  | other => .error (s.failed (.checkerShape other.display))

def checks (params : Value) : Except Error (List FileCheck) :=
  List.flatten <$> (paramItems params).mapM s.itemChecks

/-- The path of a file once markers in its name are replaced. -/
def path (vars : VariableStore) (name : String) : Except Error String := do
  return Path.join s.root (← interpolate (.str name) vars).text

variable {m : Type → Type} [Monad m] [Storage m]

/-- An operation of the disk whose faults are errors. -/
def attempt {n : Type → Type} [Monad n] {α : Type} (op : n (Except Disk.Fault α))
    (error : Disk.Fault → Error) : ExceptT Error n α :=
  ExceptT.mk do return (← op).mapError error

/-- Removes an entry of a directory: a directory with everything in it, and anything else, a link
included, by itself. -/
def removeEntry (path : String) (entry : String × Disk.Kind) : ExceptT Disk.Fault m Unit :=
  ExceptT.mk <| match entry.2 with
    | .dir => Storage.removeTree (Path.join path entry.1)
    | _ => Storage.removeFile (Path.join path entry.1)

/-- Removes every entry of a directory; a missing directory counts as clear. -/
def clearDir (path : String) : ExceptT Disk.Fault m Unit := ExceptT.mk do
  match ← Storage.entries path with
  | .ok entries => (entries.forM (removeEntry path)).run
  | .error .notFound => return .ok ()
  | .error fault => return .error fault

def prepare : FilePreparation → Action m Unit
  | .clear => attempt (clearDir s.root).run fun fault => s.failed (.notCleared s.root fault)
  | .write name content => do
    let path := Path.join s.root name
    if let some above := Path.parent? path then
      attempt (Storage.makeDirs above) .disk
    attempt (Storage.write path content.toUTF8) fun fault => s.failed (.notWritten path fault)

def check : FileCheck → Check m
  | .presence name expected => do
    let path ← liftExcept (s.path (← get) name)
    let actual ← attempt (StateT.lift (Storage.isThere path)) .disk
    if actual != expected then
      throw (s.failed (if actual then .present path else .missing path))
  | .content name expected saveTo => do
    let path ← liftExcept (s.path (← get) name)
    let content ← attempt (StateT.lift (Storage.read path))
      fun fault => s.failed (.notRead path fault)
    if let some expected := expected then
      let expected ← liftExcept (interpolate expected (← get))
      liftExcept (checkEqual (.bytes content) expected)
    if let some key := saveTo then
      modify fun vars => vars.save key (.str (Utf8.text content))

def service : Service m where
  preparer params := do return (← s.preparations params).forM s.prepare
  checker params := do return (← s.checks params).forM s.check

end FileService

end CaseSuite
