import CaseSuite.Command.Basic
/-!
The program: reads its arguments, looks at the disk, carries out the command and prints what it
says. It has no connection to a network, so no request reaches an application.
-/
set_option autoImplicit false

namespace CaseSuite.Program

def faultOf : IO.Error → Disk.Fault
  | .alreadyExists _ number text | .otherError number text | .resourceBusy number text
  | .resourceVanished number text | .unsupportedOperation number text
  | .hardwareFault number text | .unsatisfiedConstraints number text
  | .illegalOperation number text | .protocolError number text | .timeExpired number text
  | .interrupted _ number text | .noFileOrDirectory _ number text
  | .invalidArgument _ number text | .permissionDenied _ number text
  | .resourceExhausted _ number text | .inappropriateType _ number text
  | .noSuchThing _ number text => .ofNumber number.toNat text
  | .unexpectedEof => .other 0 "end of file"
  | .userError text => .other 0 text

/-- An operation whose errors are faults of the disk. -/
def attempt {α : Type} (op : IO α) : IO (Except Disk.Fault α) :=
  try return .ok (← op)
  catch e => return .error (faultOf e)

def kindOf : IO.FS.FileType → Disk.Kind
  | .dir => .dir
  | .symlink => .link
  | _ => .file

def entries (path : String) : IO (List (String × Disk.Kind)) := do
  let found ← ((← IO.currentDir) / path).readDir
  found.toList.mapM fun entry => do
    return (entry.fileName, kindOf (← entry.path.symlinkMetadata).type)

instance : Storage IO where
  entries path := if path.isEmpty then return .error .notFound else attempt (entries path)
  removeTree path := attempt (IO.FS.removeDirAll path)
  removeFile path := attempt (IO.FS.removeFile path)
  makeDirs path := attempt (IO.FS.createDirAll path)
  write path bytes := attempt (IO.FS.writeBinFile path bytes)
  isThere path := do
    match ← attempt ((← IO.currentDir) / path).metadata with
    | .ok _ => return .ok true
    | .error .notFound => return .ok false
    | .error fault => return .error fault
  read path := attempt (IO.FS.readBinFile path)

instance : Http.Transport IO where
  send request := return .error (.unreachable request.url.text)

/-- Looks at what is below a directory: directories, and files that may belong to a suite. -/
partial def scan (d : Disk) (loc : Location) (path : String) : IO Disk := do
  let mut d := d.put loc .dir
  for entry in ← ((← IO.currentDir) / path).readDir do
    let name := entry.fileName
    match (← entry.path.symlinkMetadata).type with
    | .dir => d ← scan d (loc ++ [name]) (Path.join path name)
    | .file =>
      if isConfigName name then
        d := d.put (loc ++ [name]) (.file (← IO.FS.readBinFile entry.path))
    | _ => pure ()
  return d

/-- Looks at what is at a path of a suite. -/
def look (d : Disk) (path : String) : IO Disk := do
  let steps := Path.steps (d.absolute path)
  let file := (← IO.currentDir) / path
  let way := (List.range steps.length).map fun n => locationOf [] (steps.take n)
  let d := way.foldl (fun d loc => d.put loc .dir) d
  match (← file.metadata).type with
  | .dir => scan d (locationOf [] steps) path
  | _ => return d.put (locationOf [] steps) (.file (← IO.FS.readBinFile file))

/-- The disk as far as a command needs it. -/
def diskFor (command : Command) : IO Disk := do
  let home := (← IO.currentDir).toString
  let d := Disk.empty (Path.steps home)
  match command with
  | .run path _ | .list path =>
    try look d path
    catch _ => return d
  | .plugins => return d

def usage : String :=
  "Config-driven integration test runner\n\nCommands:\n" ++
  "  run <config> [-v|--verbose]   Run a test suite\n" ++
  "  list <config>                 List the tests of a suite without running them\n" ++
  "  plugins                       Show services, requesters and environment initializers\n"

def complain (fault : UsageFault) : IO Unit := do
  match fault with
  | .help => IO.print usage
  | .version => IO.println "0.1.0"
  | _ => IO.eprint usage

def carryOut (command : Command) : IO Outcome := do
  match ← Command.execute false (← diskFor command) command with
  | .ok outcome => return outcome
  | .error e => return Outcome.ofError e

def answer (args : List String) : IO Nat := do
  match Command.read args with
  | .error fault =>
    complain fault
    return fault.exitCode
  | .ok command =>
    let outcome ← carryOut command
    IO.print outcome.output
    IO.eprint outcome.complaint
    return outcome.exitCode

end CaseSuite.Program

def main (args : List String) : IO UInt32 := do
  return (← CaseSuite.Program.answer args).toUInt32
