import CaseSuite.Config.Join
import CaseSuite.Config.Read
import CaseSuite.Disk.Storage
/-!
The files of a suite. A suite is one file or a directory of them; below the directory, files and
directories are left out if their names start with an underscore.
-/
set_option autoImplicit false

namespace CaseSuite

/-- Names that keep files and directories out of a suite. -/
def isDraftName (name : String) : Bool := name.toList.head? == some '_'

def isConfigName (name : String) : Bool :=
  Path.extension? name == some "yml" || Path.extension? name == some "yaml"

/-- Whether an item with this way to it is a file of a suite, by the last name on the way. -/
def isConfigFile (way : Location) : Disk.Item → Bool
  | .file _ => isConfigName (way.getLastD "")
  | _ => false

namespace Disk

variable (d : Disk)

/-- The files that a path stands for, in the order in which they are joined. -/
def configFiles (path : String) : Except Error (List String) :=
  match d.resolve true path with
  | .ok (.taken _ (.file _)) => .ok [path]
  | .ok (.taken loc _) =>
    let found := d.tour (fun name => !isDraftName name) loc
    .ok ((found.filter fun e => isConfigFile e.1 e.2).map fun e => e.1.foldl Path.join path)
  | .ok (.free _) | .error _ => .error (.file path .missing)

def readText (path : String) : Except Error String :=
  match d.read path with
  | .error fault => .error (.file path (.refused fault))
  | .ok bytes =>
    match String.fromUTF8? bytes with
    | some text => .ok text
    | none => .error (.file path .notText)

def readFragment (path : String) : Except Error Fragment := do
  (Fragment.read (← d.readText path)).mapError (.notYaml path)

def absolute (path : String) : String := Path.join d.home.text path

/-- The directory that relative paths of a suite start at. -/
def baseDir (path : String) : String :=
  if d.isDir path then path else (Path.parent? path).getD ""

end Disk

def Config.load (d : Disk) (path : String) : Except Error Config := do
  let path := d.absolute path
  let files ← d.configFiles path
  if files.isEmpty then throw (.config (.noFiles path))
  Config.ofFragments (← files.mapM d.readFragment) (d.baseDir path)

end CaseSuite
