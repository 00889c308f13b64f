import CaseSuite.Disk.Walk
import CaseSuite.Text.Utf8
/-!
What programs ask of a disk, by path. An operation that fails may have done part of its work.
-/
set_option autoImplicit false

namespace CaseSuite

/-- A disk that can be worked on by path. -/
class Storage (m : Type → Type) where
  /-- What is in a directory, by name; a link is only a link there. -/
  entries : String → m (Except Disk.Fault (List (String × Disk.Kind)))
  /-- Removes a directory with everything in it. -/
  removeTree : String → m (Except Disk.Fault Unit)
  /-- Removes what is not a directory. -/
  removeFile : String → m (Except Disk.Fault Unit)
  /-- Makes a directory and those above it, unless they are there. -/
  makeDirs : String → m (Except Disk.Fault Unit)
  /-- Writes a file, in place of one that is there. -/
  write : String → ByteArray → m (Except Disk.Fault Unit)
  isThere : String → m (Except Disk.Fault Bool)
  read : String → m (Except Disk.Fault ByteArray)

namespace Disk

abbrev Op (α : Type) := ExceptT Fault (StateM Disk) α

variable (d : Disk)

def item (path : String) : Except Fault Item :=
  match d.resolve true path with
  | .ok (.taken _ item) => .ok item
  | .ok (.free _) => .error .notFound
  | .error fault => .error fault

def isFile (path : String) : Bool :=
  match d.item path with
  | .ok (.file _) => true
  | _ => false

def isDir (path : String) : Bool :=
  match d.item path with
  | .ok .dir => true
  | _ => false

/-- Whether a path leads to anything; a missing item is no fault. -/
def isThere (path : String) : Except Fault Bool :=
  match d.item path with
  | .ok _ => .ok true
  | .error .notFound => .ok false
  | .error fault => .error fault

def read (path : String) : Except Fault ByteArray :=
  match d.item path with
  | .ok (.file bytes) => .ok bytes
  | .ok _ => .error .isDirectory
  | .error fault => .error fault

def directory (path : String) : Except Fault Location :=
  match d.resolve true path with
  | .ok (.taken loc .dir) => .ok loc
  | .ok (.taken _ _) => .error .notDirectory
  | .ok (.free _) => .error .notFound
  | .error fault => .error fault

def entries (path : String) : Except Fault (List (String × Kind)) := do
  return d.entriesIn (← d.directory path)

/-- The item at a path itself, which may be a link. -/
def itemItself (path : String) : Except Fault (Location × Item) :=
  match d.resolve false path with
  | .ok (.taken loc item) => .ok (loc, item)
  | .ok (.free _) => .error .notFound
  | .error fault => .error fault

/-- The location of a directory that can be removed, or of a link, which is then removed itself. -/
def removableTree (path : String) : Except Fault Location := do
  match ← d.itemItself path with
  | (_, .file _) => throw .notDirectory
  | (loc, _) => return loc

def removableFile (path : String) : Except Fault Location := do
  match ← d.itemItself path with
  | (_, .dir) => throw .isDirectory
  | (loc, _) => return loc

/-- Where a file of this path is written; links lead to where they point. -/
def writable (path : String) : Except Fault Location := do
  if Path.endsWithSlash path then
    let _ ← d.directory ((Path.parent? path).getD ".")
    throw .isDirectory
  else
    match ← d.resolve true path with
    | .taken _ .dir => throw .isDirectory
    | .taken loc _ | .free loc => return loc

/-- The empty place that a directory of this path would take. -/
def vacant (path : String) : Except Fault Location := do
  match ← d.resolve false path with
  | .taken _ _ => throw .exists
  | .free loc => return loc

end Disk

namespace Disk.Op

def write (path : String) (bytes : ByteArray) : Op Unit := do
  let loc ← (← get).writable path
  modify fun d => d.put loc (.file bytes)

def makeDir (path : String) : Op Unit := do
  let loc ← (← get).vacant path
  modify fun d => d.put loc .dir

/-- Makes a directory; it is no fault that there is one. -/
def ensureDir (path : String) : Op Unit :=
  tryCatch (makeDir path) fun fault => do
    if (← get).isDir path then return () else throw fault

/-- Makes the first of these directories, and those after it as far as it needs them. -/
def makeDirsOf : List String → Op Unit
  | [] => throw .notFound
  | path :: above =>
    if path.isEmpty then return ()
    else tryCatch (ensureDir path) fun fault => do
      if fault == .notFound then
        makeDirsOf above
        ensureDir path
      else throw fault

def makeDirs (path : String) : Op Unit := makeDirsOf (Path.selfAndAbove path)

/-- Removes the item that a path leads to, as `find` allows it. -/
def remove (find : Disk → String → Except Fault Location) (path : String) : Op Unit := do
  let loc ← find (← get) path
  modify fun d => d.erase loc

def removeTree : String → Op Unit := remove Disk.removableTree

def removeFile : String → Op Unit := remove Disk.removableFile

end Disk.Op

/-- A disk that is part of a state. -/
instance {m : Type → Type} [Monad m] [MonadStateOf Disk m] : Storage m where
  entries path := do return (← getThe Disk).entries path
  removeTree path := modifyGet (Disk.Op.removeTree path).run
  removeFile path := modifyGet (Disk.Op.removeFile path).run
  makeDirs path := modifyGet (Disk.Op.makeDirs path).run
  write path bytes := modifyGet (Disk.Op.write path bytes).run
  isThere path := do return (← getThe Disk).isThere path
  read path := do return (← getThe Disk).read path

end CaseSuite
