import CaseSuite.Disk.Path
import CaseSuite.Entries
/-!
The contents of a disk: what is at which location. The root is always a directory. Relative paths
start at the disk's home directory.
-/
set_option autoImplicit false

namespace CaseSuite

/-- The names that lead from the root to a location. -/
abbrev Location := List String

/-- Where steps lead if there are no links on the way. -/
def locationOf (here : Location) (steps : List String) : Location :=
  steps.foldl (fun loc name =>
    if name == "." then loc else if name == ".." then loc.dropLast else loc ++ [name]) here

inductive Disk.Item where
  | dir
  | file (bytes : ByteArray)
  | link (target : String)

/-- What an item is, apart from what it holds. -/
inductive Disk.Kind where
  | dir
  | file
  | link
  deriving DecidableEq

def Disk.Item.kind : Item → Kind
  | .dir => .dir
  | .file _ => .file
  | .link _ => .link

structure Disk where
  items : List (Location × Disk.Item)
  home : Location

namespace Location

def text (loc : Location) : String := "/" ++ "/".intercalate loc

/-- The way from a location to one below it. -/
def below? : (root : Location) → (loc : Location) → Option Location
  | [], [] => none
  | [], loc => some loc
  | name :: root, other :: loc => if name == other then below? root loc else none
  | _ :: _, [] => none

def isBelow (root loc : Location) : Bool := (below? root loc).isSome

end Location

namespace Disk

/-- A disk with nothing on it but the way to its home directory. -/
def empty (home : Location) : Disk :=
  ⟨(List.range home.length).map fun i => (home.take (i + 1), .dir), home⟩

def lookup (loc : Location) : List (Location × Item) → Option Item
  | [] => none
  | (other, item) :: items => if other == loc then some item else lookup loc items

def get? (d : Disk) (loc : Location) : Option Item :=
  if loc.isEmpty then some .dir else lookup loc d.items

/-- Puts an item at a location, in place of what was there. -/
def put (d : Disk) (loc : Location) (item : Item) : Disk :=
  { d with items := (loc, item) :: d.items.filter (·.1 != loc) }

/-- Removes the item at a location with everything in it. -/
def erase (d : Disk) (loc : Location) : Disk :=
  { d with items := d.items.filter fun e => !loc.isPrefixOf e.1 }

/-- The names in a directory, each once, in rising order. -/
def namesIn (d : Disk) (here : Location) : List String :=
  let names := (d.items.filter (·.1.dropLast == here)).filterMap (·.1.getLast?)
  (Entries.sort (names.map fun name => (name, ()))).names

/-- What is in a directory, by name; a link is only a link there. -/
def entriesIn (d : Disk) (here : Location) : List (String × Kind) :=
  (d.namesIn here).filterMap fun name => (d.get? (here ++ [name])).map fun item => (name, item.kind)

/-- The item that has a name in a directory, and what is in it; `inside` goes through a
directory. -/
def visit (d : Disk) (inside : Location → List (Location × Item)) (here : Location)
    (name : String) : List (Location × Item) :=
  match d.get? (here ++ [name]) with
  | none => []
  | some .dir => ([name], .dir) :: (inside (here ++ [name])).map fun e => (name :: e.1, e.2)
  | some item => [([name], item)]

/-- Goes through a directory in the order of names, down to so many levels, and enters each
directory where it comes to its name. A name that is not kept is left out, and not entered. Links
are not followed. Items come with the way that leads to them. -/
def tourOf (d : Disk) (keep : String → Bool) : (levels : Nat) → (here : Location) →
    List (Location × Item)
  | 0, _ => []
  | levels + 1, here =>
    ((d.namesIn here).filter keep).flatMap (d.visit (d.tourOf keep levels) here)

def height (d : Disk) : Nat := d.items.foldl (fun n e => max n e.1.length) 0

/-- Goes through a directory and all directories in it whose names are kept. -/
def tour (d : Disk) (keep : String → Bool) (here : Location) : List (Location × Item) :=
  d.tourOf keep d.height here

/-- Everything below a location, by the way that leads there from it, in rising order: a directory
comes right before what is in it. -/
def below (d : Disk) (root : Location) : List (Location × Item) := d.tour (fun _ => true) root

end Disk

end CaseSuite
