import CaseSuite.Disk.Basic
import CaseSuite.Disk.Fault
/-!
Following paths on a disk. Every step but the last must lead to a directory; a link is replaced by
the path that it holds, as often as a limit allows.
-/
set_option autoImplicit false

namespace CaseSuite.Disk

inductive Spot where
  /-- To an item. -/
  | taken (loc : Location) (item : Item)
  /-- Into a directory, where nothing has that name. -/
  | free (loc : Location)

def nameLimit : Nat := 255

/-- How many bytes a path may not reach. -/
def pathLimit : Nat := 4096

def linkLimit : Nat := 40

variable (d : Disk)

/-- Where relative and absolute paths start from a directory. -/
def start (here : Location) (path : String) : Location := if Path.isAbsolute path then [] else here

/-- Goes on from a directory; `again` goes on where a link was. A link in the last place is left
alone unless `links` is set. -/
def stepsWith (again : Location → List String → Except Fault Spot) (links : Bool)
    (here : Location) : List String → Except Fault Spot
  | [] => .ok (.taken here .dir)
  | name :: rest =>
    if name == "." then stepsWith again links here rest
    else if name == ".." then stepsWith again links here.dropLast rest
    else if nameLimit < name.utf8ByteSize then .error .nameTooLong
    else
      let loc := here ++ [name]
      match d.get? loc with
      | none => if rest.isEmpty then .ok (.free loc) else .error .notFound
      | some .dir => stepsWith again links loc rest
      | some (.file bytes) =>
        if rest.isEmpty then .ok (.taken loc (.file bytes)) else .error .notDirectory
      | some (.link target) =>
        if rest.isEmpty && !links then .ok (.taken loc (.link target))
        else again (start here target) (Path.steps target ++ rest)

/-- Follows steps from a directory, through at most `limit` links. -/
def follow (links : Bool) : (limit : Nat) → Location → List String → Except Fault Spot
  | 0 => d.stepsWith (fun _ _ => .error .tooManyLinks) links
  | limit + 1 => d.stepsWith (follow links limit) links

def resolve (links : Bool) (path : String) : Except Fault Spot :=
  if path.toList.contains (Char.ofNat 0) then .error .nulByte
  else if path.isEmpty then .error .notFound
  else if pathLimit ≤ path.utf8ByteSize then .error .nameTooLong
  else d.follow links linkLimit (start d.home path) (Path.steps path)

end CaseSuite.Disk
