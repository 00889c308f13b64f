import CaseSuite.Error
import CaseSuite.Value
import CaseSuite.Decimal.Read
import CaseSuite.Text.Split
/-!
The variables of one test: values under names, and paths that lead into them. A path names a
variable first; after each dot follows a key of an object or an index of a list.
-/
set_option autoImplicit false

namespace CaseSuite

structure VariableStore where
  values : Entries Value

/-- An index: digits after at most one plus sign. -/
def readIndex (cs : List Char) : Option Nat :=
  let digits := match cs with
    | '+' :: cs => cs
    | _ => cs
  (Number.readNat 10 digits).filter (· < UInt64.size)

namespace VariableStore

def empty : VariableStore := ⟨[]⟩

/-- Saves a value, in the place of an earlier one under the same name. -/
def save (s : VariableStore) (name : String) (v : Value) : VariableStore :=
  ⟨s.values.insert name v⟩

def get? (s : VariableStore) (name : String) : Option Value := s.values.find? name

/-- One step of a path into a value; `walked` is the text of the steps before. -/
def stepInto (walked : String) (v : Value) (part : List Char) : Except VariableProblem Value :=
  let segment := String.ofList part
  match v with
  | .object es =>
    match Entries.find? segment es with
    | some v => .ok v
    | none => .error (.noKey segment walked)
  | .list items =>
    match readIndex part with
    | none => .error (.notIndex walked segment)
    | some i =>
      match items[i]? with
      | some v => .ok v
      | none => .error (.outOfRange i walked items.length)
  | v => .error (.noParts segment v.kind walked)

def walk (walked : String) (v : Value) : List (List Char) → Except VariableProblem Value
  | [] => .ok v
  | part :: parts =>
    match stepInto walked v part with
    | .ok v => walk s!"{walked}.{String.ofList part}" v parts
    | .error problem => .error problem

def find (s : VariableStore) (path : String) : Except VariableProblem Value :=
  let parts := Text.split '.' path.toList
  let root := String.ofList (parts.head?.getD [])
  match s.get? root with
  | none => .error (.undefined root)
  | some v => walk root v (parts.drop 1)

/-- The value at a path; an error tells the whole path. -/
def lookup (s : VariableStore) (path : String) : Except Error Value :=
  (s.find path).mapError (.interpolation path)

end VariableStore

end CaseSuite
