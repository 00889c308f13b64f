import CaseSuite.Regex.Read
import CaseSuite.Error
import CaseSuite.Value
/-!
Patterns that values are held against. A pattern is written as a value; an object with a marker key
stands for a condition instead of an object.
-/
set_option autoImplicit false

namespace CaseSuite

inductive Pattern where
  /-- A scalar, compared with the leniency of `Pattern.literalHolds`. -/
  | literal (v : Value)
  /-- A list of the same length whose items match one by one. -/
  | list (items : List Pattern)
  /-- An object that has these fields, or its JSON text. -/
  | object (fields : List (String × Pattern))
  /-- Anything but null, or nothing but null. -/
  | present (expected : Bool)
  /-- JSON text, or an object, that matches another pattern. -/
  | json (inner : Pattern)
  /-- Text with a match of an expression. -/
  | regexp (source : String) (r : Regex)

namespace Pattern

def text : Pattern → String
  | .literal v => v.display
  | .list items => s!"list of {items.length} items"
  | .object fields => "object with keys [" ++ ", ".intercalate (fields.map Prod.fst) ++ "]"
  | .present true => "any non-null value"
  | .present false => "null or missing"
  | .json inner => s!"JSON encoded {inner.text}"
  | .regexp source _ => s!"match of /{source}/"

/-- Whether the key that holds the pattern may be missing. -/
def allowsMissing : Pattern → Bool
  | .present expected => !expected
  | _ => false

end Pattern

/-- What a key that marks a condition asks for. -/
def markerName? (key : String) : Option String :=
  match key.toList with
  | '$' :: '$' :: '_' :: name =>
    if !name.isEmpty && name.all fun c => Text.isWord c || c == '.' then some (String.ofList name)
    else none
  | _ => none

def isMarkerKey (key : String) : Bool := (markerName? key).isSome

end CaseSuite
