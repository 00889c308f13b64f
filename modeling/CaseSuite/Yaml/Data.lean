import CaseSuite.Yaml.Fault
import CaseSuite.Value
import CaseSuite.Decimal.Read
/-!
Data of a YAML document: what its nodes stand for when nothing in particular is expected. A mapping
keeps its entries in order and has no key twice; its keys can be any data. As a value, data lose
their tags, and keys become text.
-/
set_option autoImplicit false

namespace CaseSuite.Yaml

inductive Data where
  | null
  | bool (b : Bool)
  | int (n : Int)
  | float (x : Float)
  | text (s : String)
  | list (items : List Data)
  | map (entries : List (Data × Data))
  | tagged (tag : String) (content : Data)

namespace Data

/-- Floats are the same key when they compare as equal or are both no number. -/
def sameFloat (x y : Float) : Bool := (x.isNaN && y.isNaN) || x == y

mutual

/-- Equality of keys; the order of a mapping's entries does not count. -/
def same : Data → Data → Bool
  | .null, .null => true
  | .bool a, .bool b => a == b
  | .int m, .int n => m == n
  | .float x, .float y => sameFloat x y
  | .text s, .text t => s == t
  | .list items, .list others => sameItems items others
  | .map entries, .map others => entries.length == others.length && areIn others entries
  | .tagged tag content, .tagged tag' content' => tag == tag' && same content content'
  | _, _ => false

def sameItems : List Data → List Data → Bool
  | [], [] => true
  | item :: items, other :: others => same item other && sameItems items others
  | _, _ => false

/-- Whether every entry of the second list is in the first. -/
def areIn (others : List (Data × Data)) : List (Data × Data) → Bool
  | [] => true
  | (key, value) :: entries =>
    (others.any fun other => same key other.1 && same value other.2) && areIn others entries

end

def findKey? (key : Data) (entries : List (Data × Data)) : Option (Data × Data) :=
  entries.find? fun entry => same entry.1 key

def asRepeatedKey : Data → RepeatedKey
  | .null => .null
  | .bool b => .bool b
  | .int n => .int n
  | .float x => .float x
  | .text s => .text s
  | _ => .other

mutual

/-- Refuses a key that a mapping has twice, in the order in which the document is read. -/
def checkKeys : Data → Except Fault Unit
  | .list items => checkItems items
  | .map entries => checkEntries [] entries
  | .tagged _ content => checkKeys content
  | _ => .ok ()

def checkItems : List Data → Except Fault Unit
  | [] => .ok ()
  | item :: items => do
    checkKeys item
    checkItems items

def checkEntries (known : List (Data × Data)) : List (Data × Data) → Except Fault Unit
  | [] => .ok ()
  | (key, value) :: entries => do
    checkKeys key
    match findKey? key known with
    | some (first, _) => throw (.repeatedKey first.asRepeatedKey)
    | none =>
      checkKeys value
      checkEntries (known ++ [(key, value)]) entries

end

end Data

/-- A whole number as a value; one past the machine integers is a float. -/
def intValue (n : Int) : Value :=
  match Number.int64? n with
  | some i => .int i
  | none => .float (UInt64.ofNat n.toNat).toFloat

mutual

def Data.toValue : Data → Value
  | .null => .null
  | .bool b => .bool b
  | .int n => intValue n
  | .float x => .float x
  | .text s => .str s
  | .list items => .list (Data.toValues items)
  | .map entries => .object (Entries.ofList (Data.toEntries entries))
  | .tagged _ content => content.toValue

def Data.toValues : List Data → List Value
  | [] => []
  | item :: items => item.toValue :: Data.toValues items

/-- The entries of a mapping under the texts of their keys. -/
def Data.toEntries : List (Data × Data) → List (String × Value)
  | [] => []
  | (key, value) :: entries => (key.keyText, value.toValue) :: Data.toEntries entries

/-- The text of a key; a collection or a tagged key takes the text of its value. -/
def Data.keyText : Data → String
  | .null => "null"
  | .bool b => toString b
  | .int n => toString n
  | .float x => floatText x
  | .text s => s
  | .list items => (Value.list (Data.toValues items)).text
  | .map entries => (Value.object (Entries.ofList (Data.toEntries entries))).text
  | .tagged _ content => content.toValue.text

end

end CaseSuite.Yaml
