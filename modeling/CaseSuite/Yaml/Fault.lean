import CaseSuite.Decimal.Text
import CaseSuite.Text.Quoted
/-!
What can be wrong with a YAML document, as a reader that expects something of it reports it.
-/
set_option autoImplicit false

namespace CaseSuite.Yaml

/-- What is written where something else was expected. -/
inductive Found where
  | null
  | bool (b : Bool)
  | int (n : Int)
  | float (x : Float)
  | text (s : String)
  | list
  | map

inductive RepeatedKey where
  | null
  | bool (b : Bool)
  | int (n : Int)
  | float (x : Float)
  | text (s : String)
  | other

inductive Fault where
  /-- Not well-formed, nested too deeply, or with something that no reader takes. -/
  | malformed
  | unknownField (name : String) (known : List String)
  | missingField (name : String)
  | repeatedField (name : String)
  | repeatedKey (key : RepeatedKey)
  | wrongType (found : Found) (expected : String)
  | wrongValue (found : Found) (expected : String)

/-- Between backticks. -/
def ticked (s : String) : String := "\x60" ++ s ++ "\x60"

def Found.intText (n : Int) : String :=
  let digits := "integer " ++ ticked (toString n)
  if n < -0x8000_0000_0000_0000 then digits ++ " as i128"
  else if 0x1_0000_0000_0000_0000 ≤ n then digits ++ " as u128"
  else digits

def Found.describe : Found → String
  | .null => "unit value"
  | .bool b => "boolean " ++ ticked (toString b)
  | .int n => Found.intText n
  | .float x => "floating point " ++ ticked (FloatStyle.positional.named x "NaN" "inf")
  | .text s => "string " ++ Text.quoted s
  | .list => "sequence"
  | .map => "map"

/-- The text of a float as a key or a name. -/
def floatText (x : Float) : String := FloatStyle.yaml.named x ".nan" ".inf"

def RepeatedKey.describe : RepeatedKey → String
  | .null => "with null key"
  | .bool b => "with key " ++ ticked (toString b)
  | .int n => s!"with key {n}"
  | .float x => s!"with key {floatText x}"
  | .text s => "with key " ++ Text.quoted s
  | .other => "in YAML map"

/-- The names that a record may have, in words. -/
def knownText : List String → String
  | [] => "there are no fields"
  | [a] => "expected " ++ ticked a
  | [a, b] => "expected " ++ ticked a ++ " or " ++ ticked b
  | names => "expected one of " ++ ", ".intercalate (names.map ticked)

def Fault.reason : Fault → String
  | .malformed => "malformed document"
  | .unknownField name known => "unknown field " ++ ticked name ++ ", " ++ knownText known
  | .missingField name => "missing field " ++ ticked name
  | .repeatedField name => "duplicate field " ++ ticked name
  | .repeatedKey key => s!"duplicate entry {key.describe}"
  | .wrongType found expected => s!"invalid type: {found.describe}, expected {expected}"
  | .wrongValue found expected => s!"invalid value: {found.describe}, expected {expected}"

end CaseSuite.Yaml
