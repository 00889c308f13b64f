import CaseSuite.Json.Print
import CaseSuite.Json.Read
import CaseSuite.Time.Instant
import CaseSuite.Text.Utf8
/-!
Values: what a suite is written in and what collaborators answer. Bytes and instants only come from
collaborators; everything else can be written in a suite. An object keeps its entries in order.
-/
set_option autoImplicit false

namespace CaseSuite

inductive Value where
  | null
  | bool (b : Bool)
  | int (n : Int64)
  | float (x : Float)
  | str (s : String)
  | bytes (b : ByteArray)
  | time (t : Instant)
  | list (items : List Value)
  | object (entries : List (String × Value))

namespace Value

/-- The name of the value's shape in messages. -/
def kind : Value → String
  | .null => "null"
  | .bool _ => "bool"
  | .int _ => "integer"
  | .float _ => "float"
  | .str _ => "string"
  | .bytes _ => "bytes"
  | .time _ => "timestamp"
  | .list _ => "list"
  | .object _ => "object"

def isNull : Value → Bool
  | .null => true
  | _ => false

def asStr? : Value → Option String
  | .str s => some s
  | _ => none

def asBool? : Value → Option Bool
  | .bool b => some b
  | _ => none

/-- The number as a float; an integer is rounded to the nearest one. -/
def asFloat? : Value → Option Float
  | .int n => some (.ofModel (.ofInt64 n))
  | .float x => some x
  | _ => none

def asObject? : Value → Option (Entries Value)
  | .object es => some es
  | _ => none

def asList? : Value → Option (List Value)
  | .list items => some items
  | _ => none

def get? (v : Value) (key : String) : Option Value := v.asObject?.bind (Entries.find? key)

mutual

/-- Equality of values of one kind. The order of entries does not matter, and a float that is no
number is not equal to itself. -/
def same : Value → Value → Bool
  | .null, .null => true
  | .bool a, .bool b => a == b
  | .int m, .int n => m == n
  | .float x, .float y => x == y
  | .str s, .str t => s == t
  | .bytes a, .bytes b => a == b
  | .time t, .time u => t == u
  | .list vs, .list ws => sameItems vs ws
  | .object es, .object fs => es.length == fs.length && sameEntries es fs
  | _, _ => false

def sameItems : List Value → List Value → Bool
  | [], [] => true
  | v :: vs, w :: ws => v.same w && sameItems vs ws
  | _, _ => false

/-- Whether the other entries hold the same under every key of the first ones. -/
def sameEntries : List (String × Value) → Entries Value → Bool
  | [], _ => true
  | (key, v) :: es, fs =>
    match fs.find? key with
    | some w => v.same w && sameEntries es fs
    | none => false

end

mutual

/-- The JSON form: bytes and instants as their text, a float that is not finite as null, and the
entries of objects in rising order of their keys. -/
def toJson : Value → Json
  | .null => .null
  | .bool b => .bool b
  | .int n => .int n
  | .float x => if x.isFinite then .float x else .null
  | .str s => .str s
  | .bytes b => .str (Utf8.text b)
  | .time t => .str t.text
  | .list items => .list (toJsonItems items)
  | .object es => .object (Entries.sort (toJsonEntries es))

def toJsonItems : List Value → List Json
  | [] => []
  | item :: items => item.toJson :: toJsonItems items

def toJsonEntries : List (String × Value) → List (String × Json)
  | [] => []
  | (key, v) :: es => (key, v.toJson) :: toJsonEntries es

end

mutual

def ofJson : Json → Value
  | .null => .null
  | .bool b => .bool b
  | .int n => .int n
  | .float x => .float x
  | .str s => .str s
  | .list items => .list (ofJsonItems items)
  | .object members => .object (ofJsonMembers members)

def ofJsonItems : List Json → List Value
  | [] => []
  | item :: items => ofJson item :: ofJsonItems items

def ofJsonMembers : List (String × Json) → List (String × Value)
  | [] => []
  | (key, j) :: members => (key, ofJson j) :: ofJsonMembers members

end

def readJson (bytes : ByteArray) : Except Json.Error Value := (Json.read bytes).map ofJson

/-- Plain text: strings, bytes and instants as they are, everything else in its JSON form. -/
def text : Value → String
  | .str s => s
  | .bytes b => Utf8.text b
  | .time t => t.text
  | v => v.toJson.print

/-- The text of the value with its kind, for messages. -/
def display : Value → String
  | .bytes b => s!"b{Text.quoted (Utf8.text b)} (bytes)"
  | .time t => s!"{t.text} (timestamp)"
  | v => s!"{v.toJson.print} ({v.kind})"

end Value

end CaseSuite
