import CaseSuite.Yaml.Fault
import CaseSuite.Yaml.Node
/-!
What scalars stand for: null, truth values, whole numbers, floats and texts. A plain scalar is the
first of these that its text can be; a scalar in quotes or in a block is a text.
-/
set_option autoImplicit false

namespace CaseSuite.Yaml

inductive Scalar where
  | null
  | bool (b : Bool)
  | int (n : Int)
  | float (x : Float)
  | text (s : String)

namespace Scalar

def isNull (s : String) : Bool := ["null", "Null", "NULL", "~"].contains s

def readBool (s : String) : Option Bool :=
  if ["true", "True", "TRUE"].contains s then some true
  else if ["false", "False", "FALSE"].contains s then some false
  else none

/-- Digits that are no number because a zero comes first. -/
def isPadded : List Char → Bool
  | '0' :: c :: cs => (c :: cs).all Char.isDigit
  | _ => false

/-- A whole number without a minus sign: decimal, or in base 16, 8 or 2 after its mark. -/
def readUnsigned (cs : List Char) : Option Nat :=
  match cs with
  | '0' :: 'x' :: cs => Number.readNat 16 cs
  | '0' :: 'o' :: cs => Number.readNat 8 cs
  | '0' :: 'b' :: cs => Number.readNat 2 cs
  | _ => if isPadded cs then none else Number.readNat 10 cs

/-- A whole number with at most one sign. -/
def readWhole : List Char → Option Int
  | '+' :: cs => (readUnsigned cs).map Int.ofNat
  | '-' :: cs => (readUnsigned cs).map fun n => -(n : Int)
  | cs => (readUnsigned cs).map Int.ofNat

/-- A whole number of at most 128 bits. -/
def readInt (cs : List Char) : Option Int :=
  (readWhole cs).filter fun n =>
    -0x8000_0000_0000_0000_0000_0000_0000_0000 ≤ n &&
      n < 0x1_0000_0000_0000_0000_0000_0000_0000_0000

/-- A float that is finite, or one of the names for those that are not. -/
def readFloat (s : String) : Option Float :=
  let isInf (s : String) : Bool := [".inf", ".Inf", ".INF"].contains s
  match s.toList with
  | '+' :: cs =>
    if isInf (String.ofList cs) then some (1 / 0)
    else if cs.head? == some '+' || cs.head? == some '-' then none
    else (Number.readFloat cs).filter Float.isFinite
  | cs =>
    if isInf s then some (1 / 0)
    else if cs.head? == some '-' && isInf (String.ofList (cs.drop 1)) then some (-1 / 0)
    else if [".nan", ".NaN", ".NAN"].contains s then some (0 / 0)
    else (Number.readFloat cs).filter Float.isFinite

/-- Whether the digits after an optional sign are no number because a zero comes first. -/
def isPaddedText (cs : List Char) : Bool :=
  match cs with
  | '+' :: cs | '-' :: cs => isPadded cs
  | _ => isPadded cs

/-- What a plain scalar without a tag stands for. -/
def ofPlain (s : String) : Scalar :=
  if s.isEmpty || isNull s then .null
  else match readBool s with
    | some b => .bool b
    | none =>
      match readInt s.toList with
      | some n => .int n
      | none =>
        if isPaddedText s.toList then .text s
        else match readFloat s with
          | some x => .float x
          | none => .text s

def coreTag (name : String) : String := "tag:yaml.org,2002:" ++ name

/-- What a scalar with a tag stands for; a tag that names no kind of scalar leaves a text. -/
def ofTagged (tag s : String) : Except Fault Scalar :=
  let need (read : Option Scalar) (expected : String) : Except Fault Scalar :=
    match read with
    | some scalar => .ok scalar
    | none => .error (.wrongValue (.text s) expected)
  if tag == coreTag "bool" then need ((readBool s).map .bool) "a boolean"
  else if tag == coreTag "int" then need ((readInt s.toList).map .int) "an integer"
  else if tag == coreTag "float" then need ((readFloat s).map .float) "a float"
  else if tag == coreTag "null" then need (if isNull s then some .null else none) "null"
  else .ok (.text s)

def read (tag : Option String) (style : Style) (s : String) : Except Fault Scalar :=
  match tag with
  | some tag => ofTagged tag s
  | none => .ok (if style == .plain then ofPlain s else .text s)

def found : Scalar → Found
  | .null => .null
  | .bool b => .bool b
  | .int n => .int n
  | .float x => .float x
  | .text s => .text s

end Scalar

end CaseSuite.Yaml
