import CaseSuite.Json.Basic
import CaseSuite.Decimal.Text
import CaseSuite.Text.Quoted
/-!
The compact text of a JSON document: no blanks, members in their order, floats by their shortest
decimal, and only what must be escaped in strings escaped.
-/
set_option autoImplicit false

namespace CaseSuite.Json

def escapedChar (c : Char) : List Char :=
  if c == '"' then ['\\', '"']
  else if c == '\\' then ['\\', '\\']
  else if c == '\n' then ['\\', 'n']
  else if c == '\r' then ['\\', 'r']
  else if c == '\t' then ['\\', 't']
  else if c == '\x08' then ['\\', 'b']
  else if c == '\x0c' then ['\\', 'f']
  else if c.toNat < 0x20 then
    ['\\', 'u', '0', '0', Text.hexDigit (c.toNat / 16), Text.hexDigit c.toNat]
  else [c]

def stringChars (s : String) : List Char := '"' :: s.toList.flatMap escapedChar ++ ['"']

def intChars (n : Int) : List Char :=
  if n < 0 then '-' :: Nat.toDigits 10 n.natAbs else Nat.toDigits 10 n.natAbs

/-- A float has no text when it is infinite or no number. -/
def floatChars (x : Float) : List Char :=
  if x.isFinite then (FloatStyle.json.text x).toList else ['n', 'u', 'l', 'l']

mutual

def chars : Json → List Char
  | .null => ['n', 'u', 'l', 'l']
  | .bool true => ['t', 'r', 'u', 'e']
  | .bool false => ['f', 'a', 'l', 's', 'e']
  | .int n => intChars n.toInt
  | .float x => floatChars x
  | .str s => stringChars s
  | .list [] => ['[', ']']
  | .list (item :: items) => '[' :: chars item ++ itemChars items
  | .object [] => ['\x7b', '\x7d']
  | .object ((key, item) :: members) =>
    '\x7b' :: stringChars key ++ ':' :: chars item ++ memberChars members

/-- The items after the first, and the closing bracket. -/
def itemChars : List Json → List Char
  | [] => [']']
  | item :: items => ',' :: chars item ++ itemChars items

/-- The members after the first, and the closing brace. -/
def memberChars : List (String × Json) → List Char
  | [] => ['\x7d']
  | (key, item) :: members => ',' :: stringChars key ++ ':' :: chars item ++ memberChars members

end

def print (j : Json) : String := String.ofList j.chars

end CaseSuite.Json
