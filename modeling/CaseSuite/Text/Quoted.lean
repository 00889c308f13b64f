import CaseSuite.Text.Class
/-!
Quoted texts in messages: a pair of double quotes around the characters, with a backslash before
what could end or hide the text. Characters without a form of their own are shown by code point.
-/
set_option autoImplicit false

namespace CaseSuite.Text

def hexDigit (n : Nat) : Char := Nat.digitChar (n % 16)

/-- Lower-case hexadecimal digits without leading zeros. -/
def hex (n : Nat) : List Char := Nat.toDigits 16 n

def quotedChar (c : Char) : List Char :=
  if c == '"' then ['\\', '"']
  else if c == '\\' then ['\\', '\\']
  else if c == '\n' then ['\\', 'n']
  else if c == '\r' then ['\\', 'r']
  else if c == '\t' then ['\\', 't']
  else if c.toNat == 0 then ['\\', '0']
  else if isHidden c then ['\\', 'u', '\x7b'] ++ hex c.toNat ++ ['\x7d']
  else [c]

/-- The text between double quotes, with escapes. -/
def quoted (s : String) : String :=
  String.ofList ('"' :: s.toList.flatMap quotedChar ++ ['"'])

end CaseSuite.Text
