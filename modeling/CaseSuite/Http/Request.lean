import CaseSuite.Collaborator.Basic
import CaseSuite.Http.Url
/-!
Requests of the hypertext protocol, and what sends them.
-/
set_option autoImplicit false

namespace CaseSuite.Http

/-- A request that can be sent. Names of headers are in lower case. -/
structure Request where
  method : String
  url : Url
  headers : List (String × String)
  body : ByteArray

/-- Characters of methods and of names of headers. -/
def isTokenChar (c : Char) : Bool :=
  c.isAlphanum || "!#$%&'*+-.^_\x60|~".toList.contains c

def isToken (s : String) : Bool := !s.isEmpty && s.toList.all isTokenChar

/-- Whether a header can have this value: it has no control characters but tabs. -/
def isFieldValue (s : String) : Bool :=
  s.toList.all fun c => (0x20 ≤ c.toNat && c.toNat != 0x7f) || c == '\t'

/-- The digits of numbers below sixty-four. -/
def base64Digits : List Char :=
  "ABCDEFGHIJKLMNOPQRSTUVWXYZabcdefghijklmnopqrstuvwxyz0123456789+/".toList

/-- Bytes as text: four digits for three bytes, and equals signs where bytes are missing. -/
def base64 : List UInt8 → List Char
  | [] => []
  | [a] => digits 2 (a.toNat <<< 16) ++ ['=', '=']
  | [a, b] => digits 3 (a.toNat <<< 16 + b.toNat <<< 8) ++ ['=']
  | a :: b :: c :: rest =>
    digits 4 (a.toNat <<< 16 + b.toNat <<< 8 + c.toNat) ++ base64 rest
where
  /-- The first digits of a number of twenty-four bits. -/
  digits (count n : Nat) : List Char :=
    [n >>> 18, (n >>> 12) % 64, (n >>> 6) % 64, n % 64].take count |>.map fun d =>
      base64Digits.getD d '='

/-- The header for the user of an address, if it has one. -/
def Url.credentials (u : Url) : List (String × String) :=
  if u.user.isEmpty then []
  else
    let (name, password) := Url.cut ':' u.user.toList
    let bytes := Host.unescape name ++ 0x3a :: Host.unescape (password.getD [])
    [("authorization", "Basic " ++ String.ofList (base64 bytes))]

/-- Sends requests; a fault tells why there is no response. -/
class Transport (m : Type → Type) where
  send : Request → m (Except Fault Response)

namespace Request

/-- The request with a default for a header that it does not set. -/
def withDefault (r : Request) (name value : String) : Request :=
  if r.headers.any (·.1 == name) then r else { r with headers := r.headers ++ [(name, value)] }

end Request

end CaseSuite.Http
