import CaseSuite.Http.Host
/-!
Web addresses. Schemes of the web have a host and a path of segments; an address with another
scheme may be opaque. What is read is shown in its normal form.
-/
set_option autoImplicit false

namespace CaseSuite.Http

structure Url where
  scheme : String
  /-- The user, and the password after a colon; empty if there is none. -/
  user : String
  /-- An opaque address has no host; some others have an empty one. -/
  host : Option String
  /-- The number of the service at the host, unless the scheme implies it. -/
  number : Option Nat
  path : String
  query : Option String
  fragment : Option String
  deriving DecidableEq, Repr

namespace Url

/-- The schemes of the web with the numbers that they imply. -/
def webSchemes : List (String × Nat) :=
  [("http", 80), ("https", 443), ("ws", 80), ("wss", 443), ("ftp", 21)]

def escapedByte (b : UInt8) : List Char :=
  ['%', (Text.hexDigit (b.toNat / 16)).toUpper, (Text.hexDigit b.toNat).toUpper]

/-- Writes control characters, characters past ASCII and the given ones as their bytes. -/
def escape (special : String) (cs : List Char) : List Char :=
  cs.flatMap fun c =>
    if c.toNat < 0x20 || 0x7e < c.toNat || special.toList.contains c then
      (String.singleton c).toUTF8.data.toList.flatMap escapedByte
    else [c]

def fragmentSpecials : String := " \"<>\x60"

def querySpecials : String := " \"#<>"

def pathSpecials : String := " \"<>\x60#?\x7b\x7d"

def userSpecials : String := " \"<>\x60#?\x7b\x7d/:;=@[\\]^|"

/-- The scheme before the first colon, in lower case, and what follows. -/
def readScheme (cs : List Char) : Option (String × List Char) :=
  let name := cs.takeWhile (· != ':')
  match name, cs.drop name.length with
  | c :: _, _ :: rest =>
    if c.isAlpha && name.all fun c => c.isAlphanum || c == '+' || c == '-' || c == '.' then
      some ((String.ofList name).toLower, rest)
    else none
  | _, _ => none

/-- Cuts at the first of these characters; nothing follows if it is not there. -/
def cut (c : Char) (cs : List Char) : List Char × Option (List Char) :=
  let before := cs.takeWhile (· != c)
  match cs.drop before.length with
  | _ :: after => (before, some after)
  | [] => (before, none)

/-- The names of a path with the dot segments carried out. -/
def normalize (segments : List (List Char)) : List (List Char) :=
  let isDot (s : List Char) : Bool := [".", "%2e"].contains (String.ofList s).toLower
  let isUp (s : List Char) : Bool :=
    ["..", ".%2e", "%2e.", "%2e%2e"].contains (String.ofList s).toLower
  let last := segments.length - 1
  (segments.zipIdx).foldl (fun kept s =>
    let kept := if isUp s.1 then kept.dropLast else kept
    if isDot s.1 || isUp s.1 then (if s.2 == last then kept ++ [[]] else kept)
    else kept ++ [s.1]) []

/-- A path of segments in its normal form. -/
def segmentPath (cs : List Char) : String :=
  let segments := match cs with
    | '/' :: cs => Text.split '/' cs
    | cs => Text.split '/' cs
  String.ofList (escape pathSpecials ('/' :: Text.join '/' (normalize segments)))

/-- The user before the last at sign, and what follows. -/
def cutUser (cs : List Char) : List Char × List Char :=
  let after := (cs.reverse.takeWhile (· != '@')).reverse
  ((cs.take (cs.length - after.length)).dropLast, after)

/-- The host, and the number after the colon behind it. -/
def cutNumber (cs : List Char) : List Char × Option (List Char) :=
  let brackets := if cs.head? == some '[' then (cs.takeWhile (· != ']')).length + 1 else 0
  let (name, number) := cut ':' (cs.drop brackets)
  (cs.take brackets ++ name, number)

/-- The number of a service; none is kept if none is written or the scheme implies it. -/
def readNumber (scheme : String) : Option (List Char) → Option (Option Nat)
  | none | some [] => some none
  | some cs =>
    match Number.readNat 10 cs with
    | some n =>
      if 65535 < n then none
      else if webSchemes.lookup scheme == some n then some none
      else some (some n)
    | none => none

def userText (cs : List Char) : String :=
  let (user, password) := cut ':' cs
  let password := match password with
    | none | some [] => []
    | some p => ':' :: escape userSpecials p
  String.ofList (escape userSpecials user ++ password)

def withAuthority (scheme : String) (web : Bool) (authority : List Char) (path : String) :
    Option Url := do
  let (user, rest) := cutUser authority
  let (host, number) := cutNumber rest
  let number ← readNumber scheme number
  if host.isEmpty then
    if web || !authority.isEmpty then none
    else return ⟨scheme, "", some "", none, path, none, none⟩
  else
    let host ← if web then Host.read host else Host.readOpaque host
    return ⟨scheme, userText user, some host, number, path, none, none⟩

/-- Blanks and control characters around an address do not count. -/
def isOuter (c : Char) : Bool := c.toNat ≤ 0x20

def isBreak (c : Char) : Bool := c == '\t' || c == '\n' || c == '\r'

def trimmed (cs : List Char) : List Char :=
  ((cs.dropWhile isOuter).reverse.dropWhile isOuter).reverse.filter (!isBreak ·)

/-- The part of an address between the scheme and the query. -/
def readHierarchy (scheme : String) (cs : List Char) : Option Url :=
  if (webSchemes.lookup scheme).isSome then
    let cs := cs.map fun c => if c == '\\' then '/' else c
    let rest := cs.dropWhile (· == '/')
    let authority := rest.takeWhile (· != '/')
    withAuthority scheme true authority (segmentPath (rest.drop authority.length))
  else if scheme == "file" then
    match cs.map fun c => if c == '\\' then '/' else c with
    | '/' :: '/' :: rest =>
      let host := rest.takeWhile (· != '/')
      let path := segmentPath (rest.drop host.length)
      if host.isEmpty || String.ofList host == "localhost" then
        some ⟨scheme, "", some "", none, path, none, none⟩
      else (Host.read host).map fun name => ⟨scheme, "", some name, none, path, none, none⟩
    | rest => some ⟨scheme, "", some "", none, segmentPath rest, none, none⟩
  else
    match cs with
    | '/' :: '/' :: rest =>
      let authority := rest.takeWhile (· != '/')
      let path := rest.drop authority.length
      withAuthority scheme false authority (if path.isEmpty then "" else segmentPath path)
    | '/' :: _ => some ⟨scheme, "", none, none, segmentPath cs, none, none⟩
    | _ => some ⟨scheme, "", none, none, String.ofList (escape "" cs), none, none⟩

/-- Reads an address, which must start with its scheme. -/
def read (text : String) : Option Url := do
  let (scheme, rest) ← readScheme (trimmed text.toList)
  let (rest, fragment) := cut '#' rest
  let (rest, query) := cut '?' rest
  let url ← readHierarchy scheme rest
  let querySpecials :=
    if (webSchemes.lookup scheme).isSome || scheme == "file" then querySpecials ++ "'"
    else querySpecials
  return { url with
    query := query.map fun cs => String.ofList (escape querySpecials cs)
    fragment := fragment.map fun cs => String.ofList (escape fragmentSpecials cs) }

/-- What is asked of the host: the path and the query. -/
def target (u : Url) : String := u.path ++ (u.query.map ("?" ++ ·)).getD ""

/-- The host, and the number if it is not implied. -/
def authority (u : Url) : String :=
  u.host.getD "" ++ (u.number.map fun n => s!":{n}").getD ""

def text (u : Url) : String :=
  let user := if u.user.isEmpty then "" else u.user ++ "@"
  let authority := if u.host.isSome then "//" ++ user ++ u.authority else ""
  s!"{u.scheme}:{authority}{u.target}" ++ (u.fragment.map ("#" ++ ·)).getD ""

def hasHost (u : Url) : Bool := u.host.any (!·.isEmpty)

def withoutUser (u : Url) : Url := { u with user := "" }

def isHttp (u : Url) : Bool := u.scheme == "http" || u.scheme == "https"

end Url

end CaseSuite.Http
