import CaseSuite.Decimal.Read
import CaseSuite.Text.Quoted
import CaseSuite.Text.Split
import CaseSuite.Text.Utf8
/-!
Hosts of web addresses: names, and addresses of the internet protocol in either of its versions.
-/
set_option autoImplicit false

namespace CaseSuite.Http.Host

def hexValue? (c : Char) : Option Nat := (Number.digitValue c).filter (· < 16)

/-- The bytes of a text in which a percent sign and two hexadecimal digits stand for a byte. -/
def unescape : List Char → List UInt8
  | [] => []
  | '%' :: a :: b :: cs =>
    match hexValue? a, hexValue? b with
    | some a, some b => UInt8.ofNat (a * 16 + b) :: unescape cs
    | _, _ => 0x25 :: unescape (a :: b :: cs)
  | c :: cs => (String.singleton c).toUTF8.data.toList ++ unescape cs

def isForbidden (c : Char) : Bool :=
  c.toNat ≤ 0x20 || c.toNat == 0x7f || "#/:<>?@[\\]^|%\ufffd".toList.contains c

/-- A part of a version 4 address: decimal, or hexadecimal or octal by its start. -/
def readPart : List Char → Option Nat
  | '0' :: 'x' :: [] | '0' :: 'X' :: [] => some 0
  | '0' :: 'x' :: cs | '0' :: 'X' :: cs => Number.readNat 16 cs
  | '0' :: c :: cs => Number.readNat 8 (c :: cs)
  | cs => Number.readNat 10 cs

/-- The parts between dots; one dot may end the name. -/
def dotted (cs : List Char) : List (List Char) :=
  let parts := Text.split '.' cs
  if 1 < parts.length && parts.getLastD [] == [] then parts.dropLast else parts

/-- Whether a name has to be a version 4 address. -/
def endsInNumber (cs : List Char) : Bool :=
  let last := (dotted cs).getLastD []
  (!last.isEmpty && last.all Char.isDigit) || (last.take 1 == ['0'] && (readPart last).isSome)

/-- The address that parts make: all but the last are bytes, and the last fills what is left. -/
def addressOf? (parts : List Nat) : Option Nat :=
  let last := parts.getLastD 0
  if 4 < parts.length || parts.dropLast.any (255 < ·) || 1 <<< (8 * (5 - parts.length)) ≤ last then
    none
  else some ((parts.dropLast.zipIdx).foldl (fun n p => n + p.1 <<< (8 * (3 - p.2))) last)

def addressText (n : Nat) : String :=
  ".".intercalate ([n >>> 24, (n >>> 16) % 256, (n >>> 8) % 256, n % 256].map toString)

/-- A name of a host; one that ends in a number is a version 4 address. -/
def readName (cs : List Char) : Option String :=
  let name := (Utf8.text (unescape cs).toByteArray).toLower
  if name.isEmpty || name.toList.any isForbidden then none
  else if endsInNumber name.toList then do
    return addressText (← addressOf? (← (dotted name.toList).mapM readPart))
  else some name

/-- One group of a version 6 address; two groups may be written as a version 4 address. -/
def readGroup (last : Bool) (cs : List Char) : Option (List Nat) :=
  if last && cs.contains '.' then
    let parts := Text.split '.' cs
    if parts.length == 4 && parts.all fun p => !p.isEmpty && (p.length == 1 || p.head? != some '0')
    then do
      let n ← addressOf? (← parts.mapM (Number.readNat 10))
      return [n >>> 16, n % UInt16.size]
    else none
  else if cs.length ≤ 4 then (Number.readNat 16 cs).map ([·]) else none

def readGroups (last : Bool) (cs : List Char) : Option (List Nat) :=
  if cs.isEmpty then some []
  else
    let groups := Text.split ':' cs
    List.flatten <$> (groups.zipIdx).mapM fun g => readGroup (last && g.2 + 1 == groups.length) g.1

/-- What is before and after the first pair of colons. -/
def cutAtGap : List Char → Option (List Char × List Char)
  | ':' :: ':' :: cs => some ([], cs)
  | c :: cs => (cutAtGap cs).map fun (before, after) => (c :: before, after)
  | [] => none

/-- The eight groups of a version 6 address; a pair of colons stands for as many zeros as needed. -/
def readAddress6 (cs : List Char) : Option (List Nat) := do
  match cutAtGap cs with
  | some (before, after) =>
    let left ← readGroups false before
    let right ← readGroups true after
    if left.length + right.length ≤ 7 then
      return left ++ List.replicate (8 - left.length - right.length) 0 ++ right
    else none
  | none => (← readGroups true cs) |> fun groups => if groups.length == 8 then some groups else none

def zeros (groups : List Nat) : Nat := (groups.takeWhile (· == 0)).length

/-- The longest run of zeros, and the first of several, as its start and length. -/
def longestGap (groups : List Nat) : Nat × Nat :=
  (List.range 8).foldl (fun best i =>
    if best.2 < zeros (groups.drop i) then (i, zeros (groups.drop i)) else best) (0, 0)

def groupsText (groups : List Nat) : String :=
  ":".intercalate (groups.map fun n => String.ofList (Text.hex n))

def address6Text (groups : List Nat) : String :=
  let (start, length) := longestGap groups
  if length < 2 then s!"[{groupsText groups}]"
  else s!"[{groupsText (groups.take start)}::{groupsText (groups.drop (start + length))}]"

/-- A host in the form in which it is shown. -/
def read (cs : List Char) : Option String :=
  match cs with
  | '[' :: rest =>
    if rest.getLast? == some ']' then (readAddress6 rest.dropLast).map address6Text else none
  | cs => readName cs

/-- A host of an address with a scheme of its own; only brackets have a meaning. -/
def readOpaque (cs : List Char) : Option String :=
  match cs with
  | '[' :: _ => read cs
  | cs => if cs.any fun c => c != '%' && isForbidden c then none else some (String.ofList cs)

end CaseSuite.Http.Host
