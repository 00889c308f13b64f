import CaseSuite.Time.Calendar
import CaseSuite.Text.Class
/-!
Instants of coordinated universal time, and the one layout they are written in. An instant counts
seconds since the start of 1970 and nanoseconds. With a billion nanoseconds or more it is in the leap
second after its second, which can be put after any second and not only after the last of a minute.
-/
set_option autoImplicit false

namespace CaseSuite

/-- The first and the last second that instants cover: whole years from -262143 to 262142. -/
def Instant.first : Int := -8334601228800

def Instant.last : Int := 8210266876799

structure Instant where
  seconds : Int
  nanos : Nat
  first_le : Instant.first ≤ seconds
  le_last : seconds ≤ Instant.last
  nanos_lt : nanos < 2000000000
  deriving DecidableEq

namespace Instant

def ofParts? (seconds : Int) (nanos : Nat) : Option Instant :=
  if h : Instant.first ≤ seconds ∧ seconds ≤ Instant.last ∧ nanos < 2000000000 then
    some ⟨seconds, nanos, h.1, h.2.1, h.2.2⟩
  else none

/-- Days from the first day of the year 1 to the start of 1970. -/
def epochDay : Int := 719162

/-- The layout's name in messages. -/
def layout : String := "%Y-%m-%dT%H:%M:%SZ"

/-- Decimal digits, padded with zeros to the width. -/
def padded (width n : Nat) : List Char :=
  let digits := Nat.toDigits 10 n
  List.replicate (width - digits.length) '0' ++ digits

/-- Four digits; a sign where the year has another form. -/
def yearText (year : Int) : List Char :=
  if year < 0 then '-' :: padded 4 year.natAbs
  else if 9999 < year then '+' :: padded 4 year.natAbs
  else padded 4 year.natAbs

/-- Writes the instant in the layout; fractions of a second are left out. -/
def chars (t : Instant) : List Char :=
  let date := Date.ofDays (t.seconds / 86400 + epochDay)
  let second := (t.seconds % 86400).toNat
  yearText date.year ++ '-' :: padded 2 date.month ++ '-' :: padded 2 date.day ++
    'T' :: padded 2 (second / 3600) ++ ':' :: padded 2 (second / 60 % 60) ++
    ':' :: padded 2 (second % 60 + t.nanos / 1000000000) ++ ['Z']

def text (t : Instant) : String := String.ofList t.chars

/-- Reads up to `width` digits onto `n`. -/
def readDigits : (width : Nat) → (n : Nat) → List Char → Nat × List Char
  | width + 1, n, c :: cs =>
    if c.isDigit then readDigits width (n * 10 + (c.toNat - '0'.toNat)) cs else (n, c :: cs)
  | _, n, cs => (n, cs)

/-- One to `width` digits. -/
def readNumber (width : Nat) : List Char → Option (Nat × List Char)
  | [] => none
  | c :: cs => if c.isDigit then some (readDigits width 0 (c :: cs)) else none

/-- One or two digits, after any blanks. -/
def readField (cs : List Char) : Option (Nat × List Char) :=
  readNumber 2 (cs.dropWhile Text.isBlank)

/-- Up to four digits, or any number of them after a sign, after any blanks. -/
def readYear (cs : List Char) : Option (Int × List Char) :=
  match cs.dropWhile Text.isBlank with
  | '-' :: cs => (readNumber cs.length cs).map fun (n, rest) => (-(n : Int), rest)
  | '+' :: cs => (readNumber cs.length cs).map fun (n, rest) => ((n : Int), rest)
  | cs => (readNumber 4 cs).map fun (n, rest) => ((n : Int), rest)

def expect (c : Char) : List Char → Option (List Char)
  | d :: cs => if c == d then some cs else none
  | [] => none

/-- The instant at a time of day; the sixtieth second is a leap second. -/
def ofClock? (date : Date) (hour minute second : Nat) : Option Instant :=
  if date.exists && hour < 24 && minute < 60 && second ≤ 60 then
    let start := (date.toDays - epochDay) * 86400 + hour * 3600 + minute * 60
    if second == 60 then ofParts? (start + 59) 1000000000 else ofParts? (start + second) 0
  else none

def readChars (cs : List Char) : Option Instant := do
  let (year, cs) ← readYear cs
  let cs ← expect '-' cs
  let (month, cs) ← readField cs
  let cs ← expect '-' cs
  let (day, cs) ← readField cs
  let cs ← expect 'T' cs
  let (hour, cs) ← readField cs
  let cs ← expect ':' cs
  let (minute, cs) ← readField cs
  let cs ← expect ':' cs
  let (second, cs) ← readField cs
  let cs ← expect 'Z' cs
  if cs.isEmpty then ofClock? ⟨year, month, day⟩ hour minute second else none

def read (s : String) : Option Instant := readChars s.toList

end Instant

end CaseSuite
