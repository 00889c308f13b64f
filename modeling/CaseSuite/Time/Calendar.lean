/-!
The proleptic Gregorian calendar: days since the first of January of the year 1, and the year,
month and day they fall on. Years are whole numbers of either sign.
-/
set_option autoImplicit false

namespace CaseSuite

/-- A day of the calendar; month and day count from one. -/
structure Date where
  year : Int
  month : Nat
  day : Nat
  deriving DecidableEq, Repr

namespace Calendar

def isLeap (year : Int) : Bool := year % 4 == 0 && (year % 100 != 0 || year % 400 == 0)

def monthLengths (year : Int) : List Nat :=
  [31, if isLeap year then 29 else 28, 31, 30, 31, 30, 31, 31, 30, 31, 30, 31]

/-- Days from the first day of the year 1 to the first day of this year. -/
def daysBefore (year : Int) : Int :=
  let y := year - 1
  365 * y + y / 4 - y / 100 + y / 400

/-- The year that a day falls in: a guess from the mean length, moved by at most one. -/
def yearOf (day : Int) : Int :=
  let guess := day * 400 / 146097 + 1
  if day < daysBefore guess then guess - 1
  else if daysBefore (guess + 1) ≤ day then guess + 1
  else guess

/-- The place of a day in a row of months: how many are over, and how many days into the next. -/
def splitDays : List Nat → Nat → Nat × Nat
  | [], day => (0, day)
  | length :: rest, day =>
    if day < length then (0, day)
    else
      let (month, day) := splitDays rest (day - length)
      (month + 1, day)

end Calendar

def Date.ofDays (days : Int) : Date :=
  let year := Calendar.yearOf days
  let (month, day) := Calendar.splitDays (Calendar.monthLengths year)
    (days - Calendar.daysBefore year).toNat
  ⟨year, month + 1, day + 1⟩

/-- Whether the calendar has the day. -/
def Date.exists (d : Date) : Bool :=
  match d.month, d.day with
  | month + 1, day + 1 =>
    match (Calendar.monthLengths d.year)[month]? with
    | some length => day < length
    | none => false
  | _, _ => false

def Date.toDays (d : Date) : Int :=
  Calendar.daysBefore d.year +
    (((Calendar.monthLengths d.year).take (d.month - 1)).foldl (· + ·) 0 + (d.day - 1) : Nat)

end CaseSuite
