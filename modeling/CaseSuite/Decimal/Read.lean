import CaseSuite.Decimal.Shortest
/-!
Reading numbers from text: whole numbers in a base, decimals with fraction and exponent, and the
float nearest to a decimal.
-/
set_option autoImplicit false

namespace CaseSuite.Number

/-- The value of a digit of any base up to thirty-six. -/
def digitValue (c : Char) : Option Nat :=
  if c.isDigit then some (c.toNat - '0'.toNat)
  else if c.isLower then some (c.toNat - 'a'.toNat + 10)
  else if c.isUpper then some (c.toNat - 'A'.toNat + 10)
  else none

/-- The number that the digits write after those already read. -/
def readOnto (base : Nat) : Nat → List Char → Option Nat
  | n, [] => some n
  | n, c :: cs =>
    match digitValue c with
    | some d => if d < base then readOnto base (n * base + d) cs else none
    | none => none

/-- A non-empty run of digits. -/
def readNat (base : Nat) : List Char → Option Nat
  | [] => none
  | cs => readOnto base 0 cs

/-- A run of digits with at most one sign before it. -/
def readInt (base : Nat) : List Char → Option Int
  | '+' :: cs => (readNat base cs).map Int.ofNat
  | '-' :: cs => (readNat base cs).map fun n => -(n : Int)
  | cs => (readNat base cs).map Int.ofNat

/-- The machine integer of this value, if it is in range. -/
def int64? (n : Int) : Option Int64 :=
  if -0x8000_0000_0000_0000 ≤ n ∧ n < 0x8000_0000_0000_0000 then some (Int64.ofInt n) else none

def readInt64 (cs : List Char) : Option Int64 := (readInt 10 cs).bind int64?

def digitsOf (cs : List Char) : Nat := (readOnto 10 0 cs).getD 0

/-- The exponent after the digits of a decimal; nothing stands for zero. -/
def readExponent : List Char → Option Int
  | [] => some 0
  | c :: cs => if c == 'e' || c == 'E' then readInt 10 cs else none

/-- An unsigned decimal: digits around an optional point, at least one of them, and an exponent. -/
def readDecimal (cs : List Char) : Option Decimal :=
  let whole := cs.takeWhile Char.isDigit
  let rest := cs.dropWhile Char.isDigit
  let (fraction, rest) := match rest with
    | '.' :: rest => (rest.takeWhile Char.isDigit, rest.dropWhile Char.isDigit)
    | _ => ([], rest)
  if whole.isEmpty && fraction.isEmpty then none
  else (readExponent rest).map fun e => ⟨digitsOf (whole ++ fraction), e - fraction.length⟩

/-- The float nearest to a decimal. Sizes far out of range are decided by the count of digits. -/
def nearest (d : Decimal) : Float :=
  let size : Int := (Nat.toDigits 10 d.digits).length + d.exponent
  if d.digits == 0 || size < -330 then 0
  else if size > 320 then 1 / 0
  else Float.ofScientific d.digits (d.exponent < 0) d.exponent.natAbs

def readName (cs : List Char) : Option Float :=
  let name := String.ofList (cs.map Char.toLower)
  if name == "inf" || name == "infinity" then some (1 / 0)
  else if name == "nan" then some (0 / 0)
  else none

def readUnsigned (cs : List Char) : Option Float :=
  match readDecimal cs with
  | some d => some (nearest d)
  | none => readName cs

/-- A float with an optional sign; the names of infinity and of no number count in any case. -/
def readFloat : List Char → Option Float
  | '+' :: cs => readUnsigned cs
  | '-' :: cs => (readUnsigned cs).map fun x => -x
  | cs => readUnsigned cs

end CaseSuite.Number
