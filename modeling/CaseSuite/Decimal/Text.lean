import CaseSuite.Decimal.Shortest
/-!
Texts of floating-point numbers. A style fixes where positional notation ends, whether a positive
exponent has its sign, and which of two equally near decimals is written.
-/
set_option autoImplicit false

namespace CaseSuite

/-- How a finite float is written: positional while the decimal point stands within `range`. -/
structure FloatStyle where
  tie : Tie
  range : Option (Int × Int)
  plus : Bool
  deriving DecidableEq, Repr

def Decimal.text (style : FloatStyle) (d : Decimal) : List Char :=
  let digits := Nat.toDigits 10 d.digits
  let point : Int := digits.length + d.exponent
  let positional := match style.range with
    | none => true
    | some (low, high) => low ≤ point && point ≤ high
  if positional then
    if point ≤ 0 then ['0', '.'] ++ List.replicate (-point).toNat '0' ++ digits
    else if 0 ≤ d.exponent then digits ++ List.replicate d.exponent.toNat '0' ++ ['.', '0']
    else digits.take point.toNat ++ '.' :: digits.drop point.toNat
  else
    let mantissa := match digits with
      | first :: second :: rest => first :: '.' :: second :: rest
      | short => short
    let power := point - 1
    let sign := if power < 0 then ['-'] else if style.plus then ['+'] else []
    mantissa ++ 'e' :: sign ++ Nat.toDigits 10 power.natAbs

def isNegative (x : Float) : Bool := x.toBits.toNat >>> 63 == 1

def FloatStyle.text (style : FloatStyle) (x : Float) : String :=
  let sign := if isNegative x then ['-'] else []
  let b := Binary.ofFloat x
  String.ofList
    (sign ++ if b.mantissa == 0 then ['0', '.', '0'] else (b.shortest style.tie).text style)

/-- Plain from 1e-4 to below 1e16. -/
def FloatStyle.plain : FloatStyle := ⟨.up, some (-3, 16), false⟩

/-- Plain from 1e-5 to below 1e16, a positive exponent with its sign. -/
def FloatStyle.json : FloatStyle := ⟨.even, some (-4, 16), true⟩

/-- Plain from 1e-5 to below 1e16. -/
def FloatStyle.yaml : FloatStyle := ⟨.even, some (-4, 16), false⟩

/-- Never with an exponent. -/
def FloatStyle.positional : FloatStyle := ⟨.up, none, false⟩

/-- The text of any float, with names for what is not a number. -/
def FloatStyle.named (style : FloatStyle) (x : Float) (nan infinity : String) : String :=
  if x.isNaN then nan
  else if x.isInf then (if isNegative x then "-" else "") ++ infinity
  else style.text x

end CaseSuite
