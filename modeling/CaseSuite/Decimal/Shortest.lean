/-!
The shortest decimal of a floating-point number: the fewest digits that read back as it, and among
those the nearest. The search compares natural numbers only. Grids of powers of ten are tried from
coarse to fine; on each only the two neighbours of the number can lie in the interval that rounds
to it.
-/
set_option autoImplicit false

namespace CaseSuite

/-- A decimal `digits · 10 ^ exponent`. -/
structure Decimal where
  digits : Nat
  exponent : Int
  deriving DecidableEq, Repr

/-- A positive binary number `mantissa · 2 ^ exponent`; `lowest` tells whether the number below it
is only half as far as the one above. -/
structure Binary where
  mantissa : Nat
  exponent : Int
  lowest : Bool
  deriving DecidableEq, Repr

/-- Which of two equally near decimals is taken. -/
inductive Tie where
  | up
  | even
  deriving DecidableEq, Repr

/-- The magnitude of a finite float. -/
def Binary.ofFloat (x : Float) : Binary :=
  let bits : Nat := x.toBits.toNat % (1 <<< 63)
  let fraction : Nat := bits % (1 <<< 52)
  let power : Nat := bits >>> 52
  if power == 0 then ⟨fraction, -1074, false⟩
  else ⟨fraction + (1 <<< 52), (power : Int) - 1075, fraction == 0 && power != 1⟩

/-- The decimal on the grid of `10 ^ k` that rounds to the number, if there is one. All quantities
are scaled to whole numbers: the number is `4 · mantissa` quarter units of its last place. -/
def Binary.onGrid (b : Binary) (tie : Tie) (k : Int) : Option Decimal :=
  let scale := Nat.pow 2 (b.exponent - 2).toNat * Nat.pow 10 (-k).toNat
  let step := Nat.pow 10 k.toNat * Nat.pow 2 (2 - b.exponent).toNat
  let value := 4 * b.mantissa * scale
  let low := (4 * b.mantissa - (if b.lowest then 1 else 2)) * scale
  let high := (4 * b.mantissa + 2) * scale
  let ends := b.mantissa % 2 == 0
  let inside (d : Nat) : Bool :=
    d != 0 && if ends then low ≤ d * step && d * step ≤ high else low < d * step && d * step < high
  let below := value / step
  let above := below + 1
  match inside below, inside above with
  | true, true =>
    let down := value - below * step
    let up := above * step - value
    let takeAbove := up < down || (up == down && (tie == .up || below % 2 == 1))
    some ⟨if takeAbove then above else below, k⟩
  | true, false => some ⟨below, k⟩
  | false, true => some ⟨above, k⟩
  | false, false => none

/-- A power of ten above the number, from its binary size. -/
def Binary.coarse (b : Binary) : Int :=
  ((b.mantissa.log2 : Int) + b.exponent) * 30103 / 100000 + 2

/-- The shortest decimal that reads back as the number; zero for zero. -/
def Binary.shortest (b : Binary) (tie : Tie) : Decimal :=
  ((List.range 24).findSome? fun (i : Nat) => b.onGrid tie (b.coarse - i)).getD ⟨0, 0⟩

end CaseSuite
