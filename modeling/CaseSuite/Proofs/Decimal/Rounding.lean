import CaseSuite.Decimal.Read
import Mathlib
/-!
Rounding whole numbers to floats. A number keeps its first 53 binary digits, rounded to the nearest
and, of two that are equally near, to the even one. So a number next to `2 ^ 63` becomes it, from 512
below to 1024 above.
-/
set_option autoImplicit false

namespace CaseSuite.Number

open Float.Model Float.Model.UnpackedFloat

/-- The whole number nearest to `m / 2 ^ n`; of two that are equally near, the even one. -/
def nearestEven (m n : Nat) : Nat :=
  if 2 * (m % 2 ^ n) < 2 ^ n then m / 2 ^ n
  else if 2 ^ n < 2 * (m % 2 ^ n) then m / 2 ^ n + 1
  else m / 2 ^ n + m / 2 ^ n % 2

theorem nearestEven_mul (m n k : Nat) : nearestEven (m * 2 ^ k) (n + k) = nearestEven m n := by
  have hk : 0 < 2 ^ k := Nat.two_pow_pos k
  have hdiv : m * 2 ^ k / (2 ^ n * 2 ^ k) = m / 2 ^ n := Nat.mul_div_mul_right _ _ hk
  have hmod : 2 * (m * 2 ^ k % (2 ^ n * 2 ^ k)) = 2 * (m % 2 ^ n) * 2 ^ k := by
    rw [Nat.mul_mod_mul_right, Nat.mul_assoc]
  simp only [nearestEven, Nat.pow_add, hdiv, hmod, Nat.mul_lt_mul_right hk]

theorem nearestEven_bounds (m n : Nat) :
    m / 2 ^ n ≤ nearestEven m n ∧ nearestEven m n ≤ m / 2 ^ n + 1 := by
  unfold nearestEven
  split
  · omega
  · split <;> omega

theorem nearestEven_le_iff {m n r : Nat} : nearestEven m n ≤ r ↔
    2 * m < (2 * r + 1) * 2 ^ n ∨ 2 * m = (2 * r + 1) * 2 ^ n ∧ r % 2 = 0 := by
  have hpos : 0 < 2 ^ n := Nat.two_pow_pos n
  have hm : 2 ^ n * (m / 2 ^ n) + m % 2 ^ n = m := Nat.div_add_mod m (2 ^ n)
  have hlt : m % 2 ^ n < 2 ^ n := Nat.mod_lt _ hpos
  have hbounds := nearestEven_bounds m n
  have hhalf : (2 * r + 1) * 2 ^ n = 2 * (2 ^ n * r) + 2 ^ n := by
    rw [Nat.add_mul, Nat.one_mul, Nat.mul_assoc, Nat.mul_comm r]
  rw [hhalf]
  obtain hq | hq | hq := Nat.lt_trichotomy (m / 2 ^ n) r
  · have hle : 2 ^ n * (m / 2 ^ n) + 2 ^ n ≤ 2 ^ n * r := Nat.mul_le_mul_left (2 ^ n) hq
    omega
  · rw [nearestEven, hq]
    rw [hq] at hm
    split
    · omega
    · split <;> omega
  · have hle : 2 ^ n * r + 2 ^ n ≤ 2 ^ n * (m / 2 ^ n) := Nat.mul_le_mul_left (2 ^ n) hq
    omega

/-- A number after a shift, with the two bits that stand for the digits shifted out: whether they
are at least half of a unit, and whether they are neither nothing nor just a half. -/
structure Shifted (m n : Nat) (em : ExtendedMantissa) : Prop where
  mantissa : em.mantissa = m / 2 ^ n
  roundBit : em.roundBit = true ↔ 2 ^ n ≤ 2 * (m % 2 ^ n)
  stickyBit : em.stickyBit = true ↔ m % 2 ^ n ≠ 0 ∧ 2 * (m % 2 ^ n) ≠ 2 ^ n

variable {m n : Nat} {em : ExtendedMantissa}

theorem Shifted.step (h : Shifted m n em) : Shifted m (n + 1) em.shiftRightOne := by
  have hmod : m % 2 ^ (n + 1) = m % 2 ^ n + 2 ^ n * (m / 2 ^ n % 2) := by
    rw [Nat.pow_succ, Nat.mod_mul]
  have hlt : m % 2 ^ n < 2 ^ n := Nat.mod_lt _ (Nat.two_pow_pos n)
  have hpow : 2 ^ (n + 1) = 2 * 2 ^ n := Nat.pow_succ'
  refine ⟨?_, ?_, ?_⟩
  · rw [ExtendedMantissa.shiftRightOne, h.mantissa, Nat.div_div_eq_div_mul, Nat.pow_succ]
  · rw [ExtendedMantissa.shiftRightOne, bne_iff_ne, h.mantissa, hmod, hpow]
    obtain hbit | hbit := Nat.mod_two_eq_zero_or_one (m / 2 ^ n)
    · rw [hbit]
      omega
    · rw [hbit]
      omega
  · rw [ExtendedMantissa.shiftRightOne, Bool.or_eq_true, h.roundBit, h.stickyBit, hmod, hpow]
    obtain hbit | hbit := Nat.mod_two_eq_zero_or_one (m / 2 ^ n)
    · rw [hbit]
      omega
    · rw [hbit]
      omega

theorem shifted (m n : Nat) : Shifted m n ((⟨m, false, false⟩ : ExtendedMantissa) >>> n) := by
  change Shifted m n (n.repeat ExtendedMantissa.shiftRightOne _)
  induction n with
  | zero => exact ⟨by simp [Nat.repeat], by simp [Nat.repeat, Nat.mod_one],
      by simp [Nat.repeat, Nat.mod_one]⟩
  | succ n ih => exact ih.step

theorem Shifted.roundedMantissa_eq (h : Shifted m n em) : em.roundedMantissa = nearestEven m n := by
  obtain ⟨q, half, more⟩ := em
  obtain ⟨hq, hhalf, hmore⟩ := h
  simp only at hq hhalf hmore
  subst hq
  have hpos : 0 < 2 ^ n := Nat.two_pow_pos n
  unfold nearestEven
  cases half <;> cases more <;>
    simp only [ExtendedMantissa.roundedMantissa, ExtendedMantissa.accuracy,
      Accuracy.roundToNearestEven, Bool.false_eq_true, false_iff, true_iff] at hhalf hmore ⊢
  · rw [if_pos (by omega)]
  · rw [if_pos (by omega)]
  · rw [if_neg (by omega), if_neg (by omega)]
  · rw [if_neg (by omega), if_pos (by omega)]

/-! ### Mantissa and exponent -/

/-- The first 53 binary digits of a positive number, rounded; it may be that they carry. -/
def leading (n : Nat) : Nat := nearestEven (n * 2 ^ 52) n.log2

/-- The mantissa and the exponent of the float nearest to a positive number. -/
inductive Rounds (n : Nat) : Nat → Int → Prop
  | plain : leading n < 2 ^ 53 → Rounds n (leading n) ((n.log2 : Int) - 52)
  | carry : leading n = 2 ^ 53 → Rounds n (2 ^ 52) ((n.log2 : Int) - 51)

theorem leading_bounds (hn : 0 < n) : 2 ^ 52 ≤ leading n ∧ leading n ≤ 2 ^ 53 := by
  have hpos : 0 < 2 ^ n.log2 := Nat.two_pow_pos _
  have hlow : 2 ^ n.log2 ≤ n := Nat.log2_self_le (Nat.ne_of_gt hn)
  have hhigh : n < 2 ^ n.log2 * 2 := by
    rw [← Nat.pow_succ]
    exact Nat.lt_log2_self
  have hdiv : 2 ^ 52 ≤ n * 2 ^ 52 / 2 ^ n.log2 ∧ n * 2 ^ 52 / 2 ^ n.log2 < 2 ^ 53 := by
    rw [Nat.le_div_iff_mul_le hpos, Nat.div_lt_iff_lt_mul hpos]
    omega
  have hbounds := nearestEven_bounds (n * 2 ^ 52) n.log2
  rw [leading]
  omega

theorem log2_mul_two_pow (hn : 0 < n) (k : Nat) : (n * 2 ^ k).log2 = n.log2 + k := by
  have hne : n ≠ 0 := Nat.ne_of_gt hn
  have hmul : n * 2 ^ k ≠ 0 := Nat.mul_ne_zero hne (Nat.ne_of_gt (Nat.two_pow_pos k))
  rw [Nat.log2_eq_iff hmul]
  constructor
  · rw [Nat.pow_add]
    exact Nat.mul_le_mul_right _ (Nat.log2_self_le hne)
  · rw [Nat.add_right_comm, Nat.pow_add]
    exact Nat.mul_lt_mul_of_pos_right Nat.lt_log2_self (Nat.two_pow_pos k)

theorem targetExponent_eq {m : Nat} {e : Int} (he : -1074 ≤ (m.log2 : Int) + e - 52) :
    Format.binary64.targetExponent (totalExponent m e) = (m.log2 : Int) + e - 52 := by
  have hbits : (Format.binary64.mantissaBits : Int) = 53 := rfl
  have hleast : Format.binary64.minExponent = -1074 := rfl
  rw [Format.targetExponent, totalExponent, hbits, hleast]
  omega

theorem shiftToTargetExponent_eq {m s : Nat} {e : Int} (hm : m.log2 = 52 + s) (he : -1074 ≤ e) :
    shiftToTargetExponent .binary64 m e .exact =
      ((⟨m, false, false⟩ : ExtendedMantissa) >>> s, e + s) := by
  have hshift : ((m.log2 : Int) + e - 52 - e).toNat = s := by omega
  rw [shiftToTargetExponent, targetExponent_eq (by omega), shiftToExponent, hshift]
  rfl

/-- The two shifts of rounding: to the first 53 digits, and one more if they carry. -/
theorem roundWithAccuracy_eq (sign : Sign) {m s r c : Nat} {e : Int} (hm : m.log2 = 52 + s)
    (he : -1074 ≤ e) (hr : nearestEven m s = r) (hc : r.log2 = 52 + c) (hpos : 0 < r / 2 ^ c) :
    roundWithAccuracy .binary64 sign m e .exact = .finite sign (r / 2 ^ c) (e + s + c) hpos := by
  unfold roundWithAccuracy
  simp only [shiftToTargetExponent_eq hm he, (shifted m s).roundedMantissa_eq, hr,
    shiftToTargetExponent_eq hc (show -1074 ≤ e + s by omega), (shifted r c).mantissa]
  rw [dif_neg (Nat.ne_of_gt hpos)]

theorem nearestEven_eq_leading {k s : Nat} (h : n.log2 + k = 52 + s) :
    nearestEven (n * 2 ^ k) s = leading n :=
  calc nearestEven (n * 2 ^ k) s
    _ = nearestEven (n * 2 ^ k * 2 ^ 52) (s + 52) := (nearestEven_mul _ _ 52).symm
    _ = nearestEven (n * 2 ^ 52 * 2 ^ k) (n.log2 + k) := by
        rw [Nat.mul_right_comm, h, Nat.add_comm]
    _ = leading n := nearestEven_mul _ _ k

theorem nearestEven_of_log2 {s : Nat} (h : n.log2 = 52 + s) : nearestEven n s = leading n := by
  have hleading := nearestEven_eq_leading (n := n) (k := 0) h
  rwa [Nat.pow_zero, Nat.mul_one] at hleading

/-- A number that is written with enough binary places is rounded to its first 53 digits. -/
theorem roundWithAccuracy_rounds (sign : Sign) (hn : 0 < n) {k : Nat} (hk : 52 ≤ n.log2 + k)
    (hk' : k ≤ 1074) : ∃ q e h, Rounds n q e ∧
      roundWithAccuracy .binary64 sign (n * 2 ^ k) (-k) .exact = .finite sign q e h := by
  obtain ⟨s, hs⟩ := Nat.exists_eq_add_of_le hk
  have hlog : (n * 2 ^ k).log2 = 52 + s := (log2_mul_two_pow hn k).trans hs
  have hround := nearestEven_eq_leading hs
  obtain ⟨hleast, hmost⟩ := leading_bounds hn
  obtain hlt | hcarry := Nat.lt_or_eq_of_le hmost
  · have hlog52 : (leading n).log2 = 52 + 0 := (Nat.log2_eq_iff (by omega)).mpr ⟨hleast, hlt⟩
    have hq : leading n / 2 ^ 0 = leading n := Nat.div_one _
    have he : -(k : Int) + s + (0 : Nat) = n.log2 - 52 := by omega
    refine ⟨leading n, n.log2 - 52, by omega, .plain hlt, ?_⟩
    rw [roundWithAccuracy_eq sign hlog (by omega) hround hlog52 (by omega)]
    simp only [hq, he]
  · have hlog53 : (leading n).log2 = 52 + 1 := by rw [hcarry, Nat.log2_two_pow]
    have hq : leading n / 2 ^ 1 = 2 ^ 52 := by omega
    have he : -(k : Int) + s + (1 : Nat) = n.log2 - 51 := by omega
    refine ⟨2 ^ 52, n.log2 - 51, by decide, .carry hcarry, ?_⟩
    rw [roundWithAccuracy_eq sign hlog (by omega) hround hlog53 (by omega)]
    simp only [hq, he]

/-! ### Around `2 ^ 63` -/

theorem Rounds.normal {q : Nat} {e : Int} (h : Rounds n q e) (hn : 0 < n) :
    2 ^ 52 ≤ q ∧ q < 2 ^ 53 := by
  cases h with
  | plain hlt => exact ⟨(leading_bounds hn).1, hlt⟩
  | carry _ => decide

theorem Rounds.exponent_ge {q : Nat} {e : Int} (h : Rounds n q e) (hn : 2 ^ 63 ≤ n) : 11 ≤ e := by
  have hlog : 63 ≤ n.log2 := (Nat.le_log2 (by omega)).mpr hn
  cases h <;> omega

theorem Rounds.eq_two_pow_iff {q : Nat} {e : Int} (h : Rounds n q e) (hn : 0 < n) :
    q = 2 ^ 52 ∧ e = 11 ↔ 2 ^ 63 - 512 ≤ n ∧ n ≤ 2 ^ 63 + 1024 := by
  have hlow : 2 ^ n.log2 ≤ n := Nat.log2_self_le (Nat.ne_of_gt hn)
  have hhigh : n < 2 ^ (n.log2 + 1) := Nat.lt_log2_self
  obtain ⟨hleast, hmost⟩ := leading_bounds hn
  obtain hlog | hlog | hlog | hlog : n.log2 < 62 ∨ n.log2 = 62 ∨ n.log2 = 63 ∨ 63 < n.log2 := by
    omega
  · have hsmall : n < 2 ^ 62 := (Nat.log2_lt (by omega)).mp hlog
    cases h <;> omega
  · -- With a digit less than `2 ^ 63` has, the digits must carry.
    have hcarry := nearestEven_le_iff (m := n) (n := 10) (r := 2 ^ 53 - 1)
    rw [nearestEven_of_log2 (by omega)] at hcarry
    rw [hlog] at hlow hhigh
    cases h <;> omega
  · have hdown := nearestEven_le_iff (m := n) (n := 11) (r := 2 ^ 52)
    rw [nearestEven_of_log2 (by omega)] at hdown
    rw [hlog] at hlow hhigh
    cases h <;> omega
  · have hlarge : 2 ^ 64 ≤ n := (Nat.le_log2 (by omega)).mp hlog
    cases h <;> omega

theorem Rounds.exponent_le {q : Nat} {e : Int} (h : Rounds n q e) (hn : 0 < n) (hle : n ≤ 2 ^ 63) :
    e ≤ 11 ∧ (e = 11 → q = 2 ^ 52) := by
  obtain heq | hlt := Nat.eq_or_lt_of_le hle
  · have htop := (h.eq_two_pow_iff hn).mpr (by omega)
    exact ⟨Int.le_of_eq htop.2, fun _ => htop.1⟩
  · have hlog : n.log2 < 63 := (Nat.log2_lt (by omega)).mpr hlt
    cases h with
    | plain _ => omega
    | carry _ => omega

end CaseSuite.Number
