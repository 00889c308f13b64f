import CaseSuite.Proofs.Decimal.Rounding
/-!
Floats that stand for whole numbers: those of integers, and those of texts too large for an integer.
Two of them are equal only where both numbers round to the same end of the range of integers.
-/
set_option autoImplicit false

namespace CaseSuite.Number

open Float.Model Float.Model.UnpackedFloat

/-! ### Packing -/

theorem unpackSign_packComponents (spec : Format) (sign : Sign) (e : BitVec spec.exponentBits)
    (m : BitVec spec.mantissaBitsWithoutImplicit) :
    Sign.ofBitVec (unpackSign (packComponents spec sign e m)) = sign := by
  have hsign : unpackSign (packComponents spec sign e m) = sign.toBitVec := by
    ext i hi
    obtain rfl : i = 0 := by omega
    simp [unpackSign, packComponents, BitVec.getElem_append, BitVec.getLsbD_append]
  rw [hsign]
  cases sign <;> rfl

/-- A biased exponent between those of zero and of infinity is read back with its mantissa. -/
theorem unpack_packComponents (sign : Sign) {x : BitVec 11} {q : Nat} (hx : x ≠ 0#11 ∧ x ≠ -1#11)
    (hq : 2 ^ 52 ≤ q ∧ q < 2 ^ 53) (hpos : 0 < q) :
    UnpackedFloat.unpack .binary64 (packComponents .binary64 sign x (BitVec.ofNat 52 q)) =
      .finite sign q (x.toNat - 1075 : Int) hpos := by
  have hmantissa : (1#1 ++ BitVec.ofNat 52 q).toNat = q := by
    rw [BitVec.toNat_append, BitVec.toNat_ofNat, BitVec.toNat_ofNat,
      ← Nat.shiftLeft_add_eq_or_of_lt (Nat.mod_lt _ (by decide)), Nat.shiftLeft_eq]
    omega
  have hunpack :
      UnpackedFloat.unpack .binary64 (packComponents .binary64 sign x (BitVec.ofNat 52 q)) =
        .finite sign (1#1 ++ BitVec.ofNat 52 q).toNat (x.toNat - 1075 : Int)
          (Nat.lt_of_lt_of_eq hpos hmantissa.symm) := by
    unfold UnpackedFloat.unpack
    simp only [unpackMantissa_packComponents, unpackExponent_packComponents,
      unpackSign_packComponents]
    exact (if_neg hx.2).trans (if_neg hx.1)
  simp only [hunpack, hmantissa]

theorem unpack_packedInfinity (sign : Sign) :
    UnpackedFloat.unpack .binary64 (packedInfinity .binary64 sign) = .infinity sign := by
  cases sign <;> rfl

theorem unpack_packedZero (sign : Sign) :
    UnpackedFloat.unpack .binary64 (packedZero .binary64 sign) = .zero sign := by
  cases sign <;> rfl

/-- What is packed with 53 digits is what is unpacked, if it is not too large. -/
theorem unpack_pack_finite (sign : Sign) {q : Nat} {e : Int} (hq : 2 ^ 52 ≤ q ∧ q < 2 ^ 53)
    (he : -1074 ≤ e) (hpos : 0 < q) :
    (Float.Model.pack (.finite sign q e hpos)).unpack =
      if e ≤ 971 then .finite sign q e hpos else .infinity sign := by
  have hlog : q.log2 + 1 = 53 := by rw [(Nat.log2_eq_iff (by omega)).mpr hq]
  generalize hx : BitVec.ofNat 11 (e + 1023 + (52 : Nat)).toNat = x
  change UnpackedFloat.unpack .binary64
    (if 2 ^ 11 ≤ (e + 1023 + (52 : Nat)).toNat + 1 then packedInfinity .binary64 sign
      else if q.log2 + 1 = 53 then
        packComponents .binary64 sign (BitVec.ofNat 11 (e + 1023 + (52 : Nat)).toNat)
          (BitVec.ofNat 52 q)
      else _) = _
  rw [if_pos hlog, hx]
  split
  · rw [if_neg (by omega), unpack_packedInfinity]
  · have hnat : x.toNat = (e + 1075).toNat := by
      rw [← hx, BitVec.toNat_ofNat]
      omega
    have hne (y : BitVec 11) (hy : y.toNat = 0 ∨ y.toNat = 2047) : x ≠ y := by
      rintro rfl
      omega
    have he' : (x.toNat : Int) - 1075 = e := by omega
    rw [if_pos (by omega), unpack_packComponents sign ⟨hne _ (.inl rfl), hne _ (.inr rfl)⟩ hq hpos]
    simp only [he']

/-! ### Nearest floats -/

/-- What the float nearest to a whole number unpacks to, by the sign and the size of the number. -/
inductive Unpacks (sign : Sign) (n : Nat) : UnpackedFloat → Prop
  | zero {s : Sign} : n = 0 → Unpacks sign n (.zero s)
  | finite {q : Nat} {e : Int} (h : 0 < q) :
      0 < n → Rounds n q e → e ≤ 971 → Unpacks sign n (.finite sign q e h)
  | infinity {q : Nat} {e : Int} :
      0 < n → Rounds n q e → 971 < e → Unpacks sign n (.infinity sign)

variable {n m : Nat} {sign sign' : Sign} {u w : UnpackedFloat}

theorem Rounds.unpacks {q : Nat} {e : Int} (h : Rounds n q e) (hn : 0 < n) (sign : Sign)
    (hpos : 0 < q) :
    Unpacks sign n (Float.Model.pack (.finite sign q e hpos)).unpack := by
  have he : -1074 ≤ e := by cases h <;> omega
  rw [unpack_pack_finite sign (h.normal hn) he hpos]
  split
  case isTrue hle => exact .finite hpos hn h hle
  case isFalse hgt => exact .infinity hn h (by omega)

theorem unpacks_roundWithAccuracy (sign : Sign) (hn : 0 < n) {k : Nat} (hk : 52 ≤ n.log2 + k)
    (hk' : k ≤ 1074) :
    Unpacks sign n
      (Float.Model.pack (roundWithAccuracy .binary64 sign (n * 2 ^ k) (-k) .exact)).unpack := by
  obtain ⟨q, e, hpos, hrounds, heq⟩ := roundWithAccuracy_rounds sign hn hk hk'
  rw [heq]
  exact hrounds.unpacks hn sign hpos

theorem Unpacks.neg (h : Unpacks sign n u) :
    Unpacks (-sign) n (Float.Model.pack u.neg).unpack := by
  cases h with
  | @zero s hzero =>
    change Unpacks (-sign) n (UnpackedFloat.unpack .binary64 (packedZero .binary64 (-s)))
    rw [unpack_packedZero]
    exact .zero hzero
  | finite hpos hn hrounds _ => exact hrounds.unpacks hn (-sign) hpos
  | infinity hn hrounds hgt =>
    change Unpacks (-sign) n (UnpackedFloat.unpack .binary64 (packedInfinity .binary64 (-sign)))
    rw [unpack_packedInfinity]
    exact .infinity hn hrounds hgt

theorem finite_beq_iff {q r : Nat} {e f : Int} (hq : 0 < q) (hr : 0 < r) :
    (UnpackedFloat.finite sign q e hq).beq (.finite sign' r f hr) = true ↔
      sign = sign' ∧ e = f ∧ q = r := by
  cases sign <;> cases sign' <;>
    simp [UnpackedFloat.beq, UnpackedFloat.compare, Ordering.then_eq_eq]

/-- Where one number is at least `2 ^ 63` and the other at most, both must round to it. -/
theorem Unpacks.beq_iff (hu : Unpacks sign n u) (hw : Unpacks sign' m w) (hn : 2 ^ 63 ≤ n)
    (hm : m ≤ 2 ^ 63) :
    u.beq w = true ↔ sign = sign' ∧ n ≤ 2 ^ 63 + 1024 ∧ 2 ^ 63 - 512 ≤ m := by
  cases hu with
  | zero hzero => omega
  | @finite q e hq hnpos hrounds he =>
    have hleast := hrounds.exponent_ge hn
    have htop := hrounds.eq_two_pow_iff hnpos
    cases hw with
    | zero hzero =>
      refine iff_of_false ?_ (by omega)
      cases sign <;> simp [UnpackedFloat.beq, UnpackedFloat.compare]
    | @finite r f hr hmpos hrounds' hf =>
      have hmost := hrounds'.exponent_le hmpos hm
      have htop' := hrounds'.eq_two_pow_iff hmpos
      rw [finite_beq_iff]
      refine and_congr_right fun _ => ⟨?_, ?_⟩
      · rintro ⟨rfl, rfl⟩
        omega
      · omega
    | infinity hmpos hrounds' hf =>
      have hmost := hrounds'.exponent_le hmpos hm
      omega
  | infinity hnpos hrounds he =>
    have htop := hrounds.eq_two_pow_iff hnpos
    cases hw with
    | zero _ =>
      refine iff_of_false ?_ (by omega)
      cases sign <;> simp [UnpackedFloat.beq, UnpackedFloat.compare]
    | finite _ _ _ _ =>
      refine iff_of_false ?_ (by omega)
      cases sign <;> simp [UnpackedFloat.beq, UnpackedFloat.compare]
    | infinity hmpos hrounds' hf =>
      have hmost := hrounds'.exponent_le hmpos hm
      omega

def IsNearest (n : Int) (x : Float) : Prop :=
  Unpacks (if n < 0 then .negative else .positive) n.natAbs x.toModel.unpack

theorem unpacks_round (sign : Sign) (hn : 0 < n) :
    Unpacks sign n (Float.Model.pack (UnpackedFloat.round .binary64 sign n 0)).unpack := by
  have htarget := targetExponent_eq (m := n) (e := 0) (by omega)
  unfold UnpackedFloat.round
  simp only [htarget, decreaseExponent, Nat.shiftLeft_eq, Int.zero_sub]
  exact unpacks_roundWithAccuracy sign hn (by omega) (by omega)

theorem isNearest_ofInt64 (a : Int64) : IsNearest a.toInt (.ofModel (.ofInt64 a)) := by
  change Unpacks _ _ (Float.Model.pack (UnpackedFloat.normalize .binary64 a.toInt 0 .positive)).unpack
  generalize a.toInt = n
  obtain hneg | rfl | hpos := Int.lt_trichotomy n 0
  · have hsize : (-n).toNat = n.natAbs := by omega
    simp only [UnpackedFloat.normalize, Int.compare_eq_lt.mpr hneg, if_pos hneg, hsize]
    exact unpacks_round .negative (by omega)
  · exact .zero rfl
  · have hsize : n.toNat = n.natAbs := by omega
    simp only [UnpackedFloat.normalize, Int.compare_eq_gt.mpr hpos, if_neg (Int.lt_asymm hpos), hsize]
    exact unpacks_round .positive (by omega)

theorem unpack_ofScientific {n : Nat} (hn : 2 ^ 53 ≤ n) :
    (Float.ofScientific n false 0).toModel.unpack =
      (Float.Model.pack
        (roundWithAccuracy .binary64 .positive (n * 2 ^ 53) (-(53 : Nat)) .exact)).unpack := by
  have hslow : ¬ (n < 2 ^ 53 ∧ 0 ≤ 22) := by omega
  have hlow : ¬ (0 : Int) < -(2 ^ Format.binary64.exponentBits + n.log2) := by
    have : (0 : Int) < 2 ^ Format.binary64.exponentBits := Int.pow_pos (by decide)
    omega
  rw [Float.ofScientific, dif_neg hslow]
  change (Float.Model.pack (UnpackedFloat.ofScientific .binary64 n 0)).unpack = _
  rw [UnpackedFloat.ofScientific, dif_neg (show n ≠ 0 by omega), if_neg (by decide), if_neg hlow,
    if_pos (Int.le_refl 0)]
  -- The power of ten is one, and the product is rounded with 53 binary places more.
  change (Float.Model.pack
    (roundWithAccuracy .binary64 .positive (n <<< 53 * 1) (-(53 : Nat) + 0) .exact)).unpack = _
  rw [Nat.mul_one, Nat.shiftLeft_eq, Int.add_zero]

theorem unpack_one_div_zero : (1 / 0 : Float).toModel.unpack = .infinity .positive := rfl

theorem two_pow_le_ten_pow (k : Nat) : 2 ^ (33 * k) ≤ 10 ^ (10 * k) := by
  rw [Nat.pow_mul, Nat.pow_mul]
  exact Nat.pow_le_pow_left (by decide) k

theorem le_log2_of_length {n k : Nat} (hk : 0 < k) (h : 10 * k < (Nat.toDigits 10 n).length) :
    33 * k ≤ n.log2 := by
  have hn : 10 ^ (10 * k) ≤ n := by
    rwa [← Nat.not_le, Nat.length_toDigits_le_iff (by decide) (by omega), Nat.not_lt] at h
  have hpos : 0 < 10 ^ (10 * k) := Nat.pow_pos (by decide)
  exact (Nat.le_log2 (by omega)).mpr (Nat.le_trans (two_pow_le_ten_pow k) hn)

theorem isNearest_nearest {n : Nat} (hn : 2 ^ 53 ≤ n) : IsNearest n (nearest ⟨n, 0⟩) := by
  have hpos : 0 < n := by omega
  rw [IsNearest, if_neg (by omega), Int.natAbs_natCast, nearest]
  simp only
  rw [if_neg (by simp; omega)]
  split
  case isTrue hlong =>
    have hlog : 33 * 32 ≤ n.log2 := le_log2_of_length (by decide) (by omega)
    obtain ⟨q, e, _, hrounds, _⟩ :=
      roundWithAccuracy_rounds .positive hpos (k := 0) (by omega) (by omega)
    rw [unpack_one_div_zero]
    exact .infinity hpos hrounds (by cases hrounds <;> omega)
  case isFalse _ =>
    change Unpacks _ _ (Float.ofScientific n false 0).toModel.unpack
    rw [unpack_ofScientific hn]
    exact unpacks_roundWithAccuracy _ hpos (by omega) (by omega)

theorem IsNearest.neg {n : Int} {x : Float} (h : IsNearest n x) (hn : 0 < n) :
    IsNearest (-n) (-x) := by
  have hneg := Unpacks.neg h
  rw [if_neg (by omega)] at hneg
  rw [IsNearest, if_pos (by omega), Int.natAbs_neg]
  exact hneg

/-- Numbers on the two sides of an end of the range of machine integers, both rounded to that end. -/
def MeetAtEnd (n m : Int) : Prop :=
  (2 ^ 63 ≤ n ∧ n ≤ 2 ^ 63 + 1024 ∧ 2 ^ 63 - 512 ≤ m) ∨
    (-(2 ^ 63 + 1024) ≤ n ∧ n < -2 ^ 63 ∧ m ≤ -(2 ^ 63 - 512))

instance (n m : Int) : Decidable (MeetAtEnd n m) := inferInstanceAs (Decidable (_ ∨ _))

theorem IsNearest.beq_iff {n : Int} {a : Int64} {x y : Float} (hx : IsNearest n x)
    (hy : IsNearest a.toInt y) (hn : n < -2 ^ 63 ∨ 2 ^ 63 ≤ n) :
    (x == y) = true ↔ MeetAtEnd n a.toInt := by
  have hlow := a.le_toInt
  have hhigh := a.toInt_lt
  change x.toModel.unpack.beq y.toModel.unpack = true ↔ _
  rw [Unpacks.beq_iff hx hy (by omega) (by omega), MeetAtEnd]
  split <;> split <;> simp <;> omega

end CaseSuite.Number
