import CaseSuite.Proofs.Decimal.Nearest
/-!
Texts of whole numbers: what a run of digits with at most one sign writes is what is read from it,
as a machine integer where it is one, and as the nearest float where it is larger.
-/
set_option autoImplicit false

namespace CaseSuite.Number

/-- A non-empty run of digits, and the number that it writes. -/
structure Digits (ds : List Char) (n : Nat) : Prop where
  nonempty : ds ≠ []
  digits : ∀ c ∈ ds, c.isDigit = true
  value : Nat.ofDigitChars 10 ds 0 = n

/-- The number that a run of digits writes, with at most one sign before it. -/
inductive Writes : List Char → Int → Prop
  | plain {ds : List Char} {n : Nat} : Digits ds n → Writes ds n
  | plus {ds : List Char} {n : Nat} : Digits ds n → Writes ('+' :: ds) n
  | minus {ds : List Char} {n : Nat} : Digits ds n → Writes ('-' :: ds) (-n)

theorem readOnto_eq {ds : List Char} (hds : ∀ c ∈ ds, c.isDigit = true) (n : Nat) :
    readOnto 10 n ds = some (Nat.ofDigitChars 10 ds n) := by
  induction ds generalizing n with
  | nil => rw [readOnto, Nat.ofDigitChars_nil]
  | cons c ds ih =>
    have hc := hds c List.mem_cons_self
    have hvalue : digitValue c = some (c.toNat - '0'.toNat) := if_pos hc
    have hlt : c.toNat - '0'.toNat < 10 := by
      have hrange := Char.isDigit_iff_toNat.mp hc
      simp only [Char.reduceToNat] at hrange ⊢
      omega
    simp only [readOnto, hvalue, if_pos hlt]
    rw [ih (fun d hd => hds d (List.mem_cons_of_mem c hd)), Nat.ofDigitChars_cons, Nat.mul_comm]

variable {ds cs : List Char} {n : Nat}

theorem Digits.readNat_eq (h : Digits ds n) : readNat 10 ds = some n := by
  cases ds with
  | nil => exact absurd rfl h.nonempty
  | cons c ds =>
    rw [readNat, readOnto_eq h.digits, h.value]
    exact List.cons_ne_nil c ds

theorem digitValue_lt_ten {c : Char} {d : Nat} (h : digitValue c = some d) (hd : d < 10) :
    c.isDigit = true := by
  by_contra hc
  rw [digitValue, if_neg hc] at h
  split at h
  · simp only [Option.some.injEq] at h
    omega
  · split at h
    · simp only [Option.some.injEq] at h
      omega
    · contradiction

theorem digits_of_readOnto {ds : List Char} {n m : Nat} (h : readOnto 10 n ds = some m) :
    ∀ c ∈ ds, c.isDigit = true := by
  induction ds generalizing n with
  | nil => simp
  | cons c ds ih =>
    rw [readOnto] at h
    split at h
    · rename_i d hvalue
      split at h
      · rename_i hd
        exact List.forall_mem_cons.mpr ⟨digitValue_lt_ten hvalue hd, ih h⟩
      · contradiction
    · contradiction

theorem readNat_eq_some {ds : List Char} {n : Nat} : readNat 10 ds = some n ↔ Digits ds n := by
  refine ⟨fun h => ?_, Digits.readNat_eq⟩
  cases ds with
  | nil => contradiction
  | cons c ds =>
    rw [readNat] at h
    · have hdigits := digits_of_readOnto h
      rw [readOnto_eq hdigits] at h
      exact ⟨List.cons_ne_nil c ds, hdigits, Option.some.inj h⟩
    · exact List.cons_ne_nil c ds

theorem digits_repr (n : Nat) : Digits n.repr.toList n := by
  rw [Nat.toList_repr]
  exact ⟨Nat.toDigits_ne_nil,
    fun c hc => Nat.isDigit_of_mem_toDigits (by decide) (by decide) hc, Nat.ofDigitChars_ten_toDigits⟩

theorem Digits.readUnsigned_eq (h : Digits ds n) : readUnsigned ds = some (nearest ⟨n, 0⟩) := by
  have htake : ds.takeWhile Char.isDigit = ds := List.takeWhile_eq_self_iff.mpr h.digits
  have hdrop : ds.dropWhile Char.isDigit = [] := List.dropWhile_eq_nil_iff.mpr h.digits
  have hdigits : digitsOf ds = n := by
    rw [digitsOf, readOnto_eq h.digits, h.value, Option.getD_some]
  simp [readUnsigned, readDecimal, htake, hdrop, h.nonempty, readExponent, hdigits]

theorem Digits.signless (h : Digits ds n) (rest : List Char) :
    ds ≠ '+' :: rest ∧ ds ≠ '-' :: rest := by
  constructor <;> rintro rfl <;> exact absurd (h.digits _ List.mem_cons_self) (by decide)

theorem Writes.readInt_eq {n : Int} (h : Writes cs n) : readInt 10 cs = some n := by
  cases h with
  | plain hds =>
    rw [readInt, hds.readNat_eq, Option.map_some]
    · rfl
    · exact fun _ hrest => (hds.signless _).1 hrest
    · exact fun _ hrest => (hds.signless _).2 hrest
  | plus hds => rw [readInt, hds.readNat_eq, Option.map_some, Int.ofNat_eq_natCast]
  | minus hds =>
    rw [readInt, hds.readNat_eq]
    rfl

theorem Writes.readInt64_eq {n : Int} (h : Writes cs n) : readInt64 cs = int64? n := by
  rw [readInt64, h.readInt_eq, Option.bind_some]

theorem int64?_eq_some_iff {n : Int} {a : Int64} : int64? n = some a ↔ n = a.toInt := by
  have hlow := a.le_toInt
  have hhigh := a.toInt_lt
  unfold int64?
  split
  case isTrue hrange =>
    rw [Option.some_inj]
    constructor
    · rintro rfl
      exact (Int64.toInt_ofInt_of_le (by omega) (by omega)).symm
    · rintro rfl
      exact Int64.ofInt_toInt a
  case isFalse hrange =>
    simp only [reduceCtorEq, false_iff]
    omega

theorem int64?_eq_none_iff {n : Int} : int64? n = none ↔ n < -2 ^ 63 ∨ 2 ^ 63 ≤ n := by
  rw [int64?, ite_eq_right_iff]
  simp only [reduceCtorEq, imp_false]
  omega

/-- Out of the range of machine integers, the float that is read is the nearest one. -/
theorem Writes.exists_readFloat {n : Int} (h : Writes cs n) (hn : n < -2 ^ 63 ∨ 2 ^ 63 ≤ n) :
    ∃ x, readFloat cs = some x ∧ IsNearest n x := by
  cases h with
  | @plain ds n hds =>
    refine ⟨nearest ⟨n, 0⟩, ?_, isNearest_nearest (by omega)⟩
    rw [readFloat, hds.readUnsigned_eq]
    · exact fun _ hrest => (hds.signless _).1 hrest
    · exact fun _ hrest => (hds.signless _).2 hrest
  | @plus ds n hds =>
    refine ⟨nearest ⟨n, 0⟩, ?_, isNearest_nearest (by omega)⟩
    rw [readFloat, hds.readUnsigned_eq]
  | @minus ds n hds =>
    refine ⟨-nearest ⟨n, 0⟩, ?_, (isNearest_nearest (by omega)).neg (by omega)⟩
    rw [readFloat, hds.readUnsigned_eq, Option.map_some]

end CaseSuite.Number
