import CaseSuite.Pattern.Match
import CaseSuite.Proofs.Decimal.Digits
/-!
Integers held against texts of whole numbers. A text that writes a machine integer is compared as
one; any other is compared as a float, and so numbers next to an end of the range are taken for it.
-/
set_option autoImplicit false

namespace CaseSuite

namespace Pattern

theorem numberHolds_int_iff {a : Int64} {s : String} {n : Int}
    (h : Number.Writes (Text.trim s.toList) n) :
    numberHolds s (.int a) = true ↔ n = a.toInt ∨ Number.MeetAtEnd n a.toInt := by
  have hread := h.readInt64_eq
  cases hn : Number.int64? n with
  | some b =>
    have hb : n = b.toInt := Number.int64?_eq_some_iff.mp hn
    have hlow := b.le_toInt
    have hhigh := b.toInt_lt
    have hmeet : ¬ Number.MeetAtEnd n a.toInt := by
      rw [Number.MeetAtEnd]
      omega
    rw [or_iff_left hmeet, hb, Int64.toInt_inj]
    simp only [numberHolds, hread, hn, beq_iff_eq]
  | none =>
    have hrange := Number.int64?_eq_none_iff.mp hn
    obtain ⟨x, hx, hnearest⟩ := h.exists_readFloat hrange
    have hne : n ≠ a.toInt := by
      have hlow := a.le_toInt
      have hhigh := a.toInt_lt
      omega
    rw [or_iff_right hne, ← hnearest.beq_iff (Number.isNearest_ofInt64 a) hrange]
    simp only [numberHolds, hread, hn, hx, Value.asFloat?]

theorem checkEqual_int_str {a : Int64} {s : String} :
    checkEqual (.int a) (.str s) = .ok () ↔ numberHolds s (.int a) = true := by
  change (if numberHolds s (.int a) = true then Except.ok () else Except.error _) = _ ↔ _
  split <;> simp [*]

/-- An integer is what a text of a whole number expects only if it is that number, or if both lie
next to the same end of the range of integers, on its two sides. -/
theorem checkEqual_wholeNumber {a : Int64} {s : String} {n : Int}
    (h : Number.Writes (Text.trim s.toList) n) :
    checkEqual (.int a) (.str s) = .ok () ↔ n = a.toInt ∨ Number.MeetAtEnd n a.toInt :=
  checkEqual_int_str.trans (numberHolds_int_iff h)

/-- The farthest text beyond the range that the greatest integer is taken for, and the next one. -/
theorem checkEqual_wholeNumber_beyond :
    (Number.Writes (Text.trim " +9223372036854776832 ".toList) (2 ^ 63 + 1024) ∧
      checkEqual (.int Int64.maxValue) (.str " +9223372036854776832 ") = .ok ()) ∧
    (Number.Writes (Text.trim "9223372036854776833".toList) (2 ^ 63 + 1025) ∧
      checkEqual (.int Int64.maxValue) (.str "9223372036854776833") ≠ .ok ()) := by
  have hnear : Number.Writes (Text.trim " +9223372036854776832 ".toList) (2 ^ 63 + 1024) :=
    .plus ⟨by decide, List.all_eq_true.mp (by decide), by decide⟩
  have hfar : Number.Writes (Text.trim "9223372036854776833".toList) (2 ^ 63 + 1025) :=
    .plain ⟨by decide, List.all_eq_true.mp (by decide), by decide⟩
  exact ⟨⟨hnear, (checkEqual_wholeNumber hnear).mpr (by decide)⟩,
    hfar, fun h => absurd ((checkEqual_wholeNumber hfar).mp h) (by decide)⟩

/-- The number after the greatest integer is taken for it. -/
theorem exists_checkEqual_not_exact :
    ¬ ∀ (a : Int64) (s : String) (n : Int), Number.Writes (Text.trim s.toList) n →
      (checkEqual (.int a) (.str s) = .ok () ↔ n = a.toInt) := by
  intro h
  have hwrites : Number.Writes (Text.trim "9223372036854775808".toList) (2 ^ 63) :=
    .plain ⟨by decide, List.all_eq_true.mp (by decide), by decide⟩
  have hok : checkEqual (.int Int64.maxValue) (.str "9223372036854775808") = .ok () :=
    checkEqual_int_str.mpr ((numberHolds_int_iff hwrites).mpr (by decide))
  exact absurd ((h Int64.maxValue _ _ hwrites).mp hok) (by decide)

end Pattern

end CaseSuite
