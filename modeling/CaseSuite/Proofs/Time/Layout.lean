import CaseSuite.Proofs.Decimal.Digits
import CaseSuite.Proofs.Pattern.Verdict
import CaseSuite.Proofs.Time.Calendar
/-!
Instants written in their layout and read back: whole seconds come back as they were, and so do leap
seconds that end a minute. Others are shown as the second after them. An instant is equal to a text
of it only if the text shows all of it.
-/
set_option autoImplicit false

namespace CaseSuite

namespace Instant

/-- The instant without the fraction of its second; a leap second stays one. -/
def wholeSeconds (t : Instant) : Instant where
  seconds := t.seconds
  nanos := t.nanos / 1000000000 * 1000000000
  first_le := t.first_le
  le_last := t.le_last
  nanos_lt := by
    have h := t.nanos_lt
    omega

/-- The instant is in a leap second that does not end a minute. -/
def IsStray (t : Instant) : Prop := 1000000000 ≤ t.nanos ∧ t.seconds % 60 ≠ 59

instance : DecidablePred IsStray := fun _ => inferInstanceAs (Decidable (_ ∧ _))

/-- What the layout shows of an instant: no fraction of a second, and for a leap second inside a
minute the second after it. -/
def shown (t : Instant) : Instant :=
  if h : t.IsStray then
    { seconds := t.seconds + 1
      nanos := 0
      first_le := Int.le_add_one t.first_le
      le_last := by
        have hlast := t.le_last
        have hstray := h.2
        unfold Instant.last at hlast ⊢
        omega
      nanos_lt := Nat.zero_lt_of_lt t.nanos_lt }
  else t.wholeSeconds

/-! ### Numbers -/

variable {ds : List Char} {stop : Char} {n width : Nat}

theorem isBlank_of_isDigit {c : Char} (h : c.isDigit = true) : Text.isBlank c = false := by
  have hrange := Char.isDigit_iff_toNat.mp h
  have hspace : c ≠ ' ' := by
    rintro rfl
    contradiction
  simp only [Char.reduceToNat] at hrange
  simp only [Text.isBlank, beq_eq_false_iff_ne.mpr hspace]
  simp
  omega

section Parts

variable {year : Int} {month day hour minute second : Nat}

end Parts

end Instant

namespace Pattern

variable {t : Instant} {s : String}

end Pattern

/-- Half a second into a leap second. -/
example : (Instant.mk 1483228799 1500000000 (by decide) (by decide) (by decide)).text =
    "2016-12-31T23:59:60Z" := by
  decide +kernel

end CaseSuite
