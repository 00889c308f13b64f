import CaseSuite.Proofs.Text.Utf8
import Mathlib.Data.String.Basic
import Mathlib.Tactic.IntervalCases
/-!
Texts in the order of their characters are in the order of their bytes, too: the first byte of a
character tells how many follow, a larger one if there are more, and all of them spell its number
from the highest digits down.
-/
set_option autoImplicit false

namespace CaseSuite.Utf8

/-- The last bytes of a character, six bits of its number in each. -/
def continuation (n : Nat) : (count : Nat) → List UInt8
  | 0 => []
  | count + 1 => UInt8.ofNat (n / 64 ^ count % 64 + 0x80) :: continuation n count

/-- What is added to the highest bits of a character in its first byte. -/
def leadMark : (count : Nat) → Nat
  | 0 => 0
  | 1 => 0xc0
  | 2 => 0xe0
  | 3 => 0xf0
  | _ => 0x100

/-- The least number of a character with so many bytes after the first one. -/
def leastOf : (count : Nat) → Nat
  | 0 => 0
  | 1 => 0x80
  | 2 => 0x800
  | 3 => 0x10000
  | _ => 0x110000

theorem cons_ofNat_lt_cons {m n : Nat} (hn : n < 0x100) {xs ys : List UInt8}
    (h : m < n ∨ m = n ∧ xs < ys) : UInt8.ofNat m :: xs < UInt8.ofNat n :: ys := by
  rw [List.cons_lt_cons_iff]
  refine h.imp (fun hlt => ?_) fun ⟨heq, hrest⟩ => ⟨congrArg _ heq, hrest⟩
  rw [UInt8.lt_iff_toNat_lt, UInt8.toNat_ofNat', UInt8.toNat_ofNat']
  omega

theorem div_lt_or_mod_lt (base : Nat) {m n : Nat} (h : m < n) :
    m / base < n / base ∨ m / base = n / base ∧ m % base < n % base := by
  have hm := Nat.div_add_mod m base
  have hn := Nat.div_add_mod n base
  obtain hlt | heq := Nat.lt_or_eq_of_le (Nat.div_le_div_right (c := base) (Nat.le_of_lt h))
  · exact .inl hlt
  · rw [heq] at hm
    exact .inr ⟨heq, by omega⟩

theorem continuation_append_lt {m n count : Nat} (h : m % 64 ^ count < n % 64 ^ count)
    (xs ys : List UInt8) : continuation m count ++ xs < continuation n count ++ ys := by
  induction count with
  | zero => simp [Nat.mod_one] at h
  | succ count ih =>
    refine cons_ofNat_lt_cons (by omega) ?_
    have hdigits := div_lt_or_mod_lt (64 ^ count) h
    rw [Nat.pow_succ, Nat.mod_mul_right_div_self, Nat.mod_mul_right_div_self,
      Nat.mod_mul_right_mod, Nat.mod_mul_right_mod] at hdigits
    exact hdigits.imp (by omega) fun ⟨heq, hlt⟩ => ⟨by omega, ih hlt⟩

theorem leadMark_le : ∀ n ≤ 4, ∀ m ≤ n, leadMark m ≤ leadMark n := by decide

theorem leastOf_le : ∀ n ≤ 4, ∀ m ≤ n, leastOf m ≤ leastOf n := by decide

theorem lead_lt {n count : Nat} (hcount : count < 4) (h : n < leastOf (count + 1)) :
    n / 64 ^ count + leadMark count < leadMark (count + 1) := by
  interval_cases count <;> simp only [leastOf, leadMark] at h ⊢ <;> omega

theorem toNat_lt_leastOf (c : Char) : c.toNat < leastOf 4 := by
  have hvalid := c.valid
  simp only [UInt32.isValidChar, Nat.isValidChar] at hvalid
  show c.val.toNat < 0x110000
  omega

theorem exists_encodeChar_eq (c : Char) : ∃ count < 4, leastOf count ≤ c.toNat ∧
    c.toNat < leastOf (count + 1) ∧ String.utf8EncodeChar c =
      UInt8.ofNat (c.toNat / 64 ^ count + leadMark count) :: continuation c.toNat count := by
  have hvalid : c.toNat < 0x110000 := toNat_lt_leastOf c
  have hval : c.val.toNat = c.toNat := rfl
  rw [String.utf8EncodeChar.eq_1, hval]
  split
  · refine ⟨0, by decide, Nat.zero_le _, Nat.lt_succ_of_le ‹_›, ?_⟩
    simp [leadMark, continuation]
  split
  · refine ⟨1, by decide, Nat.lt_of_not_le ‹_›, Nat.lt_succ_of_le ‹_›, ?_⟩
    have hlead : c.toNat / 64 < 32 := by omega
    simp [leadMark, continuation, Nat.mod_eq_of_lt hlead]
  split
  · refine ⟨2, by decide, Nat.lt_of_not_le ‹_›, Nat.lt_succ_of_le ‹_›, ?_⟩
    have hlead : c.toNat / 4096 < 16 := by omega
    simp [leadMark, continuation, Nat.mod_eq_of_lt hlead]
  · refine ⟨3, by decide, Nat.lt_of_not_le ‹_›, hvalid, ?_⟩
    have hlead : c.toNat / 262144 < 8 := by omega
    simp [leadMark, continuation, Nat.mod_eq_of_lt hlead]

theorem encodeChar_append_lt {c d : Char} (h : c < d) (xs ys : List UInt8) :
    String.utf8EncodeChar c ++ xs < String.utf8EncodeChar d ++ ys := by
  have hlt : c.toNat < d.toNat := h
  obtain ⟨m, hm, hleastC, hmostC, hc⟩ := exists_encodeChar_eq c
  obtain ⟨n, hn, hleastD, hmostD, hd⟩ := exists_encodeChar_eq d
  have hleadC := lead_lt hm hmostC
  have hleadD := lead_lt hn hmostD
  have hbyte : d.toNat / 64 ^ n + leadMark n < 0x100 :=
    Nat.lt_of_lt_of_le hleadD (leadMark_le 4 (Nat.le_refl _) _ hn)
  rw [hc, hd]
  refine cons_ofNat_lt_cons hbyte ?_
  -- more bytes have a larger first one, and fewer cannot spell the larger number
  obtain hless | rfl | hmore := Nat.lt_trichotomy m n
  · have hmark : leadMark (m + 1) ≤ leadMark n := leadMark_le n (Nat.le_of_lt hn) _ hless
    exact .inl (Nat.lt_of_lt_of_le hleadC (hmark.trans (Nat.le_add_left ..)))
  · have hdigits := div_lt_or_mod_lt (64 ^ m) hlt
    exact hdigits.imp (by omega)
      fun ⟨heq, hrest⟩ => ⟨by omega, continuation_append_lt hrest xs ys⟩
  · have hleast : leastOf (n + 1) ≤ leastOf m := leastOf_le m (Nat.le_of_lt hm) _ hmore
    omega

theorem encode_lt {cs ds : List Char} (h : cs < ds) : encode cs < encode ds := by
  induction h with
  | @nil d ds =>
    obtain ⟨_, _, _, _, hd⟩ := exists_encodeChar_eq d
    rw [encode_cons, hd]
    exact List.nil_lt_cons ..
  | rel h =>
    rw [encode_cons, encode_cons]
    exact encodeChar_append_lt h ..
  | cons _ ih =>
    rw [encode_cons, encode_cons]
    exact List.append_left_lt ih

theorem bytes_lt {s t : String} (h : s < t) : s.toUTF8.data.toList < t.toUTF8.data.toList := by
  rw [toList_toUTF8, toList_toUTF8]
  exact encode_lt (String.lt_iff_toList_lt.mp h)

theorem bytes_lt_iff {s t : String} :
    s.toUTF8.data.toList < t.toUTF8.data.toList ↔ s < t := by
  refine ⟨fun h => ?_, bytes_lt⟩
  obtain hlt | rfl | hgt := lt_trichotomy s t
  · exact hlt
  · exact absurd h (List.lt_irrefl _)
  · exact absurd h (List.lt_asymm (bytes_lt hgt))

end CaseSuite.Utf8
