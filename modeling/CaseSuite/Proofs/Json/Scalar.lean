import CaseSuite.Json.Print
import CaseSuite.Json.Read
import CaseSuite.Proofs.Text.Utf8
import Mathlib.Tactic.Common
/-!
Numbers and strings of JSON documents, read back from what is printed for them. A number has no end
of its own, so that what follows a value must not go on with it.
-/
set_option autoImplicit false

namespace CaseSuite.Json

open Utf8 (encode encode_nil encode_append encode_cons encode_cons_of_lt)

/-- What may follow a value: the end of the document, a comma or a closing bracket. -/
inductive Ends : Bytes → Prop
  | nil : Ends []
  | comma (rest : Bytes) : Ends (0x2c :: rest)
  | list (rest : Bytes) : Ends (0x5d :: rest)
  | object (rest : Bytes) : Ends (0x7d :: rest)

/-! ### Numbers -/

theorem ofNat_isDigit {c : Char} (h : c.isDigit = true) :
    c.toNat < 0x80 ∧ isDigit (UInt8.ofNat c.toNat) = true ∧
      digit (UInt8.ofNat c.toNat) = c.toNat - '0'.toNat := by
  have hc := Char.isDigit_iff_toNat.mp h
  simp only [Char.reduceToNat] at hc
  simp [isDigit, digit, UInt8.le_iff_toNat_le, UInt8.toNat_ofNat']
  omega

theorem le_ofDigitChars (ds : List Char) (n : Nat) : n ≤ Nat.ofDigitChars 10 ds n := by
  induction ds generalizing n with
  | nil => simp
  | cons c ds ih =>
    have h := ih (10 * n + (c.toNat - '0'.toNat))
    rw [Nat.ofDigitChars_cons]
    omega

/-- Digits are taken as long as there are some: their number never outgrows the whole one. -/
theorem takeDigits_encode {rest : Bytes} (hr : Ends rest) (ds : List Char)
    (hd : ∀ c ∈ ds, c.isDigit = true) (n count : Nat)
    (hn : Nat.ofDigitChars 10 ds n < UInt64.size) :
    takeDigits n count (encode ds ++ rest) =
      (Nat.ofDigitChars 10 ds n, count + ds.length, rest) := by
  induction ds generalizing n count with
  | nil =>
    rw [Nat.ofDigitChars_nil, encode_nil, List.nil_append]
    cases hr <;> rfl
  | cons c ds ih =>
    obtain ⟨hlt, hdigit, hvalue⟩ := ofNat_isDigit (hd c List.mem_cons_self)
    rw [Nat.ofDigitChars_cons] at hn ⊢
    have hfits : n * 10 + digit (UInt8.ofNat c.toNat) < UInt64.size := by
      have hle := le_ofDigitChars ds (10 * n + (c.toNat - '0'.toNat))
      rw [hvalue]
      omega
    rw [encode_cons_of_lt hlt, List.cons_append, takeDigits, hdigit, Bool.true_and,
      if_pos (decide_eq_true hfits), hvalue, Nat.mul_comm n 10,
      ih (fun d hd' => hd d (List.mem_cons_of_mem c hd')) _ _ hn, List.length_cons,
      Nat.add_right_comm, Nat.add_assoc]

theorem exists_toDigits {n : Nat} (h : 0 < n) :
    ∃ c cs, Nat.toDigits 10 n = c :: cs ∧ c ≠ '0' := by
  induction n using Nat.strongRecOn with
  | ind n ih =>
    by_cases hlt : n < 10
    · refine ⟨n.digitChar, [], Nat.toDigits_of_lt_base hlt, ?_⟩
      rw [ne_eq, Nat.digitChar_eq_zero]
      omega
    · obtain ⟨c, cs, heq, hc⟩ := ih (n / 10) (by omega) (by omega)
      refine ⟨c, cs ++ [(n % 10).digitChar], ?_, hc⟩
      rw [Nat.toDigits_of_base_le (by decide) (by omega), heq, List.cons_append]

theorem readNumber_toDigits (negative : Bool) {n : Nat} (hn : n < UInt64.size) {rest : Bytes}
    (hr : Ends rest) : readNumber negative (encode (Nat.toDigits 10 n) ++ rest) =
      finishInteger negative n rest := by
  obtain rfl | hpos := Nat.eq_zero_or_pos n
  · rw [Nat.toDigits_zero]
    cases hr <;> rfl
  · obtain ⟨c, cs, heq, hc⟩ := exists_toDigits hpos
    have hdigits : ∀ d ∈ c :: cs, d.isDigit = true := by
      intro d hd
      exact Nat.isDigit_of_mem_toDigits (by decide) (by decide) (heq ▸ hd)
    obtain ⟨hlt, hdigit, hvalue⟩ := ofNat_isDigit (hdigits c List.mem_cons_self)
    have hzero : (UInt8.ofNat c.toNat == 0x30) = false := by
      rw [beq_eq_false_iff_ne]
      intro h
      have hnat := congrArg UInt8.toNat h
      rw [UInt8.toNat_ofNat_of_lt' (Nat.lt_trans hlt (by decide))] at hnat
      exact hc (Char.toNat_inj.mp hnat)
    have hwhole : Nat.ofDigitChars 10 cs (digit (UInt8.ofNat c.toNat)) = n := by
      have h := Nat.ofDigitChars_ten_toDigits (n := n)
      rw [heq, Nat.ofDigitChars_cons] at h
      simpa [hvalue] using h
    have htake := takeDigits_encode hr cs (fun d hd => hdigits d (List.mem_cons_of_mem c hd))
      (digit (UInt8.ofNat c.toNat)) 1 (by rw [hwhole]; exact hn)
    rw [heq, encode_cons_of_lt hlt, List.cons_append]
    simp only [readNumber, hzero, hdigit, htake, hwhole, Bool.false_eq_true, if_false, if_true]
    cases hr <;> rfl

theorem ne_of_isDigit {b d : UInt8} (hb : isDigit b = true) (hd : d.toNat < 0x30 ∨ 0x39 < d.toNat) :
    b ≠ d := by
  have hbound : 0x30 ≤ b.toNat ∧ b.toNat ≤ 0x39 := by
    simpa [isDigit, UInt8.le_iff_toNat_le] using hb
  rintro rfl
  omega

theorem isBlank_of_isDigit {b : UInt8} (hb : isDigit b = true) : isBlank b = false := by
  simp [isBlank, ne_of_isDigit hb]

theorem readValue_digit {b : UInt8} (hb : isDigit b = true) (fuel depth : Nat) (rest : Bytes) :
    readValue (fuel + 1) depth (b :: rest) = readNumber false (b :: rest) := by
  simp [readValue, skipBlanks, isBlank_of_isDigit hb, ne_of_isDigit hb, hb]

theorem exists_encode_toDigits (n : Nat) :
    ∃ b after, encode (Nat.toDigits 10 n) = b :: after ∧ isDigit b = true := by
  obtain ⟨c, cs, heq⟩ := List.exists_cons_of_ne_nil (Nat.toDigits_ne_nil (n := n) (b := 10))
  have hc : c.isDigit = true :=
    Nat.isDigit_of_mem_toDigits (b := 10) (by decide) (by decide) (heq ▸ List.mem_cons_self)
  obtain ⟨hlt, hdigit, _⟩ := ofNat_isDigit hc
  exact ⟨_, _, heq ▸ encode_cons_of_lt hlt cs, hdigit⟩

theorem finishInteger_natAbs (n : Int64) (rest : Bytes) :
    finishInteger (decide (n.toInt < 0)) n.toInt.natAbs rest = .ok (.int n, rest) := by
  have hlow := n.le_toInt
  have hhigh := n.toInt_lt
  by_cases hneg : n.toInt < 0
  · have hrange : ¬ (n.toInt.natAbs = 0 ∨ 0x8000_0000_0000_0000 < n.toInt.natAbs) := by omega
    have hvalue : -(n.toInt.natAbs : Int) = n.toInt := by omega
    simp only [finishInteger, decide_eq_true hneg, if_true, Bool.or_eq_true, beq_iff_eq,
      decide_eq_true_eq, if_neg hrange, hvalue, Int64.ofInt_toInt]
  · have hrange : n.toInt.natAbs < 0x8000_0000_0000_0000 := by omega
    have hvalue : (n.toInt.natAbs : Int) = n.toInt := by omega
    simp only [finishInteger, decide_eq_false hneg, Bool.false_eq_true, if_false, if_pos hrange,
      hvalue, Int64.ofInt_toInt]

theorem readValue_intChars (n : Int64) (fuel depth : Nat) {rest : Bytes} (hr : Ends rest) :
    readValue (fuel + 1) depth (encode (intChars n.toInt) ++ rest) = .ok (.int n, rest) := by
  have hfits : n.toInt.natAbs < UInt64.size := by
    have hlow := n.le_toInt
    have hhigh := n.toInt_lt
    rw [UInt64.size]
    omega
  have hread := readNumber_toDigits (decide (n.toInt < 0)) hfits hr
  rw [finishInteger_natAbs] at hread
  rw [intChars]
  split
  · rename_i hneg
    rw [decide_eq_true hneg] at hread
    rw [encode_cons_of_lt (by decide)]
    exact hread
  · rename_i hneg
    rw [decide_eq_false hneg] at hread
    obtain ⟨b, after, heq, hdigit⟩ := exists_encode_toDigits n.toInt.natAbs
    rw [heq, List.cons_append] at hread ⊢
    rw [readValue_digit hdigit, hread]

/-! ### Strings -/

/-- A byte that stands for itself in a string. -/
def IsRun (b : UInt8) : Prop := 0x20 ≤ b.toNat ∧ b ≠ 0x22 ∧ b ≠ 0x5c

theorem isRun_of_le {b : UInt8} (h : 0x80 ≤ b.toNat) : IsRun b := by
  refine ⟨by omega, ?_, ?_⟩ <;> rintro rfl <;> contradiction

theorem hexDigit_byte (n : Nat) : (Text.hexDigit n).toNat < 0x80 ∧
    hexValue (UInt8.ofNat (Text.hexDigit n).toNat) = some (n % 16) := by
  have hall : ∀ d < 16, d.digitChar.toNat < 0x80 ∧
      hexValue (UInt8.ofNat d.digitChar.toNat) = some d := by decide
  exact hall (n % 16) (Nat.mod_lt n (by decide))

/-- How a character is written: by a letter after a backslash, by its code, or as it is. -/
theorem escapedChar_cases (c : Char) :
    (∃ b, encode (escapedChar c) = [0x5c, b] ∧ b ≠ 0x75 ∧ escapeChar b = some c) ∨
      (c.toNat < 0x20 ∧ escapedChar c =
        ['\\', 'u', '0', '0', Text.hexDigit (c.toNat / 16), Text.hexDigit c.toNat]) ∨
      (escapedChar c = [c] ∧ ∀ b ∈ String.utf8EncodeChar c, IsRun b) := by
  unfold escapedChar
  simp only [beq_iff_eq]
  split_ifs with hquote hbackslash hn hr ht hb hf hcode
  · subst hquote
    exact .inl ⟨0x22, rfl, by decide, rfl⟩
  · subst hbackslash
    exact .inl ⟨0x5c, rfl, by decide, rfl⟩
  · subst hn
    exact .inl ⟨0x6e, rfl, by decide, rfl⟩
  · subst hr
    exact .inl ⟨0x72, rfl, by decide, rfl⟩
  · subst ht
    exact .inl ⟨0x74, rfl, by decide, rfl⟩
  · subst hb
    exact .inl ⟨0x62, rfl, by decide, rfl⟩
  · subst hf
    exact .inl ⟨0x66, rfl, by decide, rfl⟩
  · exact .inr (.inl ⟨hcode, rfl⟩)
  · refine .inr (.inr ⟨rfl, ?_⟩)
    intro b hmem
    by_cases hlt : c.toNat < 0x80
    · rw [Utf8.encodeChar_of_lt hlt, List.mem_singleton] at hmem
      have hnat : b.toNat = c.toNat := by
        rw [hmem, UInt8.toNat_ofNat_of_lt' (Nat.lt_trans hlt (by decide))]
      refine ⟨by omega, ?_, ?_⟩
      · rintro rfl
        exact hquote (Char.toNat_inj.mp hnat.symm)
      · rintro rfl
        exact hbackslash (Char.toNat_inj.mp hnat.symm)
    · exact isRun_of_le (Utf8.le_of_mem_encodeChar (by omega) hmem)

variable {start run : Bytes} {pending : List Char}

theorem readString_run (start : Bytes) (out : String) (rest : Bytes) {bs : Bytes}
    (h : ∀ b ∈ bs, IsRun b) (run : Bytes) :
    readString .text start run out (bs ++ rest) =
      readString .text start (bs.reverse ++ run) out rest := by
  induction bs generalizing run with
  | nil => rfl
  | cons b bs ih =>
    obtain ⟨hlow, hquote, hbackslash⟩ := h b List.mem_cons_self
    have hcontrol : ¬ b < 0x20 := by
      rw [UInt8.lt_iff_toNat_lt]
      exact Nat.not_lt.mpr hlow
    rw [List.cons_append, readString]
    simp only [beq_eq_false_iff_ne.mpr hquote, beq_eq_false_iff_ne.mpr hbackslash, Bool.or_false,
      Bool.false_eq_true, if_false, if_neg hcontrol]
    rw [ih (fun b' hb' => h b' (List.mem_cons_of_mem b hb')) (b :: run)]
    simp

theorem readString_quote (hrun : run.reverse = encode pending) (out : String) (rest : Bytes) :
    readString .text start run out (0x22 :: rest) = .ok (out ++ String.ofList pending, rest) := by
  simp [readString, hrun, Utf8.fromUTF8?_encode]

theorem readString_backslash (hrun : run.reverse = encode pending) (out : String) (rest : Bytes) :
    readString .text start run out (0x5c :: rest) =
      readString .escape rest [] (out ++ String.ofList pending) rest := by
  simp [readString, hrun, Utf8.fromUTF8?_encode]

theorem readString_letter {b : UInt8} {c : Char} (hb : b ≠ 0x75) (hc : escapeChar b = some c)
    (out : String) (rest : Bytes) : readString .escape start run out (b :: rest) =
      readString .text rest [] (out.push c) rest := by
  simp [readString, hb, hc]

theorem readString_code {c : Char} (hc : c.toNat < 0x20) (out : String) (rest : Bytes) :
    readString .escape start run out (encode ['u', '0', '0', Text.hexDigit (c.toNat / 16),
      Text.hexDigit c.toNat] ++ rest) = readString .text rest [] (out.push c) rest := by
  obtain ⟨hlt, hvalue⟩ := hexDigit_byte (c.toNat / 16)
  obtain ⟨hlt', hvalue'⟩ := hexDigit_byte c.toNat
  have hzero : hexValue 0x30 = some 0 := rfl
  have hcode : c.toNat / 16 % 16 * 16 + c.toNat % 16 = c.toNat := by omega
  have hlow : ¬ (0xdc00 ≤ c.toNat ∧ c.toNat ≤ 0xdfff) := by omega
  have hhigh : ¬ (0xd800 ≤ c.toNat ∧ c.toNat ≤ 0xdbff) := by omega
  rw [encode_cons_of_lt (by decide), encode_cons_of_lt (by decide), encode_cons_of_lt (by decide),
    encode_cons_of_lt hlt, encode_cons_of_lt hlt', encode_nil]
  simp [readString, hvalue, hvalue', hzero, hcode, hlow, hhigh]

/-- Induction on the characters that are still to be read: those before them that were written as
they are stand in the run, all others in the text so far. -/
theorem readString_encode (rest : Bytes) (cs : List Char) (start : Bytes)
    (hrun : run.reverse = encode pending) (out : String) :
    readString .text start run out (encode (cs.flatMap escapedChar) ++ 0x22 :: rest) =
      .ok (out ++ String.ofList (pending ++ cs), rest) := by
  induction cs generalizing start run pending out with
  | nil =>
    rw [List.flatMap_nil, encode_nil, List.nil_append, List.append_nil]
    exact readString_quote hrun out rest
  | cons c cs ih =>
    have hwhole : (out ++ String.ofList pending).push c ++ String.ofList ([] ++ cs) =
        out ++ String.ofList (pending ++ c :: cs) := by
      rw [← String.toList_inj]
      simp
    have hnone : List.reverse ([] : Bytes) = encode [] := rfl
    rw [List.flatMap_cons, encode_append, List.append_assoc]
    obtain ⟨b, heq, hb, hc⟩ | ⟨hc, heq⟩ | ⟨heq, hbytes⟩ := escapedChar_cases c
    · rw [heq, List.cons_append, List.cons_append, List.nil_append, readString_backslash hrun,
        readString_letter hb hc, ih _ hnone, hwhole]
    · rw [heq, encode_cons_of_lt (by decide), List.cons_append]
      exact (readString_backslash hrun out _).trans <|
        (readString_code hc _ _).trans <| (ih _ hnone _).trans (by rw [hwhole])
    · rw [heq, encode_cons, encode_nil, List.append_nil, readString_run start out _ hbytes]
      have hmore :
          ((String.utf8EncodeChar c).reverse ++ run).reverse = encode (pending ++ [c]) := by
        simp [hrun, encode_cons]
      rw [ih start hmore]
      simp

theorem encode_stringChars (s : String) (rest : Bytes) :
    encode (stringChars s) ++ rest =
      0x22 :: (encode (s.toList.flatMap escapedChar) ++ 0x22 :: rest) := by
  have hquote : encode ['"'] = [0x22] := rfl
  rw [stringChars, List.cons_append, encode_cons_of_lt (by decide), encode_append, hquote]
  simp

theorem readText_encode (s : String) (rest : Bytes) :
    readText (encode (s.toList.flatMap escapedChar) ++ 0x22 :: rest) = .ok (s, rest) := by
  have hnone : List.reverse ([] : Bytes) = encode [] := rfl
  rw [readText, readString_encode rest s.toList _ hnone, List.nil_append, String.ofList_toList,
    String.empty_append]

theorem readValue_stringChars (s : String) (fuel depth : Nat) (rest : Bytes) :
    readValue (fuel + 1) depth (encode (stringChars s) ++ rest) = .ok (.str s, rest) := by
  rw [encode_stringChars]
  calc readValue (fuel + 1) depth (0x22 :: (encode (s.toList.flatMap escapedChar) ++ 0x22 :: rest))
    _ = (readText (encode (s.toList.flatMap escapedChar) ++ 0x22 :: rest)).map
          fun r => (.str r.1, r.2) := rfl
    _ = .ok (.str s, rest) := by
          rw [readText_encode]
          rfl

end CaseSuite.Json
