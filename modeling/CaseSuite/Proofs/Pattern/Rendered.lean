import CaseSuite.Proofs.Pattern.Encoded
import CaseSuite.Proofs.Pattern.Reflexive
/-!
Values under the bytes of their own text. Texts are compared with bytes as they are, and objects with
what the bytes are read as; no other value is ever held against bytes that way.
-/
set_option autoImplicit false

namespace CaseSuite

namespace Pattern

theorem compile_object_asksObject {es : Entries Value} {p : Pattern}
    (hl : (Value.object es).Literal) (h : compile (.object es) = .ok p) : p.AsksObject := by
  have hmark : firstMarker? es = none := firstMarker?_eq_none.mpr hl.1
  simp only [compile, compileAt, hmark] at h
  obtain ⟨fields, -, rfl⟩ := map_eq_ok.mp h
  trivial

theorem checkEqual_object_text {es : Entries Value} (hd : (Value.object es).Distinct)
    (hplain : (Value.object es).Plain) (hl : (Value.object es).Literal)
    (hdepth : (Value.object es).depth ≤ 127) :
    checkEqual (.bytes (Value.object es).text.toUTF8) (.object es) = .ok () := by
  obtain ⟨p, hp, hcheck⟩ := exists_compile_self hd hl
  have hread : Value.readJson (Value.object es).text.toUTF8 = .ok (Value.object es).normal :=
    Value.readJson_print hplain.noFloat hdepth
  have hnormal : p.checkAt [] (Value.object es).normal = .ok () :=
    (checkAt_normal p hd hplain []).trans hcheck
  rw [Value.normal_object] at hread hnormal
  refine bind_eq_ok.mpr ⟨p, hp, ?_⟩
  exact (checkAt_of_jsonText (compile_object_asksObject hl hp) rfl hread []).trans hnormal

theorem checkEqual_str_bytes (s : String) :
    checkEqual (.bytes s.toUTF8) (.str s) = .ok () := by
  have hsame : s.toUTF8.beq s.toUTF8 = true := by simp [ByteArray.beq]
  exact bind_eq_ok.mpr ⟨_, rfl, checkAt_literal_eq_ok.mpr (congrArg Except.ok hsame)⟩

theorem checkEqual_list_bytes (items : List Value) (bytes : ByteArray) :
    checkEqual (.bytes bytes) (.list items) ≠ .ok () := by
  intro h
  obtain ⟨p, hp, hcheck⟩ := bind_eq_ok.mp h
  -- bytes are never read where a list is asked for
  obtain ⟨ps, -, rfl⟩ := map_eq_ok.mp hp
  contradiction

theorem checkEqual_ne_ok {v : Value} {bytes : ByteArray}
    (hcompile : compile v = .ok (.literal v))
    (hdiffers : literalHolds [] v (.bytes bytes) = .ok false) :
    checkEqual (.bytes bytes) v ≠ .ok () := by
  rw [ne_eq, checkEqual_literal_eq_ok hcompile, hdiffers]
  exact fun h => Bool.false_ne_true (Except.ok.inj h)

/-- Of values without floats, bytes and instants, only texts and objects are expected of bytes with
success. -/
theorem checkEqual_text_iff {v : Value} (hd : v.Distinct) (hplain : v.Plain) (hl : v.Literal)
    (hdepth : v.depth ≤ 127) : checkEqual (.bytes v.text.toUTF8) v = .ok () ↔
      (∃ s, v = .str s) ∨ ∃ es, v = .object es := by
  cases v with
  | str s => exact iff_of_true (checkEqual_str_bytes s) (.inl ⟨s, rfl⟩)
  | object es => exact iff_of_true (checkEqual_object_text hd hplain hl hdepth) (.inr ⟨es, rfl⟩)
  | list items => exact iff_of_false (checkEqual_list_bytes items _) (by simp)
  | null => exact iff_of_false (checkEqual_ne_ok rfl rfl) (by simp)
  | bool b => exact iff_of_false (checkEqual_ne_ok rfl rfl) (by simp)
  | int n => exact iff_of_false (checkEqual_ne_ok rfl rfl) (by simp)
  | float _ | bytes _ | time _ =>
    exact absurd hplain (by simp [Value.Plain, Value.Every, Value.IsPlain, Value.kind])

end Pattern

end CaseSuite
