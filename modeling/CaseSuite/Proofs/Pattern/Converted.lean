import CaseSuite.Proofs.Pattern.Difference
import CaseSuite.Proofs.Pattern.Edited
/-!
Patterns for objects beside the same patterns under a conversion from JSON. Both read a text of
JSON, and what is converted is held against a pattern that reads texts once more. So they differ on
a text that is encoded twice, and on nothing else.
-/
set_option autoImplicit false

namespace CaseSuite

namespace Value

theorem asObject?_eq_some {v : Value} {es : Entries Value} :
    v.asObject? = some es ↔ v = .object es := by
  cases v <;> simp [asObject?]

theorem asObject?_of_jsonText? {v : Value} {text : ByteArray}
    (htext : Pattern.jsonText? v = some text) : v.asObject? = none := by
  cases v <;> first | rfl | contradiction

theorem heldObject?_of_jsonText? {v : Value} {text : ByteArray} {es : Entries Value}
    (htext : Pattern.jsonText? v = some text) :
    v.heldObject? = some es ↔ readJson text = .ok (.object es) := by
  simp only [heldObject?, asObject?_of_jsonText? htext, htext]
  cases hread : readJson text with
  | error e => simp [hread, Except.toOption]
  | ok w => simp [hread, Except.toOption, asObject?_eq_some]

theorem object_or_str_of_heldObject? {j : Json} {es : Entries Value}
    (h : (ofJson j).heldObject? = some es) :
    ofJson j = .object es ∨ ∃ s, ofJson j = .str s := by
  cases j with
  | object members => exact .inl (congrArg Value.object (Option.some.inj h))
  | str s => exact .inr ⟨s, rfl⟩
  | null | bool _ | int _ | float _ | list _ =>
    simp [ofJson, heldObject?, asObject?, Pattern.jsonText?] at h

end Value

namespace Pattern

variable {fields : List (String × Pattern)} {v : Value} {text : ByteArray}

theorem accepts_object_iff : (Pattern.object fields).Accepts v ↔
    ∃ es, v.heldObject? = some es ∧ (Pattern.object fields).Accepts (.object es) := by
  simp only [Accepts, check, checkAt_object_eq_ok, Value.heldObject?_object, Option.some.injEq,
    exists_eq_left']

theorem accepts_object_text_iff (htext : jsonText? v = some text) :
    (Pattern.object fields).Accepts v ↔
      ∃ es, Value.readJson text = .ok (.object es) ∧
        (Pattern.object fields).Accepts (.object es) := by
  rw [accepts_object_iff]
  exact exists_congr fun es => and_congr_left fun _ => Value.heldObject?_of_jsonText? htext

/-- What is converted is held against the inner pattern as the value that its text is read as. -/
theorem accepts_json_text_iff {inner : Pattern} (htext : jsonText? v = some text) :
    (Pattern.json inner).Accepts v ↔ ∃ w, Value.readJson text = .ok w ∧ inner.Accepts w := by
  simp only [Accepts, check, checkAt, Value.asObject?_of_jsonText? htext, htext, bind_eq_ok,
    decode_eq_ok]

theorem accepts_json_iff_of_no_text (htext : jsonText? v = none) :
    (Pattern.json (.object fields)).Accepts v ↔ (Pattern.object fields).Accepts v := by
  simp only [Accepts, check, checkAt, htext]
  cases v.asObject? <;> simp

theorem accepts_json_object_text_iff (htext : jsonText? v = some text) :
    (Pattern.json (.object fields)).Accepts v ↔
      (∃ es, Value.readJson text = .ok (.object es) ∧
        (Pattern.object fields).Accepts (.object es)) ∨
      ∃ s es, Value.readJson text = .ok (.str s) ∧
        Value.readJson s.toUTF8 = .ok (.object es) ∧
        (Pattern.object fields).Accepts (.object es) := by
  rw [accepts_json_text_iff htext]
  constructor
  · rintro ⟨w, hread, hw⟩
    obtain ⟨es, hheld, hes⟩ := accepts_object_iff.mp hw
    obtain ⟨j, -, rfl⟩ := map_eq_ok.mp hread
    obtain hobject | ⟨s, hstr⟩ := Value.object_or_str_of_heldObject? hheld
    · rw [hobject] at hread
      exact .inl ⟨es, hread, hes⟩
    · rw [hstr] at hread hheld
      exact .inr ⟨s, es, hread, (Value.heldObject?_of_jsonText? rfl).mp hheld, hes⟩
  · rintro (⟨es, hread, hes⟩ | ⟨s, es, hread, hinner, hes⟩)
    · exact ⟨.object es, hread, hes⟩
    · exact ⟨.str s, hread, (accepts_object_text_iff rfl).mpr ⟨es, hinner, hes⟩⟩

/-- The format among the entries of an object without markers turns its pattern into the converted
one. -/
theorem compileAt_convert {place : Place} {before after : Entries Value}
    (h : compileAt place (.object (before ++ after)) = .ok (.object fields)) :
    compileAt place (.object (before ++ ("$$_convert", .str "json") :: after)) =
      .ok (.json (.object fields)) := by
  rw [compileAt_object_eq_ok] at h ⊢
  cases h with
  | plain hplain hfields =>
    have hmissing : "$$_convert" ∉ Entries.names (before ++ after) := fun hmem => by
      have hmarker := hplain _ hmem
      rw [isMarkerKey_convert] at hmarker
      contradiction
    refine .json ?_ ?_ (compileFields_skipped.mpr ?_)
    · rw [Entries.names_append, List.mem_append, not_or] at hmissing
      rw [Entries.find?_append, Entries.find?_eq_none.mpr hmissing.1, Entries.find?_cons,
        if_pos rfl]
      rfl
    · rintro ⟨other, hother, hne, hmarker⟩
      have hmem : other ∈ Entries.names (before ++ after) := by
        rw [Entries.names_append, Entries.names_cons, List.mem_append, List.mem_cons] at hother
        rw [Entries.names_append, List.mem_append]
        exact hother.imp_right fun h => h.resolve_left hne
      rw [hplain other hmem] at hmarker
      contradiction
    · have hkeep : (before ++ after).filter (fun e => some "$$_convert" != some e.1) =
          (before ++ after).filter fun e => none != some e.1 := by
        refine List.filter_congr fun e he => ?_
        have hne : "$$_convert" ≠ e.1 := fun heq => hmissing (heq ▸ Entries.mem_names_of_mem he)
        exact bne_iff_ne.mpr (mt Option.some.inj hne)
      rwa [compileFields_eq_ok, hkeep, ← compileFields_eq_ok]

/-- An object pattern and the same one under a conversion. Whatever passes the plain one passes the
converted one, and what is no text passes both or neither. Of a text the plain pattern asks for an
object, and the converted one for an object or a string that is the text of an object. -/
theorem accepts_convert {place : Place} {before after : Entries Value}
    (h : compileAt place (.object (before ++ after)) = .ok (.object fields)) :
    compileAt place (.object (before ++ ("$$_convert", .str "json") :: after)) =
        .ok (.json (.object fields)) ∧
      ∀ v, ((Pattern.object fields).Accepts v → (Pattern.json (.object fields)).Accepts v) ∧
        (jsonText? v = none →
          ((Pattern.json (.object fields)).Accepts v ↔ (Pattern.object fields).Accepts v)) ∧
        ∀ text, jsonText? v = some text →
          ((Pattern.object fields).Accepts v ↔ ∃ es, Value.readJson text = .ok (.object es) ∧
            (Pattern.object fields).Accepts (.object es)) ∧
          ((Pattern.json (.object fields)).Accepts v ↔
            (∃ es, Value.readJson text = .ok (.object es) ∧
              (Pattern.object fields).Accepts (.object es)) ∨
            ∃ s es, Value.readJson text = .ok (.str s) ∧
              Value.readJson s.toUTF8 = .ok (.object es) ∧
              (Pattern.object fields).Accepts (.object es)) := by
  refine ⟨compileAt_convert h, fun v => ⟨fun hv => ?_, accepts_json_iff_of_no_text,
    fun text htext => ⟨accepts_object_text_iff htext, accepts_json_object_text_iff htext⟩⟩⟩
  cases htext : jsonText? v with
  | none => exact (accepts_json_iff_of_no_text htext).mpr hv
  | some text =>
    exact (accepts_json_object_text_iff htext).mpr (.inl ((accepts_object_text_iff htext).mp hv))

/-- The text of a text of an object: only the converted pattern reads it. -/
theorem accepts_convert_encodedTwice :
    let plain := Pattern.object [("user", .literal (.str "alice"))]
    let v := Value.str "\"\x7b\\\"user\\\":\\\"alice\\\"\x7d\""
    compile (.object [("user", .str "alice")]) = .ok plain ∧
      compile (.object [("user", .str "alice"), ("$$_convert", .str "json")]) =
        .ok (.json plain) ∧
      ¬ plain.Accepts v ∧ (Pattern.json plain).Accepts v := by
  intro plain v
  have hplain : compile (.object [("user", .str "alice")]) = .ok plain := rfl
  have hread : Value.readJson "\"\x7b\\\"user\\\":\\\"alice\\\"\x7d\"".toUTF8 =
      .ok (.str "\x7b\"user\":\"alice\"\x7d") := rfl
  have hinner : Value.readJson "\x7b\"user\":\"alice\"\x7d".toUTF8 =
      .ok (.object [("user", .str "alice")]) := rfl
  obtain ⟨hconvert, hv⟩ := @accepts_convert _ [] [("user", .str "alice")] [] hplain
  obtain ⟨-, -, htext⟩ := hv v
  obtain ⟨hobject, hjson⟩ := htext _ rfl
  refine ⟨hplain, hconvert, ?_, hjson.mpr (.inr ⟨_, _, hread, hinner, rfl⟩)⟩
  rw [hobject, hread]
  rintro ⟨es, h, -⟩
  cases h

end Pattern

end CaseSuite
