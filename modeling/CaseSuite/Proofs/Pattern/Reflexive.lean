import CaseSuite.Proofs.Marker
import CaseSuite.Proofs.Pattern.Verdict
import CaseSuite.Proofs.Pattern.KeyOrder
import CaseSuite.Proofs.Value.Normal
/-!
A value passes the pattern that it stands for itself. Two kinds of parts are in the way of that: a
float that is not a number differs from itself, and an object with a marker key stands for a
condition instead of an object.
-/
set_option autoImplicit false

namespace CaseSuite

theorem float_beq_self {x : Float} (h : x.isNaN = false) : (x == x) = true := by
  have hnan : x.toModel.unpack.isNaN = false := h
  have hcompare : x.toModel.unpack.compare x.toModel.unpack = some .eq := by
    generalize x.toModel.unpack = u at hnan
    cases u with
    | notANumber => cases hnan
    | infinity sign => cases sign <;> rfl
    | zero _ => rfl
    | finite sign m e _ =>
      have hparts : (compare e e).then (compare m m) = .eq := by simp
      cases sign with
      | positive => exact congrArg some hparts
      | negative => exact congrArg (fun order => some order.swap) hparts
  change (x.toModel.unpack.compare x.toModel.unpack == some .eq) = true
  rw [hcompare]
  rfl

namespace Value

/-- A part that stands for itself: no float that is not a number, and no object with a marker. -/
def IsLiteral : Value → Prop
  | .float x => x.isNaN = false
  | .object es => ∀ key ∈ Entries.names es, isMarkerKey key = false
  | _ => True

def Literal (v : Value) : Prop := v.Every IsLiteral

end Value

namespace Pattern

def Passes (p : Pattern) (v : Value) : Prop := ∀ place, checkAt place p v = .ok ()

theorem passes_list {ps : List Pattern} {vs : List Value} (h : List.Forall₂ Passes ps vs) :
    Passes (.list ps) (.list vs) := by
  have hitems : ∀ place index, checkItems place index ps vs = .ok () := by
    induction h with
    | nil => exact fun _ _ => rfl
    | cons hpv _ ih => exact fun place index => checkItems_cons_eq_ok.mpr ⟨hpv _, ih place _⟩
  intro place
  simp [checkAt, Value.asList?, h.length_eq, hitems]

/-- Every field is passed by what stands under its key. -/
def FieldsPass (fields : List (String × Pattern)) (es : Entries Value) : Prop :=
  ∀ field ∈ fields, ∃ v, (field.1, v) ∈ es ∧ Passes field.2 v

theorem passes_object {fields : List (String × Pattern)} {es : Entries Value} (hd : es.Distinct)
    (h : FieldsPass fields es) : Passes (.object fields) (.object es) := by
  intro place
  refine checkAt_object_eq_ok.mpr ⟨es, rfl, fun field hfield => ?_⟩
  obtain ⟨v, hv, hpass⟩ := h field hfield
  simpa [FieldHolds, hd.find?_of_mem hv] using hpass _

mutual

theorem compileAt_passes {place : Place} : (v : Value) → v.Distinct → v.Literal →
    ∃ p, compileAt place v = .ok p ∧ Passes p v
  | .list items, hd, hl => by
    obtain ⟨ps, hps, hpass⟩ := compileItems_passes items hd hl.2
    exact ⟨.list ps, map_eq_ok.mpr ⟨ps, hps, rfl⟩, passes_list hpass⟩
  | .object es, hd, hl => by
    obtain ⟨fields, hfields, hpass⟩ := compileFields_passes es hd hl.2
    refine ⟨.object fields, ?_, passes_object (entriesDistinct_names hd) hpass⟩
    have hmark : firstMarker? es = none := firstMarker?_eq_none.mpr hl.1
    simpa [compileAt, hmark] using map_eq_ok.mpr ⟨fields, hfields, rfl⟩
  | .float x, _, hl => by
    refine ⟨_, rfl, fun place => checkAt_literal_eq_ok.mpr ?_⟩
    simp [literalHolds, sameNumber, Value.asFloat?, float_beq_self hl]
  | .bytes b, _, _ => by
    have hsame : b.beq b = true := by simp [ByteArray.beq]
    exact ⟨_, rfl, fun place => checkAt_literal_eq_ok.mpr (congrArg Except.ok hsame)⟩
  | .null, _, _ | .bool _, _, _ | .int _, _, _ | .str _, _, _ | .time _, _, _ =>
    ⟨_, rfl, fun place => checkAt_literal_eq_ok.mpr (by simp [literalHolds, Value.same])⟩

theorem compileItems_passes {place : Place} {index : Nat} : (vs : List Value) → itemsDistinct vs →
    itemsEvery Value.IsLiteral vs →
    ∃ ps, compileItems place index vs = .ok ps ∧ List.Forall₂ Passes ps vs
  | [], _, _ => ⟨[], rfl, .nil⟩
  | v :: vs, hd, hl => by
    obtain ⟨p, hp, hpass⟩ := compileAt_passes v hd.1 hl.1
    obtain ⟨ps, hps, hpasses⟩ := compileItems_passes vs hd.2 hl.2
    exact ⟨p :: ps, bind_eq_ok.mpr ⟨p, hp, bind_eq_ok.mpr ⟨ps, hps, rfl⟩⟩, .cons hpass hpasses⟩

theorem compileFields_passes {place : Place} : (es : List (String × Value)) → entriesDistinct es →
    entriesEvery Value.IsLiteral es →
    ∃ fields, compileFields place none es = .ok fields ∧ FieldsPass fields es
  | [], _, _ => ⟨[], rfl, by simp [FieldsPass]⟩
  | (key, v) :: es, hd, hl => by
    obtain ⟨p, hp, hpass⟩ := compileAt_passes v hd.2.1 hl.1
    obtain ⟨fields, hfields, hpasses⟩ := compileFields_passes es hd.2.2 hl.2
    have hall : compileFields place none ((key, v) :: es) = .ok ((key, p) :: fields) :=
      bind_eq_ok.mpr ⟨p, hp, bind_eq_ok.mpr ⟨fields, hfields, rfl⟩⟩
    refine ⟨_, hall, List.forall_mem_cons.mpr ⟨⟨v, List.mem_cons_self, hpass⟩, ?_⟩⟩
    intro field hfield
    obtain ⟨w, hw, hpass⟩ := hpasses field hfield
    exact ⟨w, List.mem_cons_of_mem _ hw, hpass⟩

end

end Pattern

theorem exists_compile_self {v : Value} (hd : v.Distinct) (hl : v.Literal) :
    ∃ p, Pattern.compile v = .ok p ∧ p.check v = .ok () := by
  obtain ⟨p, hp, hpass⟩ := @Pattern.compileAt_passes [] v hd hl
  exact ⟨p, hp, hpass []⟩

/-- A value of literal parts equals itself. So what is saved under a name can be expected by that
name alone: the marker becomes a pattern that the saved value passes. -/
theorem checkEqual_self {v : Value} (hd : v.Distinct) (hl : v.Literal) :
    checkEqual v v = .ok () ∧
      ∀ (vars : VariableStore) (name : String) (before after : List Char),
        name ≠ "" → (∀ c ∈ name.toList, Text.isWord c = true) →
        (∀ c ∈ before ++ after, Text.isBlank c = true) → vars.get? name = some v →
        ∃ expected p,
          interpolate (.str (String.ofList (Marker.bare before name.toList after))) vars =
            .ok expected ∧
          Pattern.compile expected = .ok p ∧ p.check v = .ok () := by
  obtain ⟨p, hp, hcheck⟩ := exists_compile_self hd hl
  refine ⟨bind_eq_ok.mpr ⟨p, hp, hcheck⟩, ?_⟩
  intro vars name before after hne hword hblank hget
  rw [List.forall_mem_append] at hblank
  exact ⟨v, p, interpolate_bare hblank.1 hblank.2 hne hword hget, hp, hcheck⟩

/-- What a collaborator may answer: bytes and an instant, infinity, and objects in a list. -/
def sampleAnswer : Value :=
  .object [("raw", .bytes ⟨#[0xff, 0]⟩), ("at", .time ⟨0, 5, by decide, by decide, by decide⟩),
    ("most", .float (Float.ofBits 0x7ff0000000000000)),
    ("items", .list [.null, .object [("$$", .str "1"), ("$$_", .int 1)]])]

theorem checkEqual_sampleAnswer : checkEqual sampleAnswer sampleAnswer = .ok () ∧
    ∃ expected p,
      interpolate (.str "\x7b\x7b answer \x7d\x7d")
        (VariableStore.empty.save "answer" sampleAnswer) = .ok expected ∧
      Pattern.compile expected = .ok p ∧ p.check sampleAnswer = .ok () := by
  have hd : sampleAnswer.Distinct := by
    simp [sampleAnswer, Value.Distinct, entriesDistinct, itemsDistinct]
  have hl : sampleAnswer.Literal := by
    simp only [sampleAnswer, Value.Literal, Value.Every, entriesEvery, itemsEvery, Value.IsLiteral]
    decide +kernel
  have hword : ∀ c ∈ "answer".toList, Text.isWord c = true :=
    List.all_eq_true.mp (by decide +kernel)
  have hblank : ∀ c ∈ [' '] ++ [' '], Text.isBlank c = true := List.all_eq_true.mp (by decide)
  obtain ⟨hself, hmarker⟩ := checkEqual_self hd hl
  exact ⟨hself, hmarker _ "answer" [' '] [' '] (by decide) hword hblank
    (VariableStore.get?_save _ _ _)⟩

end CaseSuite
