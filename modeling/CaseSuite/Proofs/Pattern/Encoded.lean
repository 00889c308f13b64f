import CaseSuite.Proofs.Pattern.Verdict
import CaseSuite.Proofs.Value.Normal
/-!
Objects and their JSON texts under patterns. A text is held against a pattern as the object that it
is read as, which is the normal form of the object that it was written for; and no pattern tells a
value from its normal form, not even by the error.
-/
set_option autoImplicit false

namespace CaseSuite

namespace Pattern

variable {v : Value}

theorem differs_normal (hv : v.Plain) (place : Place) (p : Pattern) :
    differs place v.normal p = differs place v p := by
  rw [differs, differs, Value.display_normal hv]

theorem isNull_normal (hv : v.Plain) : v.normal.isNull = v.isNull := by
  obtain heq | ⟨items, rfl⟩ | ⟨es, rfl⟩ := hv.normal_cases
  · rw [heq]
  · rw [Value.normal_list]
    rfl
  · rw [Value.normal_object]
    rfl

theorem regexpHolds_normal (hv : v.Plain) (r : Regex) :
    regexpHolds r v.normal = regexpHolds r v := by
  obtain heq | ⟨items, rfl⟩ | ⟨es, rfl⟩ := hv.normal_cases
  · rw [heq]
  · rw [Value.normal_list]
    rfl
  · rw [Value.normal_object]
    rfl

mutual

/-- Induction on the pattern, for every value and place. The first error is the same, since checks
go in the order of the pattern. -/
theorem checkAt_normal : (p : Pattern) → {v : Value} → v.Distinct → v.Plain → (place : Place) →
    checkAt place p v.normal = checkAt place p v
  | .literal expected, v, hd, hv, place => by
    rw [checkAt, checkAt, ← literalHolds_reordered hd (hv.reordered_normal hd),
      Value.display_normal hv]
  | .list items, v, hd, hv, place => by
    have hdiffers := differs_normal hv place (.list items)
    obtain heq | ⟨values, rfl⟩ | ⟨es, rfl⟩ := hv.normal_cases
    · rw [heq]
    · have hitems := checkItems_normal items hd hv.2 place 0
      simp only [Value.normal_list, checkAt, Value.asList?, List.length_map, hitems]
    · simp only [Value.normal_object, checkAt, Value.asList?] at hdiffers ⊢
      rw [hdiffers]
  | .object fields, v, hd, hv, place => by
    have hdiffers := differs_normal hv place (.object fields)
    obtain heq | ⟨values, rfl⟩ | ⟨es, rfl⟩ := hv.normal_cases
    · rw [heq]
    · simp only [Value.normal_list, checkAt, Value.asObject?, jsonText?] at hdiffers ⊢
      rw [hdiffers]
    · have hfields := checkFields_normal fields hd hv.2 place
      simp only [Value.normal_object, checkAt, Value.asObject?, hfields]
  | .present expected, v, _, hv, place => by
    rw [checkAt, checkAt, isNull_normal hv, differs_normal hv]
  | .json inner, v, hd, hv, place => by
    have hinner := checkAt_normal inner hd hv place
    have hdiffers := differs_normal hv place (.json inner)
    obtain heq | ⟨values, rfl⟩ | ⟨es, rfl⟩ := hv.normal_cases
    · rw [heq]
    · simp only [Value.normal_list, checkAt, Value.asObject?, jsonText?] at hdiffers ⊢
      rw [hdiffers]
    · simp only [Value.normal_object, checkAt, Value.asObject?] at hinner ⊢
      exact hinner
  | .regexp source r, v, _, hv, place => by
    rw [checkAt, checkAt, regexpHolds_normal hv, differs_normal hv]

theorem checkItems_normal : (ps : List Pattern) → {vs : List Value} → itemsDistinct vs →
    itemsEvery Value.IsPlain vs → (place : Place) → (index : Nat) →
    checkItems place index ps (vs.map Value.normal) = checkItems place index ps vs
  | [], _, _, _, _, _ => rfl
  | _ :: _, [], _, _, _, _ => rfl
  | p :: ps, v :: vs, hd, hv, place, index => by
    rw [List.map_cons, checkItems, checkItems, checkAt_normal p hd.1 hv.1,
      checkItems_normal ps hd.2 hv.2]

theorem checkFields_normal : (fields : List (String × Pattern)) → {es : Entries Value} →
    entriesDistinct es → entriesEvery Value.IsPlain es → (place : Place) →
    checkFields place fields (es.mapValues Value.normal).sort = checkFields place fields es
  | [], _, _, _, _ => rfl
  | (key, p) :: fields, es, hd, hv, place => by
    rw [checkFields, checkFields, hd.find?_normal, checkFields_normal fields hd hv]
    cases hkey : es.find? key with
    | none => rfl
    | some v =>
      simp only [Option.map_some]
      rw [checkAt_normal p (hd.of_find? hkey) (hv.of_find? hkey)]

end

/-- The pattern is held against an object, or against the JSON text of one. -/
def AsksObject : Pattern → Prop
  | .object _ | .json _ => True
  | _ => False

theorem checkAt_of_jsonText {p : Pattern} (hp : p.AsksObject) {text : Value} {bytes : ByteArray}
    {es : Entries Value} (htext : jsonText? text = some bytes)
    (hread : Value.readJson bytes = .ok (.object es)) (place : Place) :
    checkAt place p text = checkAt place p (.object es) := by
  have hobject : text.asObject? = none := by
    cases text <;> first | rfl | contradiction
  have hdecode : decode place bytes = .ok (.object es) := by
    rw [decode, hread]
    rfl
  cases p with
  | object fields =>
    simp only [checkAt, hobject, htext, hdecode]
    rfl
  | json inner =>
    simp only [checkAt, hobject, htext, hdecode]
    rfl
  | literal _ | list _ | present _ | regexp _ _ => contradiction

/-- Where an object is asked for, an object passes or fails as its JSON text does, as text or as
bytes, and with the very same error. -/
theorem check_text {p : Pattern} (hp : p.AsksObject) {es : Entries Value}
    (hd : (Value.object es).Distinct) (hplain : (Value.object es).Plain)
    (hdepth : (Value.object es).depth ≤ 127) :
    p.check (.str (Value.object es).text) = p.check (.object es) ∧
      p.check (.bytes (Value.object es).text.toUTF8) = p.check (.object es) := by
  have hread : Value.readJson (Value.object es).text.toUTF8 = .ok (Value.object es).normal :=
    Value.readJson_print hplain.noFloat hdepth
  have hnormal : p.check (Value.object es).normal = p.check (.object es) :=
    checkAt_normal p hd hplain []
  rw [Value.normal_object] at hread hnormal
  exact ⟨(checkAt_of_jsonText hp rfl hread []).trans hnormal,
    (checkAt_of_jsonText hp rfl hread []).trans hnormal⟩

/-- An object whose keys do not rise: its text has them in another order, and the difference is
found at the same place. -/
theorem check_text_mismatch :
    let p := Pattern.json (.object [("a", .object [("c", .literal (.bool false))])])
    let v := Value.object
      [("b", .list [.null]), ("a", .object [("d", .int (-2)), ("c", .bool true)])]
    let difference := Error.mismatch [.key "a", .key "c"] "true (bool)" "false (bool)"
    Pattern.compile (.object [("$$_convert", .str "json"), ("a", .object [("c", .bool false)])]) =
        .ok p ∧ v.text = "\x7b\"a\":\x7b\"c\":true,\"d\":-2\x7d,\"b\":[null]\x7d" ∧
      p.check (.str v.text) = .error difference ∧
      p.check (.bytes v.text.toUTF8) = .error difference := by
  intro p v difference
  have hd : v.Distinct := by simp [v, Value.Distinct, entriesDistinct, itemsDistinct]
  have hplain : v.Plain := by
    simp [v, Value.Plain, Value.Every, entriesEvery, itemsEvery, Value.IsPlain, Value.kind]
  have hdepth : v.depth ≤ 127 := by decide
  have hobject : p.check v = .error difference := rfl
  obtain ⟨htext, hbytes⟩ := check_text (p := p) trivial hd hplain hdepth
  exact ⟨rfl, rfl, htext.trans hobject, hbytes.trans hobject⟩

end Pattern

end CaseSuite
