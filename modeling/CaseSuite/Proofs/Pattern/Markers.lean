import CaseSuite.Pattern.Compile
import CaseSuite.Proofs.Entries
import CaseSuite.Proofs.Outcome
/-!
Objects with markers. A marker key has one spelling for what it asks for, and an object compiles in
one of four ways: without markers by its fields, or as the condition that its one marker asks for.
-/
set_option autoImplicit false

namespace CaseSuite

theorem Value.asBool?_eq_some {v : Value} {b : Bool} : v.asBool? = some b ↔ v = .bool b := by
  cases v <;> simp [asBool?]

theorem Value.asStr?_eq_some {v : Value} {s : String} : v.asStr? = some s ↔ v = .str s := by
  cases v <;> simp [asStr?]

namespace Pattern

theorem key_of_markerName? {key name : String} (h : markerName? key = some name) :
    key = "$$_" ++ name := by
  unfold markerName? at h
  split at h
  · next rest hkey =>
    split at h
    · obtain rfl := Option.some.inj h
      refine String.toList_injective ?_
      rw [hkey]
      simp
    · simp at h
  · simp at h

theorem isMarkerKey_of_name {key name : String} (h : markerName? key = some name) :
    isMarkerKey key = true := by
  simp [isMarkerKey, h]

theorem isMarkerKey_present {key : String} (h : key = "$$_exist" ∨ key = "$$_exists") :
    isMarkerKey key = true := by
  obtain rfl | rfl := h <;> decide +kernel

theorem isMarkerKey_regexp : isMarkerKey "$$_regexp" = true := by decide +kernel

theorem isMarkerKey_convert : isMarkerKey "$$_convert" = true := by decide +kernel

theorem firstMarker?_eq_none {es : List (String × Value)} :
    firstMarker? es = none ↔ ∀ key ∈ Entries.names es, isMarkerKey key = false := by
  induction es with
  | nil => simp [firstMarker?]
  | cons e es ih => cases hm : markerName? e.1 <;> simp [firstMarker?, isMarkerKey, hm, ih]

theorem mem_of_firstMarker? {es : List (String × Value)} {mark : MarkerEntry}
    (h : firstMarker? es = some mark) :
    (mark.key, mark.value) ∈ es ∧ markerName? mark.key = some mark.name := by
  induction es with
  | nil => simp [firstMarker?] at h
  | cons e es ih =>
    cases hm : markerName? e.1 with
    | none =>
      simp only [firstMarker?, hm] at h
      exact ⟨List.mem_cons_of_mem e (ih h).1, (ih h).2⟩
    | some name =>
      simp only [firstMarker?, hm, Option.some.injEq] at h
      subst h
      exact ⟨List.mem_cons_self, hm⟩

/-- Another marker stands beside the one of this key. -/
def OtherMarker (es : List (String × Value)) (key : String) : Prop :=
  ∃ other ∈ Entries.names es, other ≠ key ∧ isMarkerKey other = true

theorem checkFormat_eq_ok {place : Place} {mark : MarkerEntry} {es : List (String × Value)} :
    checkFormat place mark es = .ok () ↔
      mark.value.asStr? = some "json" ∧ ¬ OtherMarker es mark.key := by
  unfold checkFormat
  cases mark.value.asStr? with
  | none => simp
  | some format =>
    by_cases hf : format = "json"
    · subst hf
      cases hother : (es.map Prod.fst).find? fun key => key != mark.key && isMarkerKey key with
      | none =>
        rw [List.find?_eq_none] at hother
        simpa [OtherMarker, Entries.names] using hother
      | some other =>
        have hmem := List.mem_of_find?_eq_some hother
        have hp := List.find?_some hother
        simp only [Bool.and_eq_true, bne_iff_ne, ne_eq] at hp
        simpa [hother] using ⟨other, hmem, hp.1, hp.2⟩
    · simp [hf]

theorem OtherMarker.length_gt {es : List (String × Value)} {key : String}
    (hkey : key ∈ Entries.names es) (h : OtherMarker es key) : 1 < es.length := by
  obtain ⟨other, hother, hne, _⟩ := h
  match es with
  | [] => simp at hkey
  | [e] => simp_all
  | _ :: _ :: _ => simp

theorem aloneIn_eq_ok {place : Place} {mark : MarkerEntry} {es : List (String × Value)} :
    aloneIn place mark es = .ok () ↔ es.length ≤ 1 := by
  by_cases h : 1 < es.length <;> simp [aloneIn, h]
  omega

theorem find?_of_firstMarker? {es : List (String × Value)} {mark : MarkerEntry}
    (h : firstMarker? es = some mark) : Entries.find? mark.key es = some mark.value := by
  induction es with
  | nil => simp [firstMarker?] at h
  | cons e es ih =>
    cases hm : markerName? e.1 with
    | none =>
      simp only [firstMarker?, hm] at h
      have hne : e.1 ≠ mark.key := by
        rintro heq
        rw [heq, (mem_of_firstMarker? h).2] at hm
        contradiction
      rw [Entries.find?_cons, if_neg hne, ih h]
    | some name =>
      simp only [firstMarker?, hm, Option.some.injEq] at h
      subst h
      simp [Entries.find?_cons]

theorem eq_singleton_of_firstMarker? {es : List (String × Value)} {mark : MarkerEntry}
    (h : firstMarker? es = some mark) (hlength : es.length ≤ 1) :
    es = [(mark.key, mark.value)] := by
  have hmem := (mem_of_firstMarker? h).1
  match es with
  | [] => simp at hmem
  | [e] => simp_all
  | _ :: _ :: _ => simp at hlength

/-! ### The four ways -/

/-- What an object at a place stands for, by its markers. -/
inductive StandsFor (place : Place) (es : List (String × Value)) : Pattern → Prop
  | plain {fields : List (String × Pattern)} :
      (∀ key ∈ Entries.names es, isMarkerKey key = false) →
      compileFields place none es = .ok fields → StandsFor place es (.object fields)
  | present {key : String} {expected : Bool} : key = "$$_exist" ∨ key = "$$_exists" →
      es = [(key, .bool expected)] → StandsFor place es (.present expected)
  | regexp {source : String} {r : Regex} : Regex.read source = some r →
      es = [("$$_regexp", .str source)] → StandsFor place es (.regexp source r)
  | json {fields : List (String × Pattern)} :
      Entries.find? "$$_convert" es = some (.str "json") → ¬ OtherMarker es "$$_convert" →
      compileFields place (some "$$_convert") es = .ok fields →
      StandsFor place es (.json (.object fields))

section Ways

variable {place : Place} {es : List (String × Value)} {mark : MarkerEntry} {p : Pattern}

theorem compileExists_eq_ok (hmark : firstMarker? es = some mark) :
    compileExists place mark es = .ok p ↔
      ∃ expected, es = [(mark.key, .bool expected)] ∧ p = .present expected := by
  rw [compileExists, bind_unit_eq_ok, aloneIn_eq_ok]
  constructor
  · rintro ⟨hlength, h⟩
    have hes := eq_singleton_of_firstMarker? hmark hlength
    cases hb : mark.value.asBool? with
    | none => simp [hb, throw, throwThe, MonadExceptOf.throw] at h
    | some expected =>
      simp only [hb, pure_eq_ok] at h
      rw [Value.asBool?_eq_some] at hb
      exact ⟨expected, hb ▸ hes, h.symm⟩
  · rintro ⟨expected, hes, rfl⟩
    have hvalue := (mem_of_firstMarker? hmark).1
    simp only [hes, List.mem_singleton, Prod.mk.injEq] at hvalue
    simp [hes, hvalue.2, Value.asBool?, pure_eq_ok]

theorem compileRegexp_eq_ok (hmark : firstMarker? es = some mark) :
    compileRegexp place mark es = .ok p ↔
      ∃ source r, es = [(mark.key, .str source)] ∧ Regex.read source = some r ∧
        p = .regexp source r := by
  rw [compileRegexp, bind_unit_eq_ok, aloneIn_eq_ok]
  constructor
  · rintro ⟨hlength, h⟩
    have hes := eq_singleton_of_firstMarker? hmark hlength
    cases hs : mark.value.asStr? with
    | none => simp [hs, throw, throwThe, MonadExceptOf.throw] at h
    | some source =>
      cases hr : Regex.read source with
      | none => simp [hs, hr, throw, throwThe, MonadExceptOf.throw] at h
      | some r =>
        simp only [hs, hr, pure_eq_ok] at h
        rw [Value.asStr?_eq_some] at hs
        exact ⟨source, r, hs ▸ hes, hr, h.symm⟩
  · rintro ⟨source, r, hes, hr, rfl⟩
    have hvalue := (mem_of_firstMarker? hmark).1
    simp only [hes, List.mem_singleton, Prod.mk.injEq] at hvalue
    simp [hes, hvalue.2, hr, Value.asStr?, pure_eq_ok]

theorem firstMarker?_singleton {key name : String} (h : markerName? key = some name) (v : Value) :
    firstMarker? [(key, v)] = some ⟨key, name, v⟩ := by
  simp [firstMarker?, h]

/-- Beside the format to convert to no other marker stands, so it is the first one. -/
theorem firstMarker?_convert {v : Value} (h : Entries.find? "$$_convert" es = some v)
    (hother : ¬ OtherMarker es "$$_convert") :
    firstMarker? es = some ⟨"$$_convert", "convert", v⟩ := by
  have hname : markerName? "$$_convert" = some "convert" := by decide +kernel
  cases hmark : firstMarker? es with
  | none =>
    have hkey := firstMarker?_eq_none.mp hmark _ (Entries.mem_names_of_mem (Entries.mem_of_find? h))
    rw [isMarkerKey_convert] at hkey
    contradiction
  | some mark =>
    obtain ⟨key, name, w⟩ := mark
    obtain ⟨hmem, hkey⟩ := mem_of_firstMarker? hmark
    have heq : key = "$$_convert" := by
      by_contra hne
      exact hother ⟨key, Entries.mem_names_of_mem hmem, hne, isMarkerKey_of_name hkey⟩
    subst heq
    have hvalue := find?_of_firstMarker? hmark
    rw [h] at hvalue
    rw [hname] at hkey
    rw [Option.some.inj hkey, Option.some.inj hvalue]

theorem compileAt_object_eq_ok : compileAt place (.object es) = .ok p ↔ StandsFor place es p := by
  constructor
  · intro h
    simp only [compileAt] at h
    cases hmark : firstMarker? es with
    | none =>
      simp only [hmark] at h
      obtain ⟨fields, hfields, rfl⟩ := map_eq_ok.mp h
      exact .plain (firstMarker?_eq_none.mp hmark) hfields
    | some mark =>
      have hkey := key_of_markerName? (mem_of_firstMarker? hmark).2
      simp only [hmark] at h
      split at h
      · next hname =>
        obtain ⟨expected, hes, rfl⟩ := (compileExists_eq_ok hmark).mp h
        exact .present (.inl (by simp [hkey, hname])) hes
      · next hname =>
        obtain ⟨expected, hes, rfl⟩ := (compileExists_eq_ok hmark).mp h
        exact .present (.inr (by simp [hkey, hname])) hes
      · next hname =>
        obtain ⟨source, r, hes, hr, rfl⟩ := (compileRegexp_eq_ok hmark).mp h
        have hkey : mark.key = "$$_regexp" := by simp [hkey, hname]
        exact .regexp hr (hkey ▸ hes)
      · next hname =>
        obtain ⟨hformat, h⟩ := bind_unit_eq_ok.mp h
        obtain ⟨fields, hfields, h⟩ := bind_eq_ok.mp h
        rw [pure_eq_ok] at h
        subst h
        rw [checkFormat_eq_ok] at hformat
        have hkey : mark.key = "$$_convert" := by simp [hkey, hname]
        have hfind := find?_of_firstMarker? hmark
        rw [hkey, Value.asStr?_eq_some.mp hformat.1] at hfind
        exact .json hfind (hkey ▸ hformat.2) (hkey ▸ hfields)
      · simp at h
  · intro h
    cases h with
    | plain hplain hfields =>
      simp only [compileAt, firstMarker?_eq_none.mpr hplain]
      exact map_eq_ok.mpr ⟨_, hfields, rfl⟩
    | @present key expected hkey hes =>
      subst hes
      obtain rfl | rfl := hkey
      · have hmark : firstMarker? [("$$_exist", .bool expected)] =
            some ⟨"$$_exist", "exist", .bool expected⟩ :=
          firstMarker?_singleton (by decide +kernel) _
        simpa only [compileAt, hmark] using (compileExists_eq_ok hmark).mpr ⟨expected, rfl, rfl⟩
      · have hmark : firstMarker? [("$$_exists", .bool expected)] =
            some ⟨"$$_exists", "exists", .bool expected⟩ :=
          firstMarker?_singleton (by decide +kernel) _
        simpa only [compileAt, hmark] using (compileExists_eq_ok hmark).mpr ⟨expected, rfl, rfl⟩
    | @regexp source r hr hes =>
      subst hes
      have hmark : firstMarker? [("$$_regexp", .str source)] =
          some ⟨"$$_regexp", "regexp", .str source⟩ :=
        firstMarker?_singleton (by decide +kernel) _
      simpa only [compileAt, hmark] using (compileRegexp_eq_ok hmark).mpr ⟨source, r, rfl, hr, rfl⟩
    | json hfind hother hfields =>
      have hmark := firstMarker?_convert hfind hother
      simp only [compileAt, hmark]
      refine bind_unit_eq_ok.mpr ⟨checkFormat_eq_ok.mpr ⟨rfl, hother⟩, ?_⟩
      exact bind_eq_ok.mpr ⟨_, hfields, rfl⟩

end Ways

/-! ### Items and fields -/

variable {place : Place}

theorem compileItems_eq_ok {index : Nat} {vs : List Value} {ps : List Pattern} :
    compileItems place index vs = .ok ps ↔ ps.length = vs.length ∧
      ∀ i v, vs[i]? = some v →
        ∃ p, ps[i]? = some p ∧ compileAt (place ++ [.index (index + i)]) v = .ok p := by
  induction vs generalizing index ps with
  | nil => cases ps <;> simp [compileItems]
  | cons v vs ih =>
    simp only [compileItems, bind_eq_ok, pure_eq_ok, ih]
    constructor
    · rintro ⟨p, hp, ps, ⟨hlength, hps⟩, rfl⟩
      refine ⟨by simp [hlength], fun i w hw => ?_⟩
      cases i with
      | zero =>
        obtain rfl : v = w := by simpa using hw
        exact ⟨p, rfl, hp⟩
      | succ i => simpa [Nat.add_right_comm, Nat.add_assoc] using hps i w (by simpa using hw)
    · rintro ⟨hlength, hps⟩
      obtain ⟨p, hfirst, hp⟩ := hps 0 v rfl
      cases ps with
      | nil => simp at hfirst
      | cons q ps =>
        obtain rfl : q = p := by simpa using hfirst
        refine ⟨q, hp, ps, ⟨by simpa using hlength, fun i w hw => ?_⟩, rfl⟩
        simpa [Nat.add_right_comm, Nat.add_assoc] using hps (i + 1) w (by simpa using hw)

/-- The field comes of an entry at a place: it has its key, and its value's pattern. -/
def FieldOf (place : Place) (e : String × Value) (field : String × Pattern) : Prop :=
  field.1 = e.1 ∧ compileAt (place ++ [.key e.1]) e.2 = .ok field.2

theorem compileFields_eq_ok {skipped : Option String} {es : List (String × Value)}
    {fields : List (String × Pattern)} :
    compileFields place skipped es = .ok fields ↔
      List.Forall₂ (FieldOf place) (es.filter fun e => skipped != some e.1) fields := by
  induction es generalizing fields with
  | nil => simp [compileFields, eq_comm]
  | cons e es ih =>
    by_cases hskip : skipped = some e.1
    · subst hskip
      simpa [compileFields] using ih
    · simp only [compileFields, hskip, bind_eq_ok, pure_eq_ok, ih, List.filter_cons,
        List.forall₂_cons_left_iff, beq_iff_eq, bne_iff_ne, ne_eq, not_false_eq_true, if_true,
        if_false]
      constructor
      · rintro ⟨p, hp, fields, hfields, rfl⟩
        exact ⟨(e.1, p), fields, ⟨rfl, hp⟩, hfields, rfl⟩
      · rintro ⟨⟨_, p⟩, fields, ⟨rfl, hp⟩, hfields, rfl⟩
        exact ⟨p, hp, fields, hfields, rfl⟩

end Pattern

end CaseSuite
