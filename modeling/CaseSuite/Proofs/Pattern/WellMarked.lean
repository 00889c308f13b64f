import CaseSuite.Pattern.Match
import CaseSuite.Proofs.Pattern.Markers
import CaseSuite.Proofs.Value.Normal
/-!
Which values stand for patterns: those whose objects use markers as they are meant, at every depth.
All others are refused, with an error about the pattern that no value they are held against can
hide. A marker never becomes a field.
-/
set_option autoImplicit false

namespace CaseSuite

/-- The markers among the keys of an object are as they must be: there is none, or just one, with
the value that it needs and beside what it allows. -/
inductive WellMarked (es : List (String × Value)) : Prop
  | plain : (∀ key ∈ Entries.names es, isMarkerKey key = false) → WellMarked es
  | present (key : String) (expected : Bool) : key = "$$_exist" ∨ key = "$$_exists" →
      es = [(key, .bool expected)] → WellMarked es
  | regexp (source : String) : (Regex.read source).isSome = true →
      es = [("$$_regexp", .str source)] → WellMarked es
  | json : ("$$_convert", .str "json") ∈ es →
      (∀ key ∈ Entries.names es, key ≠ "$$_convert" → isMarkerKey key = false) → WellMarked es

namespace Value

def IsWellMarked : Value → Prop
  | .object es => WellMarked es
  | _ => True

def HasKnownMarkers : Value → Prop
  | .object es => ∀ key ∈ Entries.names es, isMarkerKey key = true →
      key ∈ ["$$_exist", "$$_exists", "$$_convert", "$$_regexp"]
  | _ => True

/-- The value stands for a pattern: every object in it is well marked. -/
def WellFormed (v : Value) : Prop := v.Every IsWellMarked

end Value

theorem WellMarked.knownMarkers {es : List (String × Value)} (h : WellMarked es) :
    (Value.object es).HasKnownMarkers := by
  intro name hname hmarker
  cases h with
  | plain hplain =>
    rw [hplain name hname] at hmarker
    contradiction
  | present key _ hkey hes =>
    obtain rfl : name = key := by simpa [hes] using hname
    obtain rfl | rfl := hkey <;> simp
  | regexp source _ hes =>
    obtain rfl : name = "$$_regexp" := by simpa [hes] using hname
    simp
  | json _ hothers =>
    by_contra hunknown
    simp only [List.mem_cons, not_or] at hunknown
    rw [hothers name hname hunknown.2.2.1] at hmarker
    contradiction

theorem Value.WellFormed.every_known {v : Value} (h : v.WellFormed) :
    v.Every HasKnownMarkers := by
  refine h.imp fun part hpart => ?_
  cases part with
  | object es => exact WellMarked.knownMarkers hpart
  | _ => trivial

def Error.OfPattern (e : Error) : Prop := ∃ place problem, e = .pattern place problem

theorem Error.OfPattern.of_eq {α : Type} {place : Place} {problem : PatternProblem} {e : Error}
    (h : (.error (.pattern place problem) : Except Error α) = .error e) : e.OfPattern :=
  ⟨place, problem, (Except.error.inj h).symm⟩

namespace Pattern

theorem not_otherMarker_iff {es : List (String × Value)} {key : String} :
    ¬ OtherMarker es key ↔
      ∀ other ∈ Entries.names es, other ≠ key → isMarkerKey other = false := by
  simp [OtherMarker]

mutual

theorem exists_compileAt_iff : (v : Value) → v.Distinct → (place : Place) →
    ((∃ p, compileAt place v = .ok p) ↔ v.WellFormed)
  | .list items, hd, place => by
    have hitems := exists_compileItems_iff items hd place 0
    constructor
    · rintro ⟨p, hp⟩
      obtain ⟨ps, hps, _⟩ := map_eq_ok.mp hp
      exact ⟨trivial, hitems.mp ⟨ps, hps⟩⟩
    · rintro ⟨_, h⟩
      obtain ⟨ps, hps⟩ := hitems.mpr h
      exact ⟨.list ps, map_eq_ok.mpr ⟨ps, hps, rfl⟩⟩
  | .object es, hd, place => by
    have hfields := exists_compileFields_iff es hd place
    simp only [compileAt_object_eq_ok]
    constructor
    · rintro ⟨p, hp⟩
      cases hp with
      | plain hplain hok =>
        refine ⟨.plain hplain, entriesEvery_iff.mpr fun e he => ?_⟩
        exact (hfields none).mp ⟨_, hok⟩ e he (by simp)
      | present hkey hes =>
        subst hes
        exact ⟨.present _ _ hkey rfl, trivial, trivial⟩
      | regexp hread hes =>
        subst hes
        exact ⟨.regexp _ (by simp [hread]) rfl, trivial, trivial⟩
      | json hfind hother hok =>
        refine ⟨.json (Entries.mem_of_find? hfind) (not_otherMarker_iff.mp hother), ?_⟩
        refine entriesEvery_iff.mpr fun (key, v) he => ?_
        by_cases hkey : key = "$$_convert"
        · -- The format is not compiled, but it is a text.
          subst hkey
          rw [(entriesDistinct_names hd).find?_of_mem he] at hfind
          obtain rfl := Option.some.inj hfind
          exact trivial
        · exact (hfields _).mp ⟨_, hok⟩ (key, v) he (by simpa using Ne.symm hkey)
    · rintro ⟨hmarked, h⟩
      rw [entriesEvery_iff] at h
      cases hmarked with
      | plain hplain =>
        obtain ⟨fields, hok⟩ := (hfields none).mpr fun e he _ => h e he
        exact ⟨_, .plain hplain hok⟩
      | present key expected hkey hes => exact ⟨_, .present hkey hes⟩
      | regexp source hread hes =>
        obtain ⟨r, hr⟩ := Option.isSome_iff_exists.mp hread
        exact ⟨_, .regexp hr hes⟩
      | json hmem hothers =>
        obtain ⟨fields, hok⟩ := (hfields (some "$$_convert")).mpr fun e he _ => h e he
        have hfind := (entriesDistinct_names hd).find?_of_mem hmem
        exact ⟨_, .json hfind (not_otherMarker_iff.mpr hothers) hok⟩
  | .null, _, _ | .bool _, _, _ | .int _, _, _ | .float _, _, _ | .str _, _, _ | .bytes _, _, _
  | .time _, _, _ => ⟨fun _ => trivial, fun _ => ⟨_, rfl⟩⟩

theorem exists_compileItems_iff : (vs : List Value) → itemsDistinct vs → (place : Place) →
    (index : Nat) → ((∃ ps, compileItems place index vs = .ok ps) ↔
      itemsEvery Value.IsWellMarked vs)
  | [], _, _, _ => ⟨fun _ => trivial, fun _ => ⟨[], rfl⟩⟩
  | v :: vs, hd, place, index => by
    have hv := exists_compileAt_iff v hd.1 (place ++ [.index index])
    have hvs := exists_compileItems_iff vs hd.2 place (index + 1)
    simp only [compileItems, bind_eq_ok, pure_eq_ok]
    constructor
    · rintro ⟨_, p, hp, ps, hps, _⟩
      exact ⟨hv.mp ⟨p, hp⟩, hvs.mp ⟨ps, hps⟩⟩
    · rintro ⟨h, hs⟩
      obtain ⟨p, hp⟩ := hv.mpr h
      obtain ⟨ps, hps⟩ := hvs.mpr hs
      exact ⟨_, p, hp, ps, hps, rfl⟩

theorem exists_compileFields_iff : (es : List (String × Value)) → entriesDistinct es →
    (place : Place) → (skipped : Option String) →
    ((∃ fields, compileFields place skipped es = .ok fields) ↔
      ∀ e ∈ es, skipped ≠ some e.1 → e.2.WellFormed)
  | [], _, _, _ => by simp [compileFields]
  | (key, v) :: es, hd, place, skipped => by
    have hv := exists_compileAt_iff v hd.2.1 (place ++ [.key key])
    have hes := exists_compileFields_iff es hd.2.2 place skipped
    rw [List.forall_mem_cons, ← hes, ← hv]
    by_cases hskip : skipped = some key
    · simp [compileFields, hskip]
    · simp only [compileFields, beq_iff_eq, hskip, if_false, bind_eq_ok, pure_eq_ok]
      constructor
      · rintro ⟨_, p, hp, fields, hfields, _⟩
        exact ⟨fun _ => ⟨p, hp⟩, fields, hfields⟩
      · rintro ⟨h, fields, hfields⟩
        obtain ⟨p, hp⟩ := h hskip
        exact ⟨_, p, hp, fields, hfields, rfl⟩

end

/-! ### Errors of values that stand for no pattern -/

section Refused

variable {place : Place} {es : List (String × Value)} {mark : MarkerEntry} {e : Error}

theorem aloneIn_eq_error (h : aloneIn place mark es = .error e) : e.OfPattern := by
  unfold aloneIn at h
  split at h
  · exact .of_eq h
  · simp at h

theorem compileExists_eq_error (h : compileExists place mark es = .error e) : e.OfPattern := by
  rw [compileExists, bind_eq_error] at h
  obtain h | ⟨_, _, h⟩ := h
  · exact aloneIn_eq_error h
  · split at h
    · exact absurd h pure_ne_error
    · exact .of_eq h

theorem compileRegexp_eq_error (h : compileRegexp place mark es = .error e) : e.OfPattern := by
  rw [compileRegexp, bind_eq_error] at h
  obtain h | ⟨_, _, h⟩ := h
  · exact aloneIn_eq_error h
  · split at h
    · exact .of_eq h
    · split at h
      · exact absurd h pure_ne_error
      · exact .of_eq h

theorem checkFormat_eq_error (h : checkFormat place mark es = .error e) : e.OfPattern := by
  unfold checkFormat at h
  split at h
  · exact .of_eq h
  · split at h
    · exact .of_eq h
    · split at h
      · exact .of_eq h
      · simp at h

end Refused

mutual

/-- Whatever keeps a value from being a pattern is an error about patterns. -/
theorem compileAt_eq_error {place : Place} {e : Error} : (v : Value) →
    compileAt place v = .error e → e.OfPattern
  | .list items, h => compileItems_eq_error items (map_eq_error.mp h)
  | .object es, h => by
    simp only [compileAt] at h
    split at h
    · exact compileFields_eq_error es (map_eq_error.mp h)
    · split at h
      · exact compileExists_eq_error h
      · exact compileExists_eq_error h
      · exact compileRegexp_eq_error h
      · obtain h | ⟨_, _, h⟩ := bind_eq_error.mp h
        · exact checkFormat_eq_error h
        · obtain h | ⟨_, _, h⟩ := bind_eq_error.mp h
          · exact compileFields_eq_error es h
          · exact absurd h pure_ne_error
      · exact .of_eq h
  | .null, h | .bool _, h | .int _, h | .float _, h | .str _, h | .bytes _, h | .time _, h => by
    simp [compileAt] at h

theorem compileItems_eq_error {place : Place} {index : Nat} {e : Error} : (vs : List Value) →
    compileItems place index vs = .error e → e.OfPattern
  | [], h => by simp [compileItems] at h
  | v :: vs, h => by
    obtain h | ⟨_, _, h⟩ := bind_eq_error.mp h
    · exact compileAt_eq_error v h
    · obtain h | ⟨_, _, h⟩ := bind_eq_error.mp h
      · exact compileItems_eq_error vs h
      · exact absurd h pure_ne_error

theorem compileFields_eq_error {place : Place} {skipped : Option String} {e : Error} :
    (es : List (String × Value)) → compileFields place skipped es = .error e → e.OfPattern
  | [], h => by simp [compileFields] at h
  | (key, v) :: es, h => by
    simp only [compileFields] at h
    split at h
    · exact compileFields_eq_error es h
    · obtain h | ⟨_, _, h⟩ := bind_eq_error.mp h
      · exact compileAt_eq_error v h
      · obtain h | ⟨_, _, h⟩ := bind_eq_error.mp h
        · exact compileFields_eq_error es h
        · exact absurd h pure_ne_error

end

/-- A value stands for a pattern exactly if every object in it is well marked. If it does not, the
error is one about patterns, and the same one for whatever is compared with the value. -/
theorem exists_compile_iff {v : Value} (hd : v.Distinct) :
    ((∃ p, compile v = .ok p) ↔ v.WellFormed) ∧
      ∀ e, compile v = .error e → e.OfPattern ∧ ∀ actual, checkEqual actual v = .error e := by
  refine ⟨exists_compileAt_iff v hd [], fun e h => ⟨compileAt_eq_error v h, fun actual => ?_⟩⟩
  rw [checkEqual, h]
  rfl

/-- A pattern whose last item has a marker that must stand alone, beside a key that differs. -/
def sampleExpected : Value :=
  .object [("$$_convert", .str "json"),
    ("items", .list [.object [("$$_regexp", .str "^a")],
      .object [("$$_exist", .bool true), ("b", .null)]])]

theorem exists_compile_sampleExpected_iff : sampleExpected.Distinct ∧ ¬ sampleExpected.WellFormed ∧
    ∃ e, compile sampleExpected = .error e ∧ e.OfPattern ∧
      ∀ actual, checkEqual actual sampleExpected = .error e := by
  have hd : sampleExpected.Distinct := by
    simp [sampleExpected, Value.Distinct, entriesDistinct, itemsDistinct]
  have herror : compile sampleExpected =
      .error (.pattern [.key "items", .index 1] (.notAlone "$$_exist")) := by
    rfl
  obtain ⟨hiff, herrors⟩ := exists_compile_iff hd
  refine ⟨hd, fun h => ?_, _, herror, herrors _ herror⟩
  obtain ⟨p, hp⟩ := hiff.mpr h
  rw [herror] at hp
  contradiction

/-! ### Markers and fields -/

mutual

/-- The key of every field in the pattern, at any depth, is as asked for. -/
def EveryKey (P : String → Prop) : Pattern → Prop
  | .list items => itemsEveryKey P items
  | .object fields => fieldsEveryKey P fields
  | .json inner => inner.EveryKey P
  | _ => True

def itemsEveryKey (P : String → Prop) : List Pattern → Prop
  | [] => True
  | p :: ps => p.EveryKey P ∧ itemsEveryKey P ps

def fieldsEveryKey (P : String → Prop) : List (String × Pattern) → Prop
  | [] => True
  | (key, p) :: fields => P key ∧ p.EveryKey P ∧ fieldsEveryKey P fields

end

mutual

theorem compileAt_everyKey {place : Place} : (v : Value) → {p : Pattern} →
    compileAt place v = .ok p → p.EveryKey (isMarkerKey · = false)
  | .list items, _, h => by
    obtain ⟨ps, hps, rfl⟩ := map_eq_ok.mp h
    exact compileItems_everyKey items hps
  | .object es, _, h => by
    cases compileAt_object_eq_ok.mp h with
    | plain hplain hfields =>
      exact compileFields_everyKey es (fun key hkey _ => hplain key hkey) hfields
    | json _ hother hfields =>
      refine compileFields_everyKey es (fun key hkey hne => ?_) hfields
      exact not_otherMarker_iff.mp hother key hkey fun heq => hne (heq ▸ rfl)
    | present _ _ => trivial
    | regexp _ _ => trivial
  | .null, _, h | .bool _, _, h | .int _, _, h | .float _, _, h | .str _, _, h | .bytes _, _, h
  | .time _, _, h => by
    obtain rfl := Except.ok.inj h
    trivial

theorem compileItems_everyKey {place : Place} {index : Nat} : (vs : List Value) →
    {ps : List Pattern} → compileItems place index vs = .ok ps →
    itemsEveryKey (isMarkerKey · = false) ps
  | [], _, h => by
    obtain rfl := Except.ok.inj h
    trivial
  | v :: vs, _, h => by
    simp only [compileItems, bind_eq_ok, pure_eq_ok] at h
    obtain ⟨p, hp, ps, hps, rfl⟩ := h
    exact ⟨compileAt_everyKey v hp, compileItems_everyKey vs hps⟩

theorem compileFields_everyKey {place : Place} {skipped : Option String} :
    (es : List (String × Value)) → {fields : List (String × Pattern)} →
    (∀ key ∈ Entries.names es, skipped ≠ some key → isMarkerKey key = false) →
    compileFields place skipped es = .ok fields → fieldsEveryKey (isMarkerKey · = false) fields
  | [], _, _, h => by
    obtain rfl := Except.ok.inj h
    trivial
  | (key, v) :: es, _, hplain, h => by
    rw [Entries.names_cons, List.forall_mem_cons] at hplain
    simp only [compileFields, beq_iff_eq] at h
    split at h
    · exact compileFields_everyKey es hplain.2 h
    · next hskip =>
      simp only [bind_eq_ok, pure_eq_ok] at h
      obtain ⟨p, hp, fields, hfields, rfl⟩ := h
      exact ⟨hplain.1 hskip, compileAt_everyKey v hp, compileFields_everyKey es hplain.2 hfields⟩

end

/-- No marker is left as the key of a field: whatever marker there was is a known one, or the value
is refused with an error about patterns. -/
theorem compile_everyKey {v : Value} (hd : v.Distinct) :
    (∀ p, compile v = .ok p →
      p.EveryKey (isMarkerKey · = false) ∧ v.Every Value.HasKnownMarkers) ∧
      ∀ e, compile v = .error e → e.OfPattern := by
  refine ⟨fun p hp => ⟨compileAt_everyKey v hp, ?_⟩, fun e => compileAt_eq_error v⟩
  have hform : v.WellFormed := (exists_compileAt_iff v hd []).mp ⟨p, hp⟩
  exact hform.every_known

/-- A condition on an encoded object, with a key that looks like a marker and is none. -/
def sampleFilter : Value :=
  .object [("id", .object [("$$_exists", .bool true)]), ("$$_convert", .str "json"),
    ("$$_not-null", .bool true)]

theorem compile_everyKey_sampleFilter : sampleFilter.Distinct ∧
    ∃ p, compile sampleFilter = .ok p ∧ p.EveryKey (isMarkerKey · = false) ∧
      sampleFilter.Every Value.HasKnownMarkers := by
  have hd : sampleFilter.Distinct := by
    simp [sampleFilter, Value.Distinct, entriesDistinct]
  have hp : compile sampleFilter = .ok (.json (.object
      [("id", .present true), ("$$_not-null", .literal (.bool true))])) := by
    rfl
  exact ⟨hd, _, hp, (compile_everyKey hd).1 _ hp⟩

/-- A key with the sign of a marker is a field all the same if no name of a marker follows. -/
theorem compile_not_everyKey :
    let v := Value.object [("$$_not-null", .bool true)]
    ∃ p, compile v = .ok p ∧ ¬ p.EveryKey fun key => ¬ "$$_".toList <+: key.toList := by
  intro v
  have hp : compile v = .ok (.object [("$$_not-null", .literal (.bool true))]) := by rfl
  refine ⟨_, hp, fun h => h.1 ?_⟩
  decide

end Pattern

end CaseSuite
