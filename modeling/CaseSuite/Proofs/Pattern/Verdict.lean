import CaseSuite.Pattern.Match
import CaseSuite.Proofs.Outcome
import CaseSuite.Proofs.Value.Reordered
/-!
When a value passes a pattern: what each kind of pattern asks of the value, and which patterns ask
the same.
-/
set_option autoImplicit false

namespace CaseSuite

/-- The entries of an object, or of the object that a JSON text writes. -/
def Value.heldObject? (v : Value) : Option (Entries Value) :=
  v.asObject? <|> (Pattern.jsonText? v).bind fun text => (readJson text).toOption.bind asObject?

@[simp] theorem Value.heldObject?_object (es : Entries Value) :
    (Value.object es).heldObject? = some es := rfl

namespace Pattern

/-- Induction on a pattern: of its items and fields, what is to be shown is known of each. -/
@[elab_as_elim]
theorem nested {P : Pattern → Prop} (literal : ∀ v, P (.literal v))
    (list : ∀ items, (∀ p ∈ items, P p) → P (.list items))
    (object : ∀ fields, (∀ field ∈ fields, P field.2) → P (.object fields))
    (present : ∀ expected, P (.present expected)) (json : ∀ inner, P inner → P (.json inner))
    (regexp : ∀ source r, P (.regexp source r)) (p : Pattern) : P p :=
  @Pattern.rec P (fun items => ∀ p ∈ items, P p) (fun fields => ∀ field ∈ fields, P field.2)
    (fun field => P field.2) literal list object present json regexp (by simp)
    (fun _ _ hp hps => List.forall_mem_cons.mpr ⟨hp, hps⟩) (by simp)
    (fun _ _ hfield hfields => List.forall_mem_cons.mpr ⟨hfield, hfields⟩) (fun _ _ hp => hp) p

/-- What a field asks of the entries of an object. -/
def FieldHolds (place : Place) (es : Entries Value) (field : String × Pattern) : Prop :=
  match es.find? field.1 with
  | some v => checkAt (place ++ [.key field.1]) field.2 v = .ok ()
  | none => field.2.allowsMissing = true

theorem checkFields_eq_ok {place : Place} {fields : List (String × Pattern)} {es : Entries Value} :
    checkFields place fields es = .ok () ↔ ∀ field ∈ fields, FieldHolds place es field := by
  induction fields with
  | nil => simp [checkFields]
  | cons field fields ih =>
    rw [checkFields, List.forall_mem_cons, ← ih]
    cases hv : es.find? field.1 with
    | some v => simp [FieldHolds, hv, bind_unit_eq_ok]
    | none => cases hm : field.2.allowsMissing <;> simp [FieldHolds, hv, hm]

theorem checkItems_cons_eq_ok {place : Place} {index : Nat} {p : Pattern} {ps : List Pattern}
    {v : Value} {vs : List Value} :
    checkItems place index (p :: ps) (v :: vs) = .ok () ↔
      checkAt (place ++ [.index index]) p v = .ok () ∧
        checkItems place (index + 1) ps vs = .ok () := by
  simp [checkItems, bind_unit_eq_ok]

theorem checkItems_eq_ok {place : Place} {index : Nat} {ps : List Pattern} {vs : List Value} :
    checkItems place index ps vs = .ok () ↔
      ∀ i p v, ps[i]? = some p → vs[i]? = some v →
        checkAt (place ++ [.index (index + i)]) p v = .ok () := by
  induction ps generalizing index vs with
  | nil => simp [checkItems]
  | cons p ps ih =>
    cases vs with
    | nil => simp [checkItems]
    | cons v vs =>
      rw [checkItems_cons_eq_ok, ih]
      constructor
      · rintro ⟨hp, hps⟩ i q w hq hw
        cases i with
        | zero =>
          obtain rfl : p = q := by simpa using hq
          obtain rfl : v = w := by simpa using hw
          exact hp
        | succ i =>
          simpa [Nat.add_right_comm, Nat.add_assoc] using
            hps i q w (by simpa using hq) (by simpa using hw)
      · refine fun h => ⟨h 0 p v rfl rfl, fun i q w hq hw => ?_⟩
        simpa [Nat.add_right_comm, Nat.add_assoc] using
          h (i + 1) q w (by simpa using hq) (by simpa using hw)

theorem decode_eq_ok {place : Place} {bytes : ByteArray} {v : Value} :
    decode place bytes = .ok v ↔ Value.readJson bytes = .ok v :=
  mapError_eq_ok

theorem checkAt_object_eq_ok {place : Place} {fields : List (String × Pattern)} {v : Value} :
    checkAt place (.object fields) v = .ok () ↔
      ∃ es, v.heldObject? = some es ∧ ∀ field ∈ fields, FieldHolds place es field := by
  simp only [checkAt, Value.heldObject?, ← checkFields_eq_ok]
  cases v.asObject? with
  | some es => simp
  | none =>
    cases jsonText? v with
    | none => simp
    | some text =>
      simp only [bind_eq_ok, decode_eq_ok]
      cases hread : Value.readJson text with
      | error e => simp [Except.toOption, hread]
      | ok decoded => cases h : decoded.asObject? <;> simp [Except.toOption, hread, h]

theorem checkAt_literal_eq_ok {place : Place} {expected actual : Value} :
    checkAt place (.literal expected) actual = .ok () ↔
      literalHolds place expected actual = .ok true := by
  rw [checkAt, bind_eq_ok]
  constructor
  · rintro ⟨holds, h, hif⟩
    cases holds <;> simp_all
  · exact fun h => ⟨true, h, rfl⟩

theorem checkEqual_literal_eq_ok {expected actual : Value}
    (h : compile expected = .ok (.literal expected)) :
    checkEqual actual expected = .ok () ↔ literalHolds [] expected actual = .ok true := by
  rw [checkEqual, h]
  exact checkAt_literal_eq_ok

theorem literalHolds_place {place there : Place} {expected actual : Value} {holds : Bool} :
    literalHolds place expected actual = .ok holds ↔
      literalHolds there expected actual = .ok holds := by
  cases expected with
  | str s =>
    cases actual with
    | time t =>
      simp only [literalHolds]
      cases Instant.read s <;> simp
    | _ => rfl
  | _ => cases actual <;> rfl

/-- A literal does not tell a value from one whose entries stand in another order. -/
theorem literalHolds_reordered {place : Place} {v w : Value} (hd : v.Distinct) (h : v.Reordered w)
    (expected : Value) : literalHolds place expected v = literalHolds place expected w := by
  have hsame : expected.same v = expected.same w := Value.same_reordered expected hd h
  cases h with
  | same => rfl
  | list _ =>
    cases expected with
    | list items => exact congrArg Except.ok hsame
    | _ => rfl
  | object _ _ =>
    cases expected with
    | object fields => exact congrArg Except.ok hsame
    | _ => rfl

theorem checkAt_place {place there : Place} {p : Pattern} {v : Value} :
    checkAt place p v = .ok () ↔ checkAt there p v = .ok () := by
  induction p using nested generalizing place there v with
  | literal expected => rw [checkAt_literal_eq_ok, checkAt_literal_eq_ok, literalHolds_place]
  | list items ih =>
    simp only [checkAt]
    cases v.asList? with
    | none => simp
    | some vs =>
      simp only
      split
      · simp
      · rw [checkItems_eq_ok, checkItems_eq_ok]
        refine forall₄_congr fun i p w hp => forall_congr' fun _ => ?_
        exact ih p (List.mem_of_getElem? hp)
  | object fields ih =>
    rw [checkAt_object_eq_ok, checkAt_object_eq_ok]
    refine exists_congr fun es => and_congr_right fun _ => forall₂_congr fun field hfield => ?_
    simp only [FieldHolds]
    cases es.find? field.1 with
    | none => rfl
    | some w => exact ih field hfield
  | present expected =>
    simp only [checkAt]
    split <;> simp
  | json inner ih =>
    simp only [checkAt]
    cases v.asObject? with
    | some es => exact ih
    | none =>
      cases jsonText? v with
      | none => simp
      | some text =>
        simp only [bind_eq_ok, decode_eq_ok]
        exact exists_congr fun w => and_congr_right fun _ => ih
  | regexp source r =>
    simp only [checkAt]
    split <;> simp

/-- Whatever passes the first pattern passes the second one, wherever it stands. -/
structure Implies (p q : Pattern) : Prop where
  allowsMissing : p.allowsMissing = true → q.allowsMissing = true
  passes : ∀ place v, checkAt place p v = .ok () → checkAt place q v = .ok ()

theorem Implies.refl (p : Pattern) : Implies p p := ⟨id, fun _ _ => id⟩

theorem Implies.fieldHolds {p q : Pattern} (h : Implies p q) {place : Place} {es : Entries Value}
    {key : String} (hp : FieldHolds place es (key, p)) : FieldHolds place es (key, q) := by
  simp only [FieldHolds] at hp ⊢
  cases hv : es.find? key with
  | none =>
    rw [hv] at hp
    exact h.allowsMissing hp
  | some v =>
    rw [hv] at hp
    exact h.passes _ v hp

theorem checkItems_implies {ps qs : List Pattern} (h : List.Forall₂ Implies ps qs) {place : Place}
    {index : Nat} {vs : List Value} (hps : checkItems place index ps vs = .ok ()) :
    checkItems place index qs vs = .ok () := by
  induction h generalizing index vs with
  | nil => rfl
  | cons hpq _ ih =>
    cases vs with
    | nil => simp [checkItems]
    | cons v vs =>
      rw [checkItems_cons_eq_ok] at hps ⊢
      exact ⟨hpq.passes _ v hps.1, ih hps.2⟩

theorem Implies.list {ps qs : List Pattern} (h : List.Forall₂ Implies ps qs) :
    Implies (.list ps) (.list qs) := by
  refine ⟨id, fun place v hps => ?_⟩
  simp only [checkAt, ← h.length_eq] at hps ⊢
  cases hvs : v.asList? with
  | none => simp [hvs] at hps
  | some vs =>
    simp only [hvs] at hps ⊢
    split at hps
    · simp at hps
    · next hlength =>
      rw [if_neg hlength]
      exact checkItems_implies h hps

theorem Implies.object {ps qs : List (String × Pattern)}
    (h : ∀ place es, (∀ field ∈ ps, FieldHolds place es field) →
      ∀ field ∈ qs, FieldHolds place es field) : Implies (.object ps) (.object qs) := by
  refine ⟨id, fun place v hps => ?_⟩
  obtain ⟨es, hes, hps⟩ := checkAt_object_eq_ok.mp hps
  exact checkAt_object_eq_ok.mpr ⟨es, hes, h place es hps⟩

theorem Implies.json {p q : Pattern} (h : Implies p q) : Implies (.json p) (.json q) := by
  refine ⟨id, fun place v hp => ?_⟩
  simp only [checkAt] at hp ⊢
  cases hes : v.asObject? with
  | some es =>
    simp only [hes] at hp
    exact h.passes place v hp
  | none =>
    cases htext : jsonText? v with
    | none => simp [hes, htext] at hp
    | some text =>
      simp only [hes, htext] at hp
      obtain ⟨decoded, hdecoded, hp⟩ := bind_eq_ok.mp hp
      exact bind_eq_ok.mpr ⟨decoded, hdecoded, h.passes place decoded hp⟩

/-- Patterns that the same values pass, wherever they stand. -/
structure Alike (p q : Pattern) : Prop where
  allowsMissing : p.allowsMissing = q.allowsMissing
  passes : ∀ place v, checkAt place p v = .ok () ↔ checkAt place q v = .ok ()

theorem Alike.refl (p : Pattern) : Alike p p := ⟨rfl, fun _ _ => Iff.rfl⟩

theorem Alike.of_implies {p q : Pattern} (h : Implies p q) (h' : Implies q p) : Alike p q :=
  ⟨Bool.eq_iff_iff.mpr ⟨h.allowsMissing, h'.allowsMissing⟩,
    fun place v => ⟨h.passes place v, h'.passes place v⟩⟩

theorem Alike.implies {p q : Pattern} (h : Alike p q) : Implies p q :=
  ⟨fun hp => h.allowsMissing ▸ hp, fun place v => (h.passes place v).mp⟩

theorem Alike.symm {p q : Pattern} (h : Alike p q) : Alike q p :=
  ⟨h.allowsMissing.symm, fun place v => (h.passes place v).symm⟩

/-- Fields that the same objects have. -/
def FieldsAlike (ps qs : List (String × Pattern)) : Prop :=
  ∀ place es, (∀ field ∈ ps, FieldHolds place es field) ↔ ∀ field ∈ qs, FieldHolds place es field

theorem FieldsAlike.cons {key : String} {p q : Pattern} {ps qs : List (String × Pattern)}
    (hpq : Alike p q) (h : FieldsAlike ps qs) : FieldsAlike ((key, p) :: ps) ((key, q) :: qs) := by
  intro place es
  rw [List.forall_mem_cons, List.forall_mem_cons]
  exact and_congr ⟨hpq.implies.fieldHolds, hpq.symm.implies.fieldHolds⟩ (h place es)

theorem FieldsAlike.trans {ps qs rs : List (String × Pattern)} (h : FieldsAlike ps qs)
    (h' : FieldsAlike qs rs) : FieldsAlike ps rs :=
  fun place es => (h place es).trans (h' place es)

theorem FieldsAlike.of_perm {ps qs : List (String × Pattern)} (h : ps.Perm qs) :
    FieldsAlike ps qs :=
  fun _ _ => forall_congr' fun _ => by rw [h.mem_iff]

theorem Alike.list {ps qs : List Pattern} (h : List.Forall₂ Alike ps qs) :
    Alike (.list ps) (.list qs) := by
  have hflip : List.Forall₂ Implies qs ps := (h.imp fun _ _ hpq => hpq.symm.implies).flip
  exact .of_implies (.list (h.imp fun _ _ => Alike.implies)) (.list hflip)

theorem Alike.object {ps qs : List (String × Pattern)} (h : FieldsAlike ps qs) :
    Alike (.object ps) (.object qs) :=
  .of_implies (.object fun place es => (h place es).mp) (.object fun place es => (h place es).mpr)

theorem Alike.json {p q : Pattern} (h : Alike p q) : Alike (.json p) (.json q) :=
  .of_implies h.implies.json h.symm.implies.json

end Pattern

end CaseSuite
