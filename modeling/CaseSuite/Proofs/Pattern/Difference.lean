import CaseSuite.Proofs.Pattern.Verdict
/-!
The first difference between a pattern and a value. A place leads down into both at once, as long as
everything before it in the order of the pattern passes; at its end the pattern there refuses the
value there, or the value lacks the last key. The place of a reported difference is such a one, and
its text says which.
-/
set_option autoImplicit false

namespace CaseSuite

/-! ### Texts of places -/

def Step.dotted : Step → String
  | .key name => "." ++ name
  | .index i => s!"[{i}]"

namespace Place

/-- The text of steps that follow others. -/
def trail : Place → String
  | [] => ""
  | step :: place => step.dotted ++ trail place

/-- Keys joined by dots, and indices in brackets. -/
def joined : Place → String
  | .key name :: place => name ++ trail place
  | place => trail place

/-- The place without the empty keys that it begins with. -/
def withoutLead (place : Place) : Place := place.dropWhile (· == .key "")

theorem extend_of_ne {text : String} (h : text ≠ "") (step : Step) :
    extend text step = text ++ step.dotted := by
  cases step with
  | key name =>
    simp only [extend, String.isEmpty_iff, h, if_false]
    exact String.append_assoc
  | index i =>
    simp only [extend, Step.dotted, String.append_assoc]
    rfl

theorem foldl_extend {text : String} (h : text ≠ "") (place : Place) :
    place.foldl extend text = text ++ trail place := by
  induction place generalizing text with
  | nil => simp [trail]
  | cons step place ih =>
    have hne : text ++ step.dotted ≠ "" := by simp [h]
    rw [List.foldl_cons, extend_of_ne h, ih hne, trail, String.append_assoc]

theorem text_eq_joined (place : Place) : place.text = place.withoutLead.joined := by
  induction place with
  | nil => rfl
  | cons step place ih =>
    cases step with
    | key name =>
      by_cases hname : name = ""
      · subst hname
        exact ih
      · have hlead : withoutLead (.key name :: place) = .key name :: place := by
          simp [withoutLead, hname]
        rw [hlead]
        exact foldl_extend hname place
    | index i =>
      have hfirst : extend "" (.index i) = (Step.index i).dotted := by
        simp [extend, Step.dotted]
        rfl
      have hne : (Step.index i).dotted ≠ "" := by simp [Step.dotted]
      rw [text, List.foldl_cons, hfirst, foldl_extend hne]
      rfl

end Place

namespace Error

/-- The place of a reported difference. -/
def place? : Error → Option Place
  | .mismatch place _ _ => some place
  | .missingKey place _ => some place
  | _ => none

/-- The path that a reported difference names. -/
def path? : Error → Option String
  | .mismatch place _ _ => some place.shown
  | .missingKey place _ => some place.text
  | _ => none

theorem place?_of_path? {e : Error} {path : String} (h : e.path? = some path) :
    ∃ place : Place, e.place? = some place ∧
      (place.text = path ∨ place.text = "" ∧ path = "$") := by
  cases e with
  | mismatch place actual expected =>
    refine ⟨place, rfl, ?_⟩
    obtain rfl := Option.some.inj h
    by_cases htext : place.text = ""
    · exact .inr ⟨htext, by simp [Place.shown, htext]⟩
    · exact .inl (by simp [Place.shown, htext])
  | missingKey place expected => exact ⟨place, rfl, .inl (Option.some.inj h)⟩
  | _ => cases h

end Error

/-! ### Places that lead into a pattern and a value -/

namespace Value

theorem asList?_eq_some {v : Value} {items : List Value} :
    v.asList? = some items ↔ v = .list items := by
  cases v <;> simp [asList?]

/-- An object, or a text that should be the JSON of one. -/
def IsDocument (v : Value) : Prop := v.asObject? ≠ none ∨ Pattern.jsonText? v ≠ none

/-- What is held against an object: the value itself, or what a text says as JSON. -/
def decoded? (v : Value) : Option Value :=
  match Pattern.jsonText? v with
  | none => some v
  | some text => (readJson text).toOption

end Value

namespace Pattern

def Accepts (p : Pattern) (v : Value) : Prop := p.check v = .ok ()

/-- The field matches, or it is missing and may be. -/
def Meets (es : Entries Value) (field : String × Pattern) : Prop :=
  match es.find? field.1 with
  | some v => field.2.Accepts v
  | none => field.2 = .present false

/-- The pattern itself refuses the value, whatever its items or fields ask for. -/
def Refuses : Pattern → Value → Prop
  | .literal expected, v => literalHolds [] expected v = .ok false
  | .list items, v => ∀ values, v.asList? = some values → values.length ≠ items.length
  | .object _, v => ∃ w, v.decoded? = some w ∧ w.asObject? = none
  | .present expected, v => v.isNull = expected
  | .json _, v => ¬ v.IsDocument
  | .regexp _ r, v => regexpHolds r v = false

/-- A place leads from a pattern and a value to those that stand there, past items and fields that
match. -/
inductive Reaches : Pattern → Value → Place → Pattern → Value → Prop
  | here (p : Pattern) (v : Value) : Reaches p v [] p v
  | item {before after : List Pattern} {us vs : List Value} {p q : Pattern} {v w : Value}
      {place : Place} : List.Forall₂ Accepts before us → after.length = vs.length →
      Reaches p v place q w →
      Reaches (.list (before ++ p :: after)) (.list (us ++ v :: vs))
        (.index before.length :: place) q w
  | field {before after : List (String × Pattern)} {key : String} {p q : Pattern} {u v w : Value}
      {es : Entries Value} {place : Place} : u.decoded? = some (.object es) →
      (∀ field ∈ before, Meets es field) → es.find? key = some v → Reaches p v place q w →
      Reaches (.object (before ++ (key, p) :: after)) u (.key key :: place) q w
  | json {inner q : Pattern} {u v w : Value} {place : Place} : u.IsDocument →
      u.decoded? = some v → Reaches inner v place q w → Reaches (.json inner) u place q w

/-- The first difference between a pattern and a value is at a place: what stands there is refused,
or the last key is missing where it must not be. -/
inductive DiffersFirstAt (p : Pattern) (v : Value) : Place → Prop
  | refused {place : Place} {q : Pattern} {w : Value} : Reaches p v place q w → Refuses q w →
      DiffersFirstAt p v place
  | missing {place : Place} {before after : List (String × Pattern)} {key : String} {q : Pattern}
      {w : Value} {es : Entries Value} :
      Reaches p v place (.object (before ++ (key, q) :: after)) w →
      w.decoded? = some (.object es) → (∀ field ∈ before, Meets es field) →
      es.find? key = none → q ≠ .present false → DiffersFirstAt p v (place ++ [.key key])

theorem allowsMissing_iff {p : Pattern} : p.allowsMissing = true ↔ p = .present false := by
  cases p <;> simp [allowsMissing]

theorem fieldHolds_iff_meets {place : Place} {es : Entries Value} {field : String × Pattern} :
    FieldHolds place es field ↔ Meets es field := by
  simp only [FieldHolds, Meets]
  cases es.find? field.1 with
  | some v => exact checkAt_place
  | none => exact allowsMissing_iff

/-- What leads further down from a part of both leads there from the whole. -/
theorem DiffersFirstAt.down {p p' : Pattern} {v v' : Value} {rest : Place} (steps : Place)
    (h : DiffersFirstAt p v rest)
    (hdown : ∀ {place q w}, Reaches p v place q w → Reaches p' v' (steps ++ place) q w) :
    DiffersFirstAt p' v' (steps ++ rest) := by
  cases h with
  | refused hreach hrefuse => exact .refused (hdown hreach) hrefuse
  | missing hreach hes hbefore hnone hq =>
    rw [← List.append_assoc]
    exact .missing (hdown hreach) hes hbefore hnone hq

/-! ### A reported difference is the first one -/

section Reported

variable {place there : Place} {e : Error}

theorem checkItems_eq_error {index : Nat} {ps : List Pattern} {vs : List Value}
    (hlength : ps.length = vs.length) (h : checkItems place index ps vs = .error e) :
    ∃ before p after us v ws, ps = before ++ p :: after ∧ vs = us ++ v :: ws ∧
      List.Forall₂ Accepts before us ∧ after.length = ws.length ∧
      checkAt (place ++ [.index (index + before.length)]) p v = .error e := by
  induction ps generalizing vs index with
  | nil => simp [checkItems] at h
  | cons p ps ih =>
    cases vs with
    | nil => simp at hlength
    | cons v vs =>
      have hlength : ps.length = vs.length := by simpa using hlength
      rw [checkItems] at h
      obtain h | ⟨_, hp, h⟩ := bind_eq_error.mp h
      · exact ⟨[], p, ps, [], v, vs, rfl, rfl, .nil, hlength, h⟩
      · obtain ⟨before, q, after, us, w, ws, rfl, rfl, hbefore, hafter, hq⟩ := ih hlength h
        refine ⟨p :: before, q, after, v :: us, w, ws, rfl, rfl,
          .cons (checkAt_place.mp hp) hbefore, hafter, ?_⟩
        rwa [List.length_cons, Nat.add_comm before.length, ← Nat.add_assoc]

/-- Fields of which the first ones match, and then one fails with an error. -/
def FailAt (place : Place) (es : Entries Value) (e : Error) (fields : List (String × Pattern)) :
    Prop :=
  ∃ before key p after, fields = before ++ (key, p) :: after ∧
    (∀ field ∈ before, Meets es field) ∧
    ((∃ v, es.find? key = some v ∧ checkAt (place ++ [.key key]) p v = .error e) ∨
      es.find? key = none ∧ p ≠ .present false ∧ e = .missingKey (place ++ [.key key]) p.text)

theorem FailAt.cons {es : Entries Value} {field : String × Pattern}
    {fields : List (String × Pattern)} (h : FailAt place es e fields) (hfield : Meets es field) :
    FailAt place es e (field :: fields) := by
  obtain ⟨before, key, p, after, rfl, hbefore, h⟩ := h
  exact ⟨field :: before, key, p, after, rfl, List.forall_mem_cons.mpr ⟨hfield, hbefore⟩, h⟩

theorem checkFields_eq_error {fields : List (String × Pattern)} {es : Entries Value}
    (h : checkFields place fields es = .error e) : FailAt place es e fields := by
  induction fields with
  | nil => simp [checkFields] at h
  | cons field fields ih =>
    obtain ⟨key, p⟩ := field
    rw [checkFields] at h
    cases hv : es.find? key with
    | some v =>
      simp only [hv] at h
      obtain h | ⟨_, hp, h⟩ := bind_eq_error.mp h
      · exact ⟨[], key, p, fields, rfl, by simp, .inl ⟨v, hv, h⟩⟩
      · refine (ih h).cons ?_
        simp only [Meets, hv]
        exact checkAt_place.mp hp
    | none =>
      simp only [hv] at h
      split at h
      · next hmay =>
        refine (ih h).cons ?_
        simpa only [Meets, hv] using allowsMissing_iff.mp hmay
      · next hmust =>
        refine ⟨[], key, p, fields, rfl, by simp, .inr ⟨hv, ?_, (Except.error.inj h).symm⟩⟩
        exact fun hp => hmust (allowsMissing_iff.mpr hp)

theorem literalHolds_eq_error {expected actual : Value}
    (h : literalHolds place expected actual = .error e) : e.place? = none := by
  cases expected with
  | str s =>
    cases actual with
    | time t =>
      simp only [literalHolds] at h
      cases hread : Instant.read s with
      | some u => simp [hread] at h
      | none =>
        simp only [hread] at h
        obtain rfl := Except.error.inj h
        rfl
    | _ => cases h
  | _ => cases actual <;> cases h

theorem decode_eq_error {bytes : ByteArray} (h : decode place bytes = .error e) :
    e.place? = none := by
  unfold decode at h
  cases hread : Value.readJson bytes with
  | ok v => simp [hread, Except.mapError] at h
  | error fault =>
    simp only [hread, Except.mapError] at h
    obtain rfl := Except.error.inj h
    rfl

theorem document_cases (v : Value) : (∃ es, v = .object es) ∨
    (∃ text, v.asObject? = none ∧ jsonText? v = some text) ∨
      v.asObject? = none ∧ jsonText? v = none := by
  cases v <;> simp [Value.asObject?, jsonText?]

theorem checkAt_object_eq_error {fields : List (String × Pattern)} {v : Value}
    (h : checkAt place (.object fields) v = .error e) (he : e.place? = some there) :
    (Refuses (.object fields) v ∧ there = place) ∨
      ∃ es, v.decoded? = some (.object es) ∧ checkFields place fields es = .error e := by
  obtain ⟨es, rfl⟩ | ⟨text, hes, htext⟩ | ⟨hes, htext⟩ := document_cases v
  · exact .inr ⟨es, rfl, h⟩
  · simp only [checkAt, hes, htext] at h
    obtain h | ⟨w, hw, h⟩ := bind_eq_error.mp h
    · simp [decode_eq_error h] at he
    · have hdecoded : v.decoded? = some w := by
        simp [Value.decoded?, htext, decode_eq_ok.mp hw, Except.toOption]
      cases w with
      | object es => exact .inr ⟨es, hdecoded, h⟩
      | _ =>
        obtain rfl := Except.error.inj h
        exact .inl ⟨⟨_, hdecoded, rfl⟩, (Option.some.inj he).symm⟩
  · simp only [checkAt, hes, htext] at h
    obtain rfl := Except.error.inj h
    exact .inl ⟨⟨v, by simp [Value.decoded?, htext], hes⟩, (Option.some.inj he).symm⟩

theorem checkAt_json_eq_error {inner : Pattern} {v : Value}
    (h : checkAt place (.json inner) v = .error e) (he : e.place? = some there) :
    (Refuses (.json inner) v ∧ there = place) ∨
      ∃ w, v.IsDocument ∧ v.decoded? = some w ∧ checkAt place inner w = .error e := by
  obtain ⟨es, rfl⟩ | ⟨text, hes, htext⟩ | ⟨hes, htext⟩ := document_cases v
  · exact .inr ⟨.object es, .inl (by simp [Value.asObject?]), rfl, h⟩
  · simp only [checkAt, hes, htext] at h
    obtain h | ⟨w, hw, h⟩ := bind_eq_error.mp h
    · simp [decode_eq_error h] at he
    · refine .inr ⟨w, .inr (by simp [htext]), ?_, h⟩
      simp [Value.decoded?, htext, decode_eq_ok.mp hw, Except.toOption]
  · simp only [checkAt, hes, htext] at h
    obtain rfl := Except.error.inj h
    exact .inl ⟨by simp [Refuses, Value.IsDocument, hes, htext], (Option.some.inj he).symm⟩

/-- Induction on the pattern, for every value and place: the place of the error continues the place
that is looked at. -/
theorem differsFirstAt_of_checkAt {p : Pattern} {v : Value} (h : checkAt place p v = .error e)
    (he : e.place? = some there) : ∃ rest, there = place ++ rest ∧ DiffersFirstAt p v rest := by
  have hhere {p : Pattern} {v : Value} {place : Place} (hrefuse : Refuses p v)
      (hthere : there = place) : ∃ rest, there = place ++ rest ∧ DiffersFirstAt p v rest :=
    ⟨[], by simp [hthere], .refused (.here p v) hrefuse⟩
  induction p using nested generalizing place v with
  | literal expected =>
    rw [checkAt] at h
    obtain h | ⟨holds, hholds, h⟩ := bind_eq_error.mp h
    · simp [literalHolds_eq_error h] at he
    · cases holds with
      | true => contradiction
      | false =>
        obtain rfl := Except.error.inj h
        exact hhere (literalHolds_place.mp hholds) (Option.some.inj he).symm
  | list items ih =>
    simp only [checkAt] at h
    cases hvs : v.asList? with
    | none =>
      simp only [hvs] at h
      obtain rfl := Except.error.inj h
      exact hhere (by simp [Refuses, hvs]) (Option.some.inj he).symm
    | some vs =>
      obtain rfl : v = .list vs := Value.asList?_eq_some.mp hvs
      simp only [hvs] at h
      split at h
      · next hlength =>
        obtain rfl := Except.error.inj h
        refine hhere (fun values hvalues => ?_) (Option.some.inj he).symm
        obtain rfl := Option.some.inj hvalues
        simpa using hlength
      · next hsame =>
        have hlength : vs.length = items.length := by simpa using hsame
        obtain ⟨before, p, after, us, w, ws, rfl, rfl, hbefore, hafter, hp⟩ :=
          checkItems_eq_error hlength.symm h
        obtain ⟨rest, rfl, hrest⟩ := ih p (by simp) hp
        rw [Nat.zero_add]
        refine ⟨.index before.length :: rest, by simp, ?_⟩
        exact hrest.down [_] fun hreach => .item hbefore hafter hreach
  | object fields ih =>
    obtain ⟨hrefuse, hthere⟩ | ⟨es, hes, h⟩ := checkAt_object_eq_error h he
    · exact hhere hrefuse hthere
    · obtain ⟨before, key, p, after, rfl, hbefore, ⟨w, hw, hp⟩ | ⟨hnone, hp, rfl⟩⟩ :=
        checkFields_eq_error h
      · obtain ⟨rest, rfl, hrest⟩ := ih (key, p) (by simp) hp
        refine ⟨.key key :: rest, by simp, ?_⟩
        exact hrest.down [_] fun hreach => .field hes hbefore hw hreach
      · obtain rfl := Option.some.inj he
        exact ⟨[.key key], rfl, .missing (.here _ v) hes hbefore hnone hp⟩
  | present expected =>
    simp only [checkAt] at h
    split at h
    · next hnull =>
      obtain rfl := Except.error.inj h
      exact hhere (by simpa [Refuses] using hnull) (Option.some.inj he).symm
    · contradiction
  -- What a text encodes stands where the text does, so no step of the place leads to it.
  | json inner ih =>
    obtain ⟨hrefuse, hthere⟩ | ⟨w, hdocument, hw, h⟩ := checkAt_json_eq_error h he
    · exact hhere hrefuse hthere
    · obtain ⟨rest, hthere, hrest⟩ := ih h
      exact ⟨rest, hthere, hrest.down [] fun hreach => .json hdocument hw hreach⟩
  | regexp source r =>
    simp only [checkAt] at h
    split at h
    · contradiction
    · next hno =>
      obtain rfl := Except.error.inj h
      exact hhere (by simpa [Refuses] using hno) (Option.some.inj he).symm

end Reported

/-! ### A first difference is reported -/

section First

variable {place : Place} {e : Error}

theorem checkItems_append {before ps : List Pattern} {us vs : List Value}
    (h : List.Forall₂ Accepts before us) (index : Nat) :
    checkItems place index (before ++ ps) (us ++ vs) =
      checkItems place (index + before.length) ps vs := by
  induction h generalizing index with
  | nil => rfl
  | @cons p v before us hp _ ih =>
    rw [List.cons_append, List.cons_append, checkItems, checkAt_place.mp hp]
    calc checkItems place (index + 1) (before ++ ps) (us ++ vs)
      _ = checkItems place (index + 1 + before.length) ps vs := ih (index + 1)
      _ = checkItems place (index + (p :: before).length) ps vs := by
        rw [List.length_cons, Nat.add_comm before.length, Nat.add_assoc]

theorem checkFields_append {before fields : List (String × Pattern)} {es : Entries Value}
    (h : ∀ field ∈ before, Meets es field) :
    checkFields place (before ++ fields) es = checkFields place fields es := by
  induction before with
  | nil => rfl
  | cons field before ih =>
    obtain ⟨hfield, h⟩ := List.forall_mem_cons.mp h
    rw [List.cons_append, checkFields, ih h]
    have hholds : FieldHolds place es field := fieldHolds_iff_meets.mpr hfield
    simp only [FieldHolds] at hholds
    cases hv : es.find? field.1 with
    | some v =>
      simp only [hv] at hholds ⊢
      rw [hholds]
      rfl
    | none =>
      simp only [hv] at hholds ⊢
      rw [if_pos hholds]

theorem decode_of_decoded? {v w : Value} {text : ByteArray} (htext : jsonText? v = some text)
    (h : v.decoded? = some w) : decode place text = .ok w := by
  simp only [Value.decoded?, htext] at h
  refine decode_eq_ok.mpr ?_
  cases hread : Value.readJson text with
  | ok u => simpa [hread, Except.toOption] using h
  | error _ => simp [hread, Except.toOption] at h

theorem checkAt_object_of_decoded? {fields : List (String × Pattern)} {v : Value}
    {es : Entries Value} (h : v.decoded? = some (.object es)) :
    checkAt place (.object fields) v = checkFields place fields es := by
  obtain ⟨es, rfl⟩ | ⟨text, hes, htext⟩ | ⟨hes, htext⟩ := document_cases v
  · obtain rfl : es = _ := by simpa [Value.decoded?, jsonText?] using h
    rfl
  · simp only [checkAt, hes, htext, decode_of_decoded? htext h]
    rfl
  · obtain rfl : v = _ := by simpa [Value.decoded?, htext] using h
    cases hes

theorem checkAt_json_of_decoded? {inner : Pattern} {v w : Value} (hdocument : v.IsDocument)
    (h : v.decoded? = some w) : checkAt place (.json inner) v = checkAt place inner w := by
  obtain ⟨es, rfl⟩ | ⟨text, hes, htext⟩ | ⟨hes, htext⟩ := document_cases v
  · obtain rfl : Value.object es = w := by simpa [Value.decoded?, jsonText?] using h
    rfl
  · simp only [checkAt, hes, htext, decode_of_decoded? htext h]
    rfl
  · simp [Value.IsDocument, hes, htext] at hdocument

theorem Reaches.checkAt_eq_error {p q : Pattern} {v w : Value} {rest : Place}
    (h : Reaches p v rest q w) (he : checkAt (place ++ rest) q w = .error e) :
    checkAt place p v = .error e := by
  induction h generalizing place with
  | here p v => simpa using he
  | @item before after us vs p q v w rest hbefore hafter _ ih =>
    have hp : checkAt (place ++ [.index before.length]) p v = .error e := ih (by simpa using he)
    have hlength : (us ++ v :: vs).length = (before ++ p :: after).length := by
      simp [hbefore.length_eq, hafter]
    simp only [checkAt, Value.asList?, hlength, bne_self_eq_false, Bool.false_eq_true, if_false]
    rw [checkItems_append hbefore, checkItems, Nat.zero_add, hp]
    rfl
  | @field before after key p q u v w es rest hes hbefore hv _ ih =>
    have hp : checkAt (place ++ [.key key]) p v = .error e := ih (by simpa using he)
    rw [checkAt_object_of_decoded? hes, checkFields_append hbefore, checkFields]
    simp only [hv, hp]
    rfl
  | json hdocument hv _ ih =>
    rw [checkAt_json_of_decoded? hdocument hv]
    exact ih he

theorem Refuses.exists_error {p : Pattern} {v : Value} (h : Refuses p v) :
    ∃ e, checkAt place p v = .error e ∧ e.place? = some place := by
  cases p with
  | literal expected =>
    have hholds : literalHolds place expected v = .ok false := literalHolds_place.mp h
    exact ⟨_, by rw [checkAt, hholds]; rfl, rfl⟩
  | list items =>
    cases hvs : v.asList? with
    | none => exact ⟨differs place v (.list items), by simp only [checkAt, hvs], rfl⟩
    | some vs =>
      have hlength : (vs.length != items.length) = true := by simpa using h vs hvs
      refine ⟨.mismatch place s!"{vs.length} items" s!"{items.length} items", ?_, rfl⟩
      simp only [checkAt, hvs, hlength, if_true]
  | object fields =>
    obtain ⟨w, hw, hno⟩ := h
    obtain ⟨es, rfl⟩ | ⟨text, hes, htext⟩ | ⟨hes, htext⟩ := document_cases v
    · obtain rfl : Value.object es = w := by simpa [Value.decoded?, jsonText?] using hw
      cases hno
    · refine ⟨differs place v (.object fields), ?_, rfl⟩
      simp only [checkAt, hes, htext, decode_of_decoded? htext hw]
      rw [bind_eq_error]
      exact .inr ⟨w, rfl, by rw [hno]; rfl⟩
    · exact ⟨differs place v (.object fields), by simp only [checkAt, hes, htext], rfl⟩
  | present expected =>
    have hnull : (v.isNull == expected) = true := by simpa [Refuses] using h
    exact ⟨_, by rw [checkAt, if_pos hnull], rfl⟩
  | json inner =>
    simp only [Refuses, Value.IsDocument, not_or, not_not] at h
    exact ⟨differs place v (.json inner), by simp only [checkAt, h.1, h.2], rfl⟩
  | regexp source r =>
    have hno : ¬ regexpHolds r v = true := by simpa [Refuses] using h
    exact ⟨_, by rw [checkAt, if_neg hno], rfl⟩

theorem DiffersFirstAt.exists_error {p : Pattern} {v : Value} {rest : Place}
    (h : DiffersFirstAt p v rest) :
    ∃ e, checkAt place p v = .error e ∧ e.place? = some (place ++ rest) := by
  cases h with
  | refused hreach hrefuse =>
    obtain ⟨e, herror, hplace⟩ := hrefuse.exists_error
    exact ⟨e, hreach.checkAt_eq_error herror, hplace⟩
  | @missing rest before after key q w es hreach hes hbefore hnone hq =>
    have hmust : ¬ q.allowsMissing = true := fun hmay => hq (allowsMissing_iff.mp hmay)
    refine ⟨.missingKey (place ++ rest ++ [.key key]) q.text, hreach.checkAt_eq_error ?_, by
      simp [Error.place?]⟩
    rw [checkAt_object_of_decoded? hes, checkFields_append hbefore, checkFields]
    simp only [hnone]
    rw [if_neg hmust]

end First

theorem exists_check_eq_error_iff {p : Pattern} {v : Value} {place : Place} :
    (∃ e, p.check v = .error e ∧ e.place? = some place) ↔ DiffersFirstAt p v place := by
  constructor
  · rintro ⟨e, h, he⟩
    obtain ⟨rest, rfl, hrest⟩ := differsFirstAt_of_checkAt h he
    exact hrest
  · exact fun h => h.exists_error

/-- A reported difference is real and is the first one: its path is the text of a place, but for
empty keys that the place begins with, at which pattern and value differ first. -/
theorem check_path {p : Pattern} {v : Value} {e : Error} {path : String}
    (h : p.check v = .error e) (hpath : e.path? = some path) :
    ∃ place : Place, (place.withoutLead.joined = path ∨
      place.withoutLead.joined = "" ∧ path = "$") ∧ DiffersFirstAt p v place := by
  obtain ⟨place, hplace, htext⟩ := Error.place?_of_path? hpath
  rw [Place.text_eq_joined] at htext
  exact ⟨place, htext, exists_check_eq_error_iff.mp ⟨e, h, hplace⟩⟩

/-- A JSON text with two items, the second of which has another name than is expected. -/
theorem check_path_encodedItems :
    let first : Pattern := .object [("name", .literal (.str "a"))]
    let second : Pattern := .object [("gone", .present false), ("name", .literal (.str "c"))]
    let p : Pattern := .json (.object [("items", .list [first, second])])
    let v : Value :=
      .str "\x7b\"items\":[\x7b\"name\":\"a\"\x7d,\x7b\"name\":\"b\"\x7d]\x7d"
    ∃ e, p.check v = .error e ∧ e.path? = some "items[1].name" ∧
      ∃ place : Place, (place.withoutLead.joined = "items[1].name" ∨
        place.withoutLead.joined = "" ∧ "items[1].name" = "$") ∧ DiffersFirstAt p v place := by
  intro first second p v
  have herror : p.check v = .error (.mismatch [.key "items", .index 1, .key "name"]
      "\"b\" (string)" "\"c\" (string)") := rfl
  have hpath : Error.path? (.mismatch [.key "items", .index 1, .key "name"]
      "\"b\" (string)" "\"c\" (string)") = some "items[1].name" := by
    decide +kernel
  exact ⟨_, herror, hpath, check_path herror hpath⟩

/-- Under an empty key the path begins with the next key, and not with a dot. -/
theorem check_path_not_joined :
    let p : Pattern := .object [("", .object [("a", .literal (.int 1))])]
    let v : Value := .object [("", .object [("a", .int 2)])]
    compile (.object [("", .object [("a", .int 1)])]) = .ok p ∧
      ∃ e, p.check v = .error e ∧ e.path? = some "a" ∧
        ¬ ∃ place : Place, (place.joined = "a" ∨ place.joined = "" ∧ "a" = "$") ∧
          DiffersFirstAt p v place := by
  intro p v
  have herror : p.check v = .error (.mismatch [.key "", .key "a"] "2 (integer)" "1 (integer)") :=
    rfl
  refine ⟨rfl, _, herror, by decide +kernel, ?_⟩
  rintro ⟨place, htext, hdiffers⟩
  -- The first difference is at one place only, and the text of that one begins with a dot.
  obtain ⟨e, he, hplace⟩ := exists_check_eq_error_iff.mpr hdiffers
  rw [herror] at he
  obtain rfl := Except.error.inj he
  obtain rfl := Option.some.inj hplace
  revert htext
  decide +kernel

end Pattern

end CaseSuite
