import CaseSuite.Proofs.Pattern.Markers
import CaseSuite.Proofs.Pattern.Verdict
/-!
Edits that a comparison forgives. A key that is no longer expected cannot make a value fail that
passed, and a new key in a value does not matter where nobody asks for it. Either edit may be made
at any depth.
-/
set_option autoImplicit false

namespace CaseSuite

namespace Value

/-- The second value is the first one without one entry, whose key is no marker, of some object. -/
inductive Without : Value → Value → Prop
  | here (es : List (String × Value)) (key : String) (v : Value) (fs : List (String × Value)) :
      isMarkerKey key = false → Without (.object (es ++ (key, v) :: fs)) (.object (es ++ fs))
  | item {items : List Value} {i : Nat} {v w : Value} : items[i]? = some v → Without v w →
      Without (.list items) (.list (items.set i w))
  | entry (es : List (String × Value)) (key : String) {v w : Value}
      (fs : List (String × Value)) : Without v w →
      Without (.object (es ++ (key, v) :: fs)) (.object (es ++ (key, w) :: fs))

/-- The second value is the first one with a new key in the object at a place. -/
inductive Extended (key : String) : Place → Value → Value → Prop
  | here (es : List (String × Value)) (v : Value) (fs : List (String × Value)) :
      key ∉ Entries.names (es ++ fs) →
      Extended key [] (.object (es ++ fs)) (.object (es ++ (key, v) :: fs))
  | item {place : Place} {items : List Value} {i : Nat} {v w : Value} : items[i]? = some v →
      Extended key place v w →
      Extended key (.index i :: place) (.list items) (.list (items.set i w))
  | entry {place : Place} (es : List (String × Value)) (name : String) {v w : Value}
      (fs : List (String × Value)) : Extended key place v w →
      Extended key (.key name :: place) (.object (es ++ (name, v) :: fs))
        (.object (es ++ (name, w) :: fs))

/-- The part of a value that stands at a place in it. -/
inductive StandsAt : Place → Value → Value → Prop
  | here (v : Value) : StandsAt [] v v
  | item {place : Place} {items : List Value} {i : Nat} {v part : Value} : items[i]? = some v →
      StandsAt place v part → StandsAt (.index i :: place) (.list items) part
  | entry {place : Place} {es : List (String × Value)} {name : String} {v part : Value} :
      (name, v) ∈ es → StandsAt place v part → StandsAt (.key name :: place) (.object es) part

end Value

namespace Pattern

/-! ### What is no longer expected -/

theorem forall₂_implies_set {ps : List Pattern} {i : Nat} {p q : Pattern} (hp : ps[i]? = some p)
    (h : Implies p q) : List.Forall₂ Implies ps (ps.set i q) := by
  induction ps generalizing i with
  | nil => simp at hp
  | cons r ps ih =>
    have hrefl : List.Forall₂ Implies ps ps := List.forall₂_same.mpr fun p _ => .refl p
    cases i with
    | zero =>
      obtain rfl : r = p := by simpa using hp
      exact .cons h hrefl
    | succ i => exact .cons (.refl r) (ih (by simpa using hp))

section Fields

variable {place : Place} {skipped : Option String} {es fs : List (String × Value)} {key : String}
  {v : Value}

/-- What compiles with an entry in the middle compiles without it, but for its field. -/
theorem compileFields_middle {fields : List (String × Pattern)} (hskip : skipped ≠ some key) :
    compileFields place skipped (es ++ (key, v) :: fs) = .ok fields ↔
      ∃ before p after, compileFields place skipped es = .ok before ∧
        compileAt (place ++ [.key key]) v = .ok p ∧ compileFields place skipped fs = .ok after ∧
        fields = before ++ (key, p) :: after := by
  have hkeep : (skipped != some key) = true := by simpa using hskip
  simp only [compileFields_eq_ok, List.filter_append, List.filter_cons, hkeep, if_true,
    forall₂_append_left_iff, List.forall₂_cons_left_iff]
  constructor
  · rintro ⟨before, _, hbefore, ⟨⟨_, p⟩, after, ⟨rfl, hp⟩, hafter, rfl⟩, rfl⟩
    exact ⟨before, p, after, hbefore, hp, hafter, rfl⟩
  · rintro ⟨before, p, after, hbefore, hp, hafter, rfl⟩
    exact ⟨before, _, hbefore, ⟨(key, p), after, ⟨rfl, hp⟩, hafter, rfl⟩, rfl⟩

theorem compileFields_append {fields : List (String × Pattern)} :
    compileFields place skipped (es ++ fs) = .ok fields ↔
      ∃ before after, compileFields place skipped es = .ok before ∧
        compileFields place skipped fs = .ok after ∧ fields = before ++ after := by
  simp only [compileFields_eq_ok, List.filter_append, forall₂_append_left_iff]

theorem compileFields_skipped {fields : List (String × Pattern)} :
    compileFields place (some key) (es ++ (key, v) :: fs) = .ok fields ↔
      compileFields place (some key) (es ++ fs) = .ok fields := by
  simp [compileFields_eq_ok, List.filter_append]

end Fields

theorem object_implies_removed {before after : List (String × Pattern)} {key : String}
    {p : Pattern} :
    Implies (.object (before ++ (key, p) :: after)) (.object (before ++ after)) := by
  refine .object fun place es h field hfield => h field ?_
  rw [List.mem_append] at hfield ⊢
  exact hfield.imp_right (List.mem_cons_of_mem _)

theorem object_implies_replaced {before after : List (String × Pattern)} {key : String}
    {p q : Pattern} (hpq : Implies p q) :
    Implies (.object (before ++ (key, p) :: after)) (.object (before ++ (key, q) :: after)) := by
  refine .object fun place es h field hfield => ?_
  rw [List.mem_append, List.mem_cons] at hfield
  obtain hfield | rfl | hfield := hfield
  · exact h field (by simp [hfield])
  · exact hpq.fieldHolds (h (key, p) (by simp))
  · exact h field (by simp [hfield])

theorem eq_of_middle_eq_singleton {es fs : List (String × Value)} {e f : String × Value}
    (h : es ++ e :: fs = [f]) : e = f := by
  have hmem : e ∈ [f] := h ▸ by simp
  simpa using hmem

section Edits

variable {place : Place} {es fs : List (String × Value)} {key : String} {x y : Value} {p : Pattern}

theorem compileAt_removed (hkey : isMarkerKey key = false)
    (hp : compileAt place (.object (es ++ (key, x) :: fs)) = .ok p) :
    ∃ q, compileAt place (.object (es ++ fs)) = .ok q ∧ Implies p q := by
  have hnames : ∀ name ∈ Entries.names (es ++ fs),
      name ∈ Entries.names (es ++ (key, x) :: fs) := by
    intro name hname
    rw [Entries.names_append, List.mem_append] at hname ⊢
    exact hname.imp_right (List.mem_cons_of_mem _)
  cases compileAt_object_eq_ok.mp hp with
  | plain hplain hfields =>
    obtain ⟨before, r, after, hbefore, _, hafter, rfl⟩ :=
      (compileFields_middle (by simp)).mp hfields
    have hless := compileFields_append.mpr ⟨before, after, hbefore, hafter, rfl⟩
    have hway := StandsFor.plain (fun name hname => hplain name (hnames name hname)) hless
    exact ⟨_, compileAt_object_eq_ok.mpr hway, object_implies_removed⟩
  | present hname hes =>
    obtain ⟨rfl, _⟩ := Prod.mk.inj (eq_of_middle_eq_singleton hes)
    simp [isMarkerKey_present hname] at hkey
  | regexp _ hes =>
    obtain ⟨rfl, _⟩ := Prod.mk.inj (eq_of_middle_eq_singleton hes)
    simp [isMarkerKey_regexp] at hkey
  | json hfind hother hfields =>
    have hne : key ≠ "$$_convert" := by
      rintro rfl
      simp [isMarkerKey_convert] at hkey
    obtain ⟨before, r, after, hbefore, _, hafter, rfl⟩ :=
      (compileFields_middle (by simpa using hne.symm)).mp hfields
    have hless := compileFields_append.mpr ⟨before, after, hbefore, hafter, rfl⟩
    rw [Entries.find?_append, Entries.find?_cons, if_neg hne, ← Entries.find?_append] at hfind
    have hway := StandsFor.json hfind
      (fun ⟨other, hmem, hmark⟩ => hother ⟨other, hnames other hmem, hmark⟩) hless
    exact ⟨_, compileAt_object_eq_ok.mpr hway, object_implies_removed.json⟩

theorem compileAt_set {items : List Value} {i : Nat} (hx : items[i]? = some x)
    (hxy : ∀ r, compileAt (place ++ [.index i]) x = .ok r →
      ∃ q, compileAt (place ++ [.index i]) y = .ok q ∧ Implies r q)
    (hp : compileAt place (.list items) = .ok p) :
    ∃ q, compileAt place (.list (items.set i y)) = .ok q ∧ Implies p q := by
  obtain ⟨ps, hps, rfl⟩ := map_eq_ok.mp hp
  obtain ⟨hlength, hps⟩ := compileItems_eq_ok.mp hps
  obtain ⟨r, hr, hrx⟩ := hps i x hx
  rw [Nat.zero_add] at hrx
  obtain ⟨q, hq, hrq⟩ := hxy r hrx
  have hset : compileItems place 0 (items.set i y) = .ok (ps.set i q) := by
    refine compileItems_eq_ok.mpr ⟨by simp [hlength], fun j z hz => ?_⟩
    by_cases hj : i = j
    · subst hj
      have hi : i < items.length := (List.getElem?_eq_some_iff.mp hx).1
      obtain rfl : y = z := by simpa [hi] using hz
      exact ⟨q, by simp [hlength, hi], by simpa using hq⟩
    · rw [List.getElem?_set_ne hj] at hz ⊢
      exact hps j z hz
  exact ⟨_, map_eq_ok.mpr ⟨_, hset, rfl⟩, .list (forall₂_implies_set hr hrq)⟩

theorem compileAt_replaced (h : x.Without y)
    (hxy : ∀ r, compileAt (place ++ [.key key]) x = .ok r →
      ∃ q, compileAt (place ++ [.key key]) y = .ok q ∧ Implies r q)
    (hp : compileAt place (.object (es ++ (key, x) :: fs)) = .ok p) :
    ∃ q, compileAt place (.object (es ++ (key, y) :: fs)) = .ok q ∧ Implies p q := by
  have hnames : Entries.names (es ++ (key, y) :: fs) = Entries.names (es ++ (key, x) :: fs) := by
    simp
  cases compileAt_object_eq_ok.mp hp with
  | plain hplain hfields =>
    obtain ⟨before, r, after, hbefore, hr, hafter, rfl⟩ :=
      (compileFields_middle (by simp)).mp hfields
    obtain ⟨q, hq, hrq⟩ := hxy r hr
    have hedited := (compileFields_middle (by simp)).mpr
      ⟨before, q, after, hbefore, hq, hafter, rfl⟩
    exact ⟨_, compileAt_object_eq_ok.mpr (.plain (hnames ▸ hplain) hedited),
      object_implies_replaced hrq⟩
  -- What a marker asks for is a scalar, in which there is nothing to leave out.
  | present _ hes =>
    obtain ⟨_, rfl⟩ := Prod.mk.inj (eq_of_middle_eq_singleton hes)
    cases h
  | regexp _ hes =>
    obtain ⟨_, rfl⟩ := Prod.mk.inj (eq_of_middle_eq_singleton hes)
    cases h
  | json hfind hother hfields =>
    have hother : ¬ OtherMarker (es ++ (key, y) :: fs) "$$_convert" := by
      rwa [OtherMarker, hnames]
    rw [Entries.find?_append, Entries.find?_cons] at hfind
    have hfind' : Entries.find? "$$_convert" (es ++ (key, y) :: fs) = some (.str "json") := by
      rw [Entries.find?_append, Entries.find?_cons]
      split at hfind
      · next hkey =>
        cases hes : Entries.find? "$$_convert" es with
        | none =>
          obtain rfl : x = .str "json" := by simpa [hes] using hfind
          cases h
        | some v => simpa [hes] using hfind
      · next hkey => rwa [if_neg hkey]
    by_cases hkey : key = "$$_convert"
    · subst hkey
      have hedited : compileFields place (some "$$_convert")
          (es ++ ("$$_convert", y) :: fs) = .ok _ :=
        compileFields_skipped.mpr (compileFields_skipped.mp hfields)
      exact ⟨_, compileAt_object_eq_ok.mpr (.json hfind' hother hedited), .refl _⟩
    · obtain ⟨before, r, after, hbefore, hr, hafter, rfl⟩ :=
        (compileFields_middle (by simpa using Ne.symm hkey)).mp hfields
      obtain ⟨q, hq, hrq⟩ := hxy r hr
      have hedited := (compileFields_middle (by simpa using Ne.symm hkey)).mpr
        ⟨before, q, after, hbefore, hq, hafter, rfl⟩
      exact ⟨_, compileAt_object_eq_ok.mpr (.json hfind' hother hedited),
        (object_implies_replaced hrq).json⟩

end Edits

theorem compileAt_without {v w : Value} (h : v.Without w) {place : Place} {p : Pattern}
    (hp : compileAt place v = .ok p) : ∃ q, compileAt place w = .ok q ∧ Implies p q := by
  induction h generalizing place p with
  | here _ _ _ _ hkey => exact compileAt_removed hkey hp
  | item hx _ ih => exact compileAt_set hx (fun _ hr => ih hr) hp
  | entry _ _ _ h ih => exact compileAt_replaced h (fun _ hr => ih hr) hp

/-! ### What nobody asks for -/

theorem exists_entry_of_field {place : Place} {skipped : Option String}
    {es : List (String × Value)} {fields : List (String × Pattern)}
    (h : compileFields place skipped es = .ok fields) {field : String × Pattern}
    (hfield : field ∈ fields) :
    ∃ v, (field.1, v) ∈ es ∧ compileAt (place ++ [.key field.1]) v = .ok field.2 := by
  obtain ⟨e, he, hkey, hp⟩ := exists_mem_of_forall₂ (compileFields_eq_ok.mp h) hfield
  rw [hkey]
  exact ⟨e.2, List.mem_of_mem_filter he, hp⟩

/-- Only what stands under the keys that are expected decides about an object. -/
theorem checkAt_object_congr {place : Place} {expected : Value} {p : Pattern}
    (hp : compileAt place expected = .ok p) {es fs : Entries Value}
    (h : ∀ entries, expected = .object entries → ∀ name v r, (name, v) ∈ entries →
      compileAt (place ++ [.key name]) v = .ok r →
      ∀ here, FieldHolds here es (name, r) ↔ FieldHolds here fs (name, r)) (here : Place) :
    checkAt here p (.object es) = .ok () ↔ checkAt here p (.object fs) = .ok () := by
  cases expected with
  | list items =>
    obtain ⟨ps, _, rfl⟩ := map_eq_ok.mp hp
    simp [checkAt, Value.asList?]
  | object entries =>
    have hfields : ∀ {skipped fields}, compileFields place skipped entries = .ok fields →
        (checkAt here (.object fields) (.object es) = .ok () ↔
          checkAt here (.object fields) (.object fs) = .ok ()) := by
      intro skipped fields hok
      simp only [checkAt_object_eq_ok, Value.heldObject?_object, Option.some.injEq,
        exists_eq_left']
      refine forall₂_congr fun field hfield => ?_
      obtain ⟨v, hv, hr⟩ := exists_entry_of_field hok hfield
      exact h entries rfl field.1 v field.2 hv hr here
    cases compileAt_object_eq_ok.mp hp with
    | plain _ hok => exact hfields hok
    | present _ _ => simp [checkAt, Value.isNull]
    | regexp _ _ => simp [checkAt, regexpHolds]
    | json _ _ hok => simpa [checkAt, Value.asObject?] using hfields hok
  | null | bool _ | int _ | float _ | str _ | bytes _ | time _ =>
    obtain rfl := Except.ok.inj hp
    rw [checkAt_literal_eq_ok, checkAt_literal_eq_ok]
    rfl

theorem checkAt_list_congr {place : Place} {expected : Value} {p : Pattern}
    (hp : compileAt place expected = .ok p) {vs ws : List Value} (hlength : vs.length = ws.length)
    (h : ∀ items, expected = .list items → ∀ i x r, items[i]? = some x →
      compileAt (place ++ [.index i]) x = .ok r → ∀ v w, vs[i]? = some v → ws[i]? = some w →
      ∀ here, checkAt here r v = .ok () ↔ checkAt here r w = .ok ()) (here : Place) :
    checkAt here p (.list vs) = .ok () ↔ checkAt here p (.list ws) = .ok () := by
  cases expected with
  | list items =>
    obtain ⟨ps, hps, rfl⟩ := map_eq_ok.mp hp
    simp only [checkAt, Value.asList?, hlength]
    split
    · simp
    · rw [checkItems_eq_ok, checkItems_eq_ok]
      have hitem : ∀ (i : Nat) (r : Pattern) (v w : Value), ps[i]? = some r → vs[i]? = some v →
          ws[i]? = some w → ∀ here, checkAt here r v = .ok () ↔ checkAt here r w = .ok () := by
        intro i r v w hr hv hw
        have hi : i < items.length := by
          rw [← (compileItems_eq_ok.mp hps).1]
          exact (List.getElem?_eq_some_iff.mp hr).1
        obtain ⟨q, hq, hx⟩ := (compileItems_eq_ok.mp hps).2 i items[i] (List.getElem?_eq_getElem hi)
        obtain rfl : r = q := by simpa [hr] using hq
        exact h items rfl i _ r (List.getElem?_eq_getElem hi) (by simpa using hx) v w hv hw
      constructor
      · intro hvs i r w hr hw
        have hi : i < vs.length := hlength ▸ (List.getElem?_eq_some_iff.mp hw).1
        have hv := List.getElem?_eq_getElem hi
        exact (hitem i r _ w hr hv hw _).mp (hvs i r _ hr hv)
      · intro hws i r v hr hv
        have hi : i < ws.length := hlength ▸ (List.getElem?_eq_some_iff.mp hv).1
        have hw := List.getElem?_eq_getElem hi
        exact (hitem i r v _ hr hv hw _).mpr (hws i r _ hr hw)
  | object entries =>
    cases compileAt_object_eq_ok.mp hp with
    | plain _ hok => simp [checkAt, Value.asObject?, jsonText?]
    | present _ _ => simp [checkAt, Value.isNull]
    | regexp _ _ => simp [checkAt, regexpHolds]
    | json _ _ hok => simp [checkAt, Value.asObject?, jsonText?]
  | null | bool _ | int _ | float _ | str _ | bytes _ | time _ =>
    obtain rfl := Except.ok.inj hp
    rw [checkAt_literal_eq_ok, checkAt_literal_eq_ok]
    rfl

theorem checkAt_extended {key : String} {there : Place} {v w : Value} (h : v.Extended key there w)
    {place : Place} {expected : Value} {p : Pattern} (hp : compileAt place expected = .ok p)
    (hkey : ∀ es, expected.StandsAt there (.object es) → key ∉ Entries.names es) (here : Place) :
    checkAt here p w = .ok () ↔ checkAt here p v = .ok () := by
  induction h generalizing place expected p here with
  | here es x fs _ =>
    refine checkAt_object_congr hp (fun entries hentries name y r hmem _ here => ?_) here
    -- The new entry is under none of the expected keys.
    have hne : key ≠ name := by
      rintro rfl
      exact hkey entries (hentries ▸ .here _) (Entries.mem_names_of_mem hmem)
    simp only [FieldHolds, Entries.find?_append, Entries.find?_cons, if_neg hne]
  | @item there items i x y hx _ ih =>
    have hi : i < items.length := (List.getElem?_eq_some_iff.mp hx).1
    refine checkAt_list_congr hp (by simp) (fun expectations hlist j e r he hr a b ha hb here => ?_)
      here
    subst hlist
    by_cases hj : i = j
    · subst hj
      obtain rfl : y = a := by simpa [hi] using ha
      obtain rfl : x = b := by simpa [hx] using hb
      exact ih hr (fun es hes => hkey es (.item he hes)) here
    · rw [List.getElem?_set_ne hj, hb] at ha
      rw [Option.some.inj ha]
  | @entry there es name x y fs _ ih =>
    refine checkAt_object_congr hp (fun entries hentries other e r hmem hr here => ?_) here
    simp only [FieldHolds, Entries.find?_append, Entries.find?_cons]
    -- The edit is seen only by the field whose key leads to it, and only if no entry hides it.
    by_cases hother : name = other
    · subst hentries hother
      cases Entries.find? name es with
      | some z => rfl
      | none =>
        simp only [if_true]
        exact ih hr (fun es hes => hkey es (.entry hmem hes)) _
    · rw [if_neg hother, if_neg hother]

end Pattern

/-- Edits that a comparison forgives: whatever passed still passes if a key that is no marker is no
longer expected, and a new key in the actual value changes nothing unless the object that is
expected there names it. -/
theorem checkEqual_edited {actual expected : Value} :
    (∀ expected', expected.Without expected' → checkEqual actual expected = .ok () →
      checkEqual actual expected' = .ok ()) ∧
    ∀ key place actual', actual.Extended key place actual' →
      (∀ es, expected.StandsAt place (.object es) → key ∉ Entries.names es) →
      (checkEqual actual' expected = .ok () ↔ checkEqual actual expected = .ok ()) := by
  constructor
  · intro expected' h hok
    obtain ⟨p, hp, hcheck⟩ := bind_eq_ok.mp hok
    obtain ⟨q, hq, hpq⟩ := Pattern.compileAt_without h hp
    exact bind_eq_ok.mpr ⟨q, hq, hpq.passes [] actual hcheck⟩
  · intro key place actual' h hkey
    rw [checkEqual, checkEqual, bind_eq_ok, bind_eq_ok]
    refine exists_congr fun p => and_congr_right fun hp => ?_
    exact Pattern.checkAt_extended h hp hkey []

def answerWith (user : Entries Value) : Value := .object [("users", .list [.object user])]

/-- An expected answer with one user, which may also come as a text. -/
def expectedWith (user : Entries Value) : Value :=
  .object [("$$_convert", .str "json"), ("users", .list [.object user])]

/-- A key that is expected to be missing. -/
def goneEntry : String × Value := ("gone", .object [("$$_exists", .bool false)])

/-- Of the only user less may be expected, and more may be there. -/
theorem checkEqual_edited_answerWith :
    checkEqual (answerWith [("id", .int 1)]) (expectedWith [("id", .int 1), goneEntry]) = .ok () ∧
      checkEqual (answerWith [("id", .int 1)]) (expectedWith [goneEntry]) = .ok () ∧
      checkEqual (answerWith [("name", .null), ("id", .int 1)])
        (expectedWith [("id", .int 1), goneEntry]) = .ok () := by
  have hok : checkEqual (answerWith [("id", .int 1)]) (expectedWith [("id", .int 1), goneEntry]) =
      .ok () := rfl
  have hwithout : (expectedWith [("id", .int 1), goneEntry]).Without (expectedWith [goneEntry]) :=
    .entry [("$$_convert", .str "json")] "users" []
      (@Value.Without.item [.object [("id", .int 1), goneEntry]] 0 _ _ rfl
        (.here [] "id" (.int 1) [goneEntry] (by decide +kernel)))
  have hextended : (answerWith [("id", .int 1)]).Extended "name" [.key "users", .index 0]
      (answerWith [("name", .null), ("id", .int 1)]) :=
    .entry [] "users" []
      (@Value.Extended.item "name" [] [.object [("id", .int 1)]] 0 _ _ rfl
        (.here [] .null [("id", .int 1)] (by decide)))
  have hkey : ∀ es, (expectedWith [("id", .int 1), goneEntry]).StandsAt
      [.key "users", .index 0] (.object es) → "name" ∉ Entries.names es := by
    intro es h
    cases h with
    | @entry _ _ _ users _ hmem h =>
      obtain rfl : users = .list [.object [("id", .int 1), goneEntry]] := by simpa using hmem
      cases h with
      | item hitem h =>
        obtain rfl := Option.some.inj hitem
        cases h with
        | here => decide
  exact ⟨hok, checkEqual_edited.1 _ hwithout hok,
    (checkEqual_edited.2 _ _ _ hextended hkey).mpr hok⟩

end CaseSuite
