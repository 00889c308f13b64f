import CaseSuite.Proofs.Pattern.Markers
import CaseSuite.Proofs.Pattern.Verdict
/-!
The order of keys in objects, which decides nothing. An object that is held against a pattern is
asked for keys and never for places. A pattern that is compiled looks for the first marker, but an
object with two of them is refused whichever comes first.
-/
set_option autoImplicit false

namespace CaseSuite

namespace Pattern

mutual

theorem checkAt_reordered {place : Place} {v w : Value} (hd : v.Distinct) (h : v.Reordered w) :
    (p : Pattern) → (checkAt place p v = .ok () ↔ checkAt place p w = .ok ())
  | .literal expected => by
    rw [checkAt_literal_eq_ok, checkAt_literal_eq_ok, literalHolds_reordered hd h]
  | .list items => by
    cases h with
    | same => rfl
    | list h =>
      have hitems : checkItems place 0 items _ = .ok () ↔ checkItems place 0 items _ = .ok () :=
        checkItems_reordered hd h items
      simp only [checkAt, Value.asList?, h.length_eq]
      split
      · simp
      · exact hitems
    | object _ _ => simp [checkAt, Value.asList?]
  | .object fields => by
    cases h with
    | same => rfl
    | list _ => simp [checkAt, Value.asObject?, jsonText?]
    | object hes hperm =>
      have hrel := Value.Reordered.find?_rel hd (.object hes hperm)
      simpa [checkAt_object_eq_ok] using fields_reordered hrel fields
  | .present expected => by
    cases h with
    | same => rfl
    | list _ => simp [checkAt, Value.isNull]
    | object _ _ => simp [checkAt, Value.isNull]
  | .json inner => by
    have hinner : checkAt place inner v = .ok () ↔ checkAt place inner w = .ok () :=
      checkAt_reordered hd h inner
    cases h with
    | same => rfl
    | list _ => simp [checkAt, Value.asObject?, jsonText?]
    | object hes hperm => simpa [checkAt, Value.asObject?] using hinner
  | .regexp source r => by
    cases h with
    | same => rfl
    | list _ => simp [checkAt, regexpHolds]
    | object _ _ => simp [checkAt, regexpHolds]

theorem checkItems_reordered {place : Place} {index : Nat} {vs ws : List Value}
    (hd : itemsDistinct vs) (h : ItemsReordered vs ws) : (ps : List Pattern) →
      (checkItems place index ps vs = .ok () ↔ checkItems place index ps ws = .ok ())
  | [] => by
    simp [checkItems]
  | p :: ps => by
    cases h with
    | nil => simp [checkItems]
    | cons hv hvs =>
      rw [checkItems_cons_eq_ok, checkItems_cons_eq_ok]
      exact and_congr (checkAt_reordered hd.1 hv p) (checkItems_reordered hd.2 hvs ps)

theorem fields_reordered {place : Place} {es fs : Entries Value}
    (h : ∀ key, Option.Rel (fun v w => v.Distinct ∧ v.Reordered w) (es.find? key) (fs.find? key)) :
    (fields : List (String × Pattern)) →
      ((∀ field ∈ fields, FieldHolds place es field) ↔ ∀ field ∈ fields, FieldHolds place fs field)
  | [] => by simp
  | (key, p) :: fields => by
    rw [List.forall_mem_cons, List.forall_mem_cons]
    refine and_congr ?_ (fields_reordered h fields)
    have hkey := h key
    simp only [FieldHolds]
    generalize es.find? key = v, fs.find? key = w at hkey ⊢
    cases hkey with
    | none => rfl
    | some hvw => exact checkAt_reordered hvw.1 hvw.2 p

end

/-- An object with two markers is no pattern, whichever of them comes first. -/
theorem compileAt_two_markers {place : Place} {es : List (String × Value)} {mark : MarkerEntry}
    (hmark : firstMarker? es = some mark) (hother : OtherMarker es mark.key) (p : Pattern) :
    compileAt place (.object es) ≠ .ok p := by
  have hlength := hother.length_gt (Entries.mem_names_of_mem (mem_of_firstMarker? hmark).1)
  have halone : ¬ es.length ≤ 1 := by omega
  intro h
  simp only [compileAt, hmark] at h
  split at h
  · exact halone (aloneIn_eq_ok.mp (bind_unit_eq_ok.mp h).1)
  · exact halone (aloneIn_eq_ok.mp (bind_unit_eq_ok.mp h).1)
  · exact halone (aloneIn_eq_ok.mp (bind_unit_eq_ok.mp h).1)
  · exact (checkFormat_eq_ok.mp (bind_unit_eq_ok.mp h).1).2 hother
  · simp at h

/-- Markers of one key whose values differ in order at most. -/
structure SameMarker (a b : MarkerEntry) : Prop where
  key : a.key = b.key
  name : a.name = b.name
  asBool? : a.value.asBool? = b.value.asBool?
  asStr? : a.value.asStr? = b.value.asStr?

section Marker

variable {place : Place} {a b : MarkerEntry} {es fs : List (String × Value)}

theorem SameMarker.compileExists_agree (h : SameMarker a b) (hlength : es.length = fs.length) :
    Agree Alike (compileExists place a es) (compileExists place b fs) := by
  refine (Agree.of_iff ?_).bind fun _ _ _ => ?_
  · rw [aloneIn_eq_ok, aloneIn_eq_ok, hlength]
  · rw [h.asBool?]
    cases b.value.asBool? with
    | none => exact .error _ _
    | some expected => exact .ok (.refl _)

theorem SameMarker.compileRegexp_agree (h : SameMarker a b) (hlength : es.length = fs.length) :
    Agree Alike (compileRegexp place a es) (compileRegexp place b fs) := by
  refine (Agree.of_iff ?_).bind fun _ _ _ => ?_
  · rw [aloneIn_eq_ok, aloneIn_eq_ok, hlength]
  · rw [h.asStr?]
    cases b.value.asStr? with
    | none => exact .error _ _
    | some source =>
      cases hread : Regex.read source with
      | none =>
        simp only [hread]
        exact .error _ _
      | some r =>
        simp only [hread]
        exact .ok (.refl _)

theorem SameMarker.checkFormat_agree (h : SameMarker a b)
    (hnames : (Entries.names es).Perm (Entries.names fs)) :
    Agree Eq (checkFormat place a es) (checkFormat place b fs) := by
  refine Agree.of_iff ?_
  simp only [checkFormat_eq_ok, OtherMarker, h.asStr?, h.key, hnames.mem_iff]

/-- Objects with the same keys and first marker compile alike if their fields do. -/
theorem compileAt_object_agree (hnames : (Entries.names es).Perm (Entries.names fs))
    (hmark : Option.Rel SameMarker (firstMarker? es) (firstMarker? fs))
    (hfields : ∀ skipped, Agree FieldsAlike (compileFields place skipped es)
      (compileFields place skipped fs)) :
    Agree Alike (compileAt place (.object es)) (compileAt place (.object fs)) := by
  have hlength : es.length = fs.length := by simpa [Entries.names] using hnames.length_eq
  simp only [compileAt]
  generalize firstMarker? es = a, firstMarker? fs = b at hmark ⊢
  cases hmark with
  | none => exact (hfields none).map fun _ _ h => .object h
  | @some a b h =>
    simp only [← h.name, ← h.key]
    split
    · exact h.compileExists_agree hlength
    · exact h.compileExists_agree hlength
    · exact h.compileRegexp_agree hlength
    · refine (h.checkFormat_agree hnames).bind fun _ _ _ => ?_
      exact (hfields _).bind fun _ _ h => .ok (.json (.object h))
    · exact .error _ _

end Marker

theorem compileFields_perm {place : Place} {skipped : Option String} {es fs : List (String × Value)}
    (h : es.Perm fs) :
    Agree List.Perm (compileFields place skipped es) (compileFields place skipped fs) := by
  induction h with
  | nil => exact .ok .nil
  | cons e _ ih =>
    simp only [compileFields]
    split
    · exact ih
    · refine (Agree.refl (fun _ => rfl) _).bind fun p _ hp => ?_
      exact ih.bind fun _ _ h => .ok (hp ▸ h.cons _)
  | swap e f es =>
    simp only [compileFields]
    generalize compileFields place skipped es = rest
    generalize compileAt _ e.2 = x, compileAt _ f.2 = y
    split
    · exact .refl .refl _
    · split
      · exact .refl .refl _
      · -- The patterns of both fields are needed in either order, and those of the rest after them.
        cases x with
        | error _ => cases y <;> exact .error _ _
        | ok p =>
          cases y with
          | error _ => exact .error _ _
          | ok q =>
            cases rest with
            | error _ => exact .error _ _
            | ok _ => exact .ok (.swap ..)
  | trans _ _ ih₁ ih₂ => exact ih₁.trans ih₂ fun _ _ _ => List.Perm.trans

/-- Entries in another order have the same first marker, or each order has two markers. -/
theorem firstMarker?_reordered {es gs : Entries Value} (hd : entriesDistinct es)
    (h : (Value.object es).Reordered (.object gs)) (hnames : es.names.Perm gs.names) :
    Option.Rel SameMarker (firstMarker? es) (firstMarker? gs) ∨
      ∃ a b, firstMarker? es = some a ∧ OtherMarker es a.key ∧
        firstMarker? gs = some b ∧ OtherMarker gs b.key := by
  cases ha : firstMarker? es with
  | none =>
    rw [firstMarker?_eq_none] at ha
    have hb : firstMarker? gs = none :=
      firstMarker?_eq_none.mpr fun key hkey => ha key (hnames.mem_iff.mpr hkey)
    rw [hb]
    exact .inl .none
  | some a =>
    cases hb : firstMarker? gs with
    | none =>
      rw [firstMarker?_eq_none] at hb
      have hmem := Entries.mem_names_of_mem (mem_of_firstMarker? ha).1
      have hkey := hb a.key (hnames.mem_iff.mp hmem)
      simp [isMarkerKey, (mem_of_firstMarker? ha).2] at hkey
    | some b =>
      obtain ⟨hamem, haname⟩ := mem_of_firstMarker? ha
      obtain ⟨hbmem, hbname⟩ := mem_of_firstMarker? hb
      have hdes : es.Distinct := entriesDistinct_names hd
      have hdgs : gs.Distinct := hnames.nodup_iff.mp hdes
      by_cases hkey : a.key = b.key
      · have hvalues := h.find?_rel hd a.key
        rw [hdes.find?_of_mem hamem, hkey, hdgs.find?_of_mem hbmem] at hvalues
        obtain ⟨_, hvalues⟩ := Option.rel_some_some.mp hvalues
        have hname : a.name = b.name := by
          rw [hkey, hbname] at haname
          exact (Option.some.inj haname).symm
        exact .inl (.some ⟨hkey, hname, hvalues.asBool?_eq, hvalues.asStr?_eq⟩)
      · -- each of the two stands in the other order as well, beside the first one there
        have hbes := hnames.mem_iff.mpr (Entries.mem_names_of_mem hbmem)
        have hags := hnames.mem_iff.mp (Entries.mem_names_of_mem hamem)
        exact .inr ⟨a, b, rfl, ⟨b.key, hbes, Ne.symm hkey, by simp [isMarkerKey, hbname]⟩,
          rfl, ⟨a.key, hags, hkey, by simp [isMarkerKey, haname]⟩⟩

mutual

/-- A value that stands for a pattern does so in every order of its objects. -/
theorem compileAt_reordered {place : Place} : (v : Value) → {w : Value} → v.Distinct →
    v.Reordered w → Agree Alike (compileAt place v) (compileAt place w)
  | .list items, _, hd, h => by
    cases h with
    | same => exact .refl .refl _
    | list h => exact (compileItems_reordered items hd h).map fun _ _ h => .list h
  | .object es, _, hd, h => by
    cases h with
    | same => exact .refl .refl _
    | @object _ fs gs hes hperm =>
      have hnames : (Entries.names es).Perm (Entries.names gs) := by
        rw [hes.names_eq]
        exact hperm.map Prod.fst
      obtain hmark | ⟨a, b, ha, hae, hb, hbg⟩ :=
        firstMarker?_reordered hd (.object hes hperm) hnames
      · refine compileAt_object_agree hnames hmark fun skipped => ?_
        exact (compileFields_reordered es hd hes).trans (compileFields_perm hperm)
          fun _ _ _ hab hbc => hab.trans (.of_perm hbc)
      · exact .of_ne (compileAt_two_markers ha hae) (compileAt_two_markers hb hbg)
  | .null, _, _, h => by
    cases h
    exact .refl .refl _
  | .bool _, _, _, h => by
    cases h
    exact .refl .refl _
  | .int _, _, _, h => by
    cases h
    exact .refl .refl _
  | .float _, _, _, h => by
    cases h
    exact .refl .refl _
  | .str _, _, _, h => by
    cases h
    exact .refl .refl _
  | .bytes _, _, _, h => by
    cases h
    exact .refl .refl _
  | .time _, _, _, h => by
    cases h
    exact .refl .refl _

theorem compileItems_reordered {place : Place} {index : Nat} : (vs : List Value) →
    {ws : List Value} → itemsDistinct vs → ItemsReordered vs ws →
    Agree (List.Forall₂ Alike) (compileItems place index vs) (compileItems place index ws)
  | [], _, _, h => by
    cases h
    exact .ok .nil
  | v :: vs, _, hd, h => by
    cases h with
    | cons hv hvs =>
      refine (compileAt_reordered v hd.1 hv).bind fun _ _ hp => ?_
      exact (compileItems_reordered vs hd.2 hvs).bind fun _ _ hps => .ok (.cons hp hps)

theorem compileFields_reordered {place : Place} {skipped : Option String} :
    (es : List (String × Value)) → {fs : List (String × Value)} → entriesDistinct es →
    EntriesReordered es fs →
    Agree FieldsAlike (compileFields place skipped es) (compileFields place skipped fs)
  | [], _, _, h => by
    cases h
    exact .ok fun _ _ => Iff.rfl
  | (key, v) :: es, _, hd, h => by
    cases h with
    | cons hv hes =>
      simp only [compileFields]
      split
      · exact compileFields_reordered es hd.2.2 hes
      · refine (compileAt_reordered v hd.2.1 hv).bind fun _ _ hp => ?_
        exact (compileFields_reordered es hd.2.2 hes).bind fun _ _ hps => .ok (.cons hp hps)

end

end Pattern

/-- The order of keys decides neither whether a value equals another one nor whether the other one
stands for a pattern at all. -/
theorem checkEqual_reordered {actual actual' expected expected' : Value}
    (hda : actual.Distinct) (hde : expected.Distinct) (ha : actual.Reordered actual')
    (he : expected.Reordered expected') :
    (checkEqual actual' expected' = .ok () ↔ checkEqual actual expected = .ok ()) ∧
      (Pattern.compile expected').isOk = (Pattern.compile expected).isOk := by
  have hcompile : Agree Pattern.Alike (Pattern.compile expected) (Pattern.compile expected') :=
    Pattern.compileAt_reordered expected hde he
  refine ⟨?_, hcompile.isOk_eq.symm⟩
  rw [checkEqual, checkEqual]
  generalize Pattern.compile expected = x, Pattern.compile expected' = y at hcompile ⊢
  cases hcompile with
  | error e e' => simp [bind_eq_ok]
  | @ok p q hpq =>
    calc q.check actual' = .ok ()
      _ ↔ q.check actual = .ok () := (Pattern.checkAt_reordered hda ha q).symm
      _ ↔ p.check actual = .ok () := (hpq.passes [] actual).symm

/-- Keys in another order on either side, and two markers in either order. -/
theorem checkEqual_markers_reordered :
    let missing : Value := .object [("$$_exists", .bool false)]
    let one : Value := .int 1
    checkEqual (.object [("b", .null), ("a", one)]) (.object [("a", one), ("b", missing)]) =
        .ok () ∧
      (Pattern.compile (.object [("$$_regexp", .str "a"), ("$$_exists", .bool true)])).isOk =
        false := by
  intro missing one
  constructor
  · have hda : (Value.object [("a", one), ("b", .null)]).Distinct := by
      simp [Value.Distinct, entriesDistinct, one]
    have hde : (Value.object [("b", missing), ("a", one)]).Distinct := by
      simp [Value.Distinct, entriesDistinct, missing, one]
    have ha := Value.Reordered.object (.refl [("a", one), ("b", .null)]) (.swap ..)
    have he := Value.Reordered.object (.refl [("b", missing), ("a", one)]) (.swap ..)
    exact (checkEqual_reordered hda hde ha he).1.mpr rfl
  · have hde : (Value.object [("$$_exists", .bool true), ("$$_regexp", .str "a")]).Distinct := by
      simp [Value.Distinct, entriesDistinct]
    have he := Value.Reordered.object
      (.refl [("$$_exists", .bool true), ("$$_regexp", .str "a")]) (.swap ..)
    have hda : Value.null.Distinct := by simp [Value.Distinct]
    exact (checkEqual_reordered hda hde (.same .null) he).2.trans rfl

end CaseSuite
