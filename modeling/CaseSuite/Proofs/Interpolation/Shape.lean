import CaseSuite.Proofs.Interpolation.Cut
import CaseSuite.Proofs.Outcome
import CaseSuite.Proofs.Value.Normal
/-!
The shape that interpolation keeps: items and entries in their order, each with what it becomes. An
object keeps all of its entries only if its keys stay apart: keys that become the same share one.
-/
set_option autoImplicit false

namespace CaseSuite

namespace Interpolator

variable (i : Interpolator) (vars : VariableStore)

mutual

/-- The second value is the first one with its texts replaced, part by part. -/
inductive KeepsShape : Value → Value → Prop
  | text {s : String} {w : Value} : i.string vars s = .ok w → KeepsShape (.str s) w
  | list {vs ws : List Value} : ItemsKeepShape vs ws → KeepsShape (.list vs) (.list ws)
  | object {es fs : List (String × Value)} :
      EntriesKeepShape es fs → KeepsShape (.object es) (.object fs)
  | scalar {v : Value} : v.asStr? = none → v.asList? = none → v.asObject? = none → KeepsShape v v

/-- Item by item, each with what it becomes. -/
inductive ItemsKeepShape : List Value → List Value → Prop
  | nil : ItemsKeepShape [] []
  | cons {v w : Value} {vs ws : List Value} : i.interpolate vars v = .ok w → KeepsShape v w →
      ItemsKeepShape vs ws → ItemsKeepShape (v :: vs) (w :: ws)

/-- Entry by entry, each with what its key and its value become. -/
inductive EntriesKeepShape : List (String × Value) → List (String × Value) → Prop
  | nil : EntriesKeepShape [] []
  | cons {key key' : String} {v w : Value} {es fs : List (String × Value)} :
      i.text vars key = .ok key' → i.interpolate vars v = .ok w → KeepsShape v w →
      EntriesKeepShape es fs → EntriesKeepShape ((key, v) :: es) ((key', w) :: fs)

end

/-- No two keys of an object become the same. -/
def KeysApart : Value → Prop
  | .object es => (es.map fun e => i.text vars e.1).Nodup
  | _ => True

/-- What an entry becomes. -/
def Becomes (e f : String × Value) : Prop :=
  i.text vars e.1 = .ok f.1 ∧ i.interpolate vars e.2 = .ok f.2

variable {i vars}

theorem interpolateItems_eq_mapM (vs : List Value) :
    i.interpolateItems vars vs = vs.mapM (i.interpolate vars) := by
  induction vs with
  | nil => rfl
  | cons v vs ih => rw [interpolateItems, List.mapM_cons, ih]

theorem interpolateItems_eq_ok {vs ws : List Value} : i.interpolateItems vars vs = .ok ws ↔
    List.Forall₂ (fun v w => i.interpolate vars v = .ok w) vs ws := by
  rw [interpolateItems_eq_mapM, mapM_eq_ok]

theorem interpolateEntries_eq_ok {es : List (String × Value)} {known fs : Entries Value} :
    i.interpolateEntries vars known es = .ok fs ↔
      ∃ made, List.Forall₂ (i.Becomes vars) es made ∧ fs = known.insertAll made := by
  induction es generalizing known with
  | nil => simp [interpolateEntries, Entries.insertAll, eq_comm]
  | cons e es ih =>
    simp only [interpolateEntries, bind_eq_ok, ih, List.forall₂_cons_left_iff]
    constructor
    · rintro ⟨key, hkey, w, hw, made, hmade, rfl⟩
      exact ⟨(key, w) :: made, ⟨(key, w), made, ⟨hkey, hw⟩, hmade, rfl⟩, rfl⟩
    · rintro ⟨_, ⟨⟨key, w⟩, made, ⟨hkey, hw⟩, hmade, rfl⟩, rfl⟩
      exact ⟨key, hkey, w, hw, made, hmade, rfl⟩

theorem becomes_unique {es fs gs : List (String × Value)}
    (h : List.Forall₂ (i.Becomes vars) es fs) (h' : List.Forall₂ (i.Becomes vars) es gs) :
    fs = gs := by
  induction h generalizing gs with
  | nil =>
    cases h'
    rfl
  | cons hf _ ih =>
    cases h' with
    | cons hg h' =>
      have hkey := Except.ok.inj (hf.1.symm.trans hg.1)
      have hvalue := Except.ok.inj (hf.2.symm.trans hg.2)
      rw [Prod.ext hkey hvalue, ih h']

theorem keysApart_iff {es fs : List (String × Value)} (h : List.Forall₂ (i.Becomes vars) es fs) :
    i.KeysApart vars (.object es) ↔ Entries.Distinct fs := by
  have hnames : es.map (fun e => i.text vars e.1) = (Entries.names fs).map .ok := by
    induction h with
    | nil => rfl
    | cons hf _ ih => rw [List.map_cons, hf.1, ih, Entries.names_cons, List.map_cons]
  rw [KeysApart, hnames, Entries.Distinct]
  exact List.nodup_map_iff fun _ _ => Except.ok.inj

theorem EntriesKeepShape.becomes {es fs : List (String × Value)}
    (h : EntriesKeepShape i vars es fs) : List.Forall₂ (i.Becomes vars) es fs := by
  induction es generalizing fs with
  | nil =>
    cases h
    exact .nil
  | cons e es ih =>
    cases h with
    | cons hkey hv _ hes => exact .cons ⟨hkey, hv⟩ (ih hes)

theorem KeepsShape.entries {es fs : List (String × Value)}
    (h : KeepsShape i vars (.object es) (.object fs)) : EntriesKeepShape i vars es fs := by
  cases h with
  | object hentries => exact hentries
  | scalar _ _ hobject => contradiction

mutual

theorem keepsShape_iff : {v w : Value} → i.interpolate vars v = .ok w →
    (KeepsShape i vars v w ↔ v.Every (i.KeysApart vars))
  | .str s, w, h => iff_of_true (.text h) trivial
  | .list vs, w, h => by
    obtain ⟨ws, hws, rfl⟩ := map_eq_ok.mp h
    have hitems := itemsKeepShape_iff (interpolateItems_eq_ok.mp hws)
    constructor
    · rintro (_ | hkeeps | _ | ⟨_, hlist, _⟩)
      · exact ⟨trivial, hitems.mp hkeeps⟩
      · contradiction
    · intro hevery
      exact .list (hitems.mpr hevery.2)
  | .object es, w, h => by
    obtain ⟨fs, hfs, rfl⟩ := map_eq_ok.mp h
    obtain ⟨made, hmade, rfl⟩ := interpolateEntries_eq_ok.mp hfs
    have hentries := entriesKeepShape_iff hmade
    constructor
    · intro hkeeps
      have hall := becomes_unique hkeeps.entries.becomes hmade
      rw [hall] at hkeeps
      exact ⟨(keysApart_iff hmade).mpr (Entries.insertAll_nil_eq_iff.mp hall),
        hentries.mp hkeeps.entries⟩
    · rintro ⟨hapart, hevery⟩
      rw [Entries.insertAll_nil_eq_iff.mpr ((keysApart_iff hmade).mp hapart)]
      exact .object (hentries.mpr hevery)
  | .null, w, h | .bool _, w, h | .int _, w, h | .float _, w, h | .bytes _, w, h
  | .time _, w, h => by
    obtain rfl := Except.ok.inj h
    exact iff_of_true (.scalar rfl rfl rfl) trivial

theorem itemsKeepShape_iff : {vs ws : List Value} →
    List.Forall₂ (fun v w => i.interpolate vars v = .ok w) vs ws →
    (ItemsKeepShape i vars vs ws ↔ itemsEvery (i.KeysApart vars) vs)
  | [], _, .nil => iff_of_true .nil trivial
  | v :: vs, _, .cons hv hvs => by
    have hhead := keepsShape_iff hv
    have htail := itemsKeepShape_iff hvs
    constructor
    · rintro (_ | ⟨_, hkeeps, hrest⟩)
      exact ⟨hhead.mp hkeeps, htail.mp hrest⟩
    · rintro ⟨hevery, hrest⟩
      exact .cons hv (hhead.mpr hevery) (htail.mpr hrest)

theorem entriesKeepShape_iff : {es fs : List (String × Value)} →
    List.Forall₂ (i.Becomes vars) es fs →
    (EntriesKeepShape i vars es fs ↔ entriesEvery (i.KeysApart vars) es)
  | [], _, .nil => iff_of_true .nil trivial
  | (key, v) :: es, _, .cons hf hes => by
    have hhead := keepsShape_iff hf.2
    have htail := entriesKeepShape_iff hes
    constructor
    · rintro (_ | ⟨_, _, hkeeps, hrest⟩)
      exact ⟨hhead.mp hkeeps, htail.mp hrest⟩
    · rintro ⟨hevery, hrest⟩
      exact .cons hf.1 hf.2 (hhead.mpr hevery) (htail.mpr hrest)

end

/-- The shape is kept only where keys stay apart; entries whose keys become the same take the place
of the first of them and the value of the last. -/
theorem interpolate_shape {v w : Value} (h : i.interpolate vars v = .ok w) :
    (KeepsShape i vars v w ↔ v.Every (i.KeysApart vars)) ∧
      ∀ es, v = .object es → ∃ made, List.Forall₂ (i.Becomes vars) es made ∧
        w = .object (Entries.ofList made) := by
  refine ⟨keepsShape_iff h, ?_⟩
  rintro es rfl
  obtain ⟨fs, hfs, rfl⟩ := map_eq_ok.mp h
  obtain ⟨made, hmade, rfl⟩ := interpolateEntries_eq_ok.mp hfs
  exact ⟨made, hmade, rfl⟩

def sampleVariables : VariableStore :=
  ((VariableStore.empty.save "a" (.str "x")).save "b" (.str "x")).save "c" (.list [.int 1])

def sampleTemplate : Value :=
  .object [("\x7b\x7b a \x7d\x7d", .str "\x7b\x7b c \x7d\x7d"),
    ("k", .list [.str "a is \x7b\x7ba\x7d\x7d", .null])]

theorem interpolate_shape_sampleTemplate :
    standard.interpolate sampleVariables sampleTemplate =
        .ok (.object [("x", .list [.int 1]), ("k", .list [.str "a is x", .null])]) ∧
      KeepsShape standard sampleVariables sampleTemplate
        (.object [("x", .list [.int 1]), ("k", .list [.str "a is x", .null])]) := by
  have hok : standard.interpolate sampleVariables sampleTemplate =
      .ok (.object [("x", .list [.int 1]), ("k", .list [.str "a is x", .null])]) := rfl
  have hfirst : standard.text sampleVariables "\x7b\x7b a \x7d\x7d" = .ok "x" := rfl
  have hsecond : standard.text sampleVariables "k" = .ok "k" := rfl
  refine ⟨hok, (interpolate_shape hok).1.mpr ?_⟩
  simp [sampleTemplate, Value.Every, entriesEvery, itemsEvery, KeysApart, hfirst, hsecond]

/-- An entry is lost where two keys become the same. -/
theorem exists_not_keepsShape : ¬ ∀ (i : Interpolator) (vars : VariableStore) (v w : Value),
    i.interpolate vars v = .ok w → KeepsShape i vars v w := by
  intro h
  have hok : standard.interpolate sampleVariables
      (.object [("\x7b\x7b a \x7d\x7d", .int 1), ("\x7b\x7b b \x7d\x7d", .int 2)]) =
        .ok (.object [("x", .int 2)]) := rfl
  exact absurd (h _ _ _ _ hok).entries.becomes.length_eq (by decide)

end Interpolator

end CaseSuite
