import CaseSuite.Proofs.Interpolation.Cut
import CaseSuite.Proofs.Outcome
/-!
What interpolation makes of a text, by its cut: a text without markers is left as it is, one that is
all marker becomes the value that the marker stands for, and any other keeps what stands between its
markers. A key is always filled with text. What is put in is not looked at again.
-/
set_option autoImplicit false

namespace CaseSuite

namespace Interpolator

section

variable (i : Interpolator) (vars : VariableStore)

/-- Why a marker stands for nothing: its path leads nowhere, there is no helper of its name, or the
helper refuses the value. -/
inductive Fails (m : Marker) : Error → Prop
  | path {problem : VariableProblem} :
      vars.find m.path = .error problem → Fails m (.interpolation m.path problem)
  | unknownHelper {v : Value} {name : String} : vars.find m.path = .ok v → m.helper = some name →
      i.helpers.find? name = none → Fails m (.interpolation m.path (.unknownHelper name))
  | helper {v : Value} {name : String} {helper : Helper} {e : Error} :
      vars.find m.path = .ok v → m.helper = some name → i.helpers.find? name = some helper →
      helper v = .error e → Fails m e

/-- What a marker stands for: the value at its path, or what its helper makes of that. -/
inductive Stands (m : Marker) : Except Error Value → Prop
  | value {v : Value} : vars.find m.path = .ok v → m.helper = none → Stands m (.ok v)
  | helper {v w : Value} {name : String} {helper : Helper} :
      vars.find m.path = .ok v → m.helper = some name → i.helpers.find? name = some helper →
      helper v = .ok w → Stands m (.ok w)
  | fails {e : Error} : i.Fails vars m e → Stands m (.error e)

/-- What a cut text becomes: the text of what a marker stands for is put in its place, and all else
stays. The first marker that stands for nothing gives the error. -/
inductive Filled :
    List (List Char × Marker) → List Char → Except Error (List Char) → Prop
  | last (last : List Char) : Filled [] last (.ok last)
  | marker {before rest last : List Char} {m : Marker} {v : Value}
      {found : List (List Char × Marker)} : i.Stands vars m (.ok v) → Filled found last (.ok rest) →
      Filled ((before, m) :: found) last (.ok (before ++ (v.text.toList ++ rest)))
  | fails {before last : List Char} {m : Marker} {e : Error} {found : List (List Char × Marker)} :
      i.Stands vars m (.error e) → Filled ((before, m) :: found) last (.error e)
  | failsLater {before last : List Char} {m : Marker} {v : Value} {e : Error}
      {found : List (List Char × Marker)} : i.Stands vars m (.ok v) →
      Filled found last (.error e) → Filled ((before, m) :: found) last (.error e)

end

/-- A cut text with each marker replaced by the text of what it stands for. -/
def fill (i : Interpolator) (vars : VariableStore) :
    List (List Char × Marker) → List Char → Except Error (List Char)
  | [], last => .ok last
  | (before, m) :: found, last => do
    let v ← i.resolve vars m
    let rest ← i.fill vars found last
    return before ++ (v.text.toList ++ rest)

variable {i : Interpolator} {vars : VariableStore} {found : List (List Char × Marker)}
  {last : List Char} {s : String} {m : Marker} {e : Error}

theorem lookup_eq_error {path : String} : vars.lookup path = .error e ↔
    ∃ problem, vars.find path = .error problem ∧ .interpolation path problem = e :=
  mapError_eq_error

theorem resolve_eq_error : i.resolve vars m = .error e ↔ i.Fails vars m e := by
  constructor
  · intro h
    obtain hlookup | ⟨v, hlookup, h⟩ := bind_eq_error.mp h
    · obtain ⟨problem, hfind, rfl⟩ := lookup_eq_error.mp hlookup
      exact .path hfind
    · have hfind := mapError_eq_ok.mp hlookup
      cases hname : m.helper with
      | none =>
        rw [hname] at h
        contradiction
      | some name =>
        cases hhelper : i.helpers.find? name with
        | none =>
          simp only [hname, hhelper] at h
          cases h
          exact .unknownHelper hfind hname hhelper
        | some helper =>
          simp only [hname, hhelper] at h
          exact .helper hfind hname hhelper h
  · intro h
    cases h with
    | path hfind => exact bind_eq_error.mpr (.inl (lookup_eq_error.mpr ⟨_, hfind, rfl⟩))
    | unknownHelper hfind hname hhelper =>
      refine bind_eq_error.mpr (.inr ⟨_, mapError_eq_ok.mpr hfind, ?_⟩)
      simp only [hname, hhelper]
      rfl
    | helper hfind hname hhelper he =>
      refine bind_eq_error.mpr (.inr ⟨_, mapError_eq_ok.mpr hfind, ?_⟩)
      simpa only [hname, hhelper] using he

theorem resolve_eq_ok {w : Value} : i.resolve vars m = .ok w ↔ i.Stands vars m (.ok w) := by
  constructor
  · intro h
    obtain ⟨v, hlookup, h⟩ := bind_eq_ok.mp h
    have hfind := mapError_eq_ok.mp hlookup
    cases hname : m.helper with
    | none =>
      rw [hname] at h
      exact pure_eq_ok.mp h ▸ .value hfind hname
    | some name =>
      cases hhelper : i.helpers.find? name with
      | none =>
        simp only [hname, hhelper] at h
        cases h
      | some helper =>
        simp only [hname, hhelper] at h
        exact .helper hfind hname hhelper h
  · intro h
    cases h with
    | value hfind hname =>
      refine bind_eq_ok.mpr ⟨_, mapError_eq_ok.mpr hfind, ?_⟩
      rw [hname]
      rfl
    | helper hfind hname hhelper hw =>
      refine bind_eq_ok.mpr ⟨_, mapError_eq_ok.mpr hfind, ?_⟩
      simpa only [hname, hhelper] using hw

theorem resolve_eq_iff {r : Except Error Value} : i.resolve vars m = r ↔ i.Stands vars m r := by
  cases r with
  | ok w => exact resolve_eq_ok
  | error e => exact resolve_eq_error.trans ⟨.fails, fun | .fails h => h⟩

theorem filled_fill (i : Interpolator) (vars : VariableStore)
    (found : List (List Char × Marker)) (last : List Char) :
    i.Filled vars found last (i.fill vars found last) := by
  induction found with
  | nil => exact .last last
  | cons part found ih =>
    obtain ⟨before, m⟩ := part
    rw [fill]
    cases hm : i.resolve vars m with
    | error e => exact .fails (resolve_eq_iff.mp hm)
    | ok v =>
      cases hrest : i.fill vars found last with
      | error e => exact .failsLater (resolve_eq_iff.mp hm) (hrest ▸ ih)
      | ok rest => exact .marker (resolve_eq_iff.mp hm) (hrest ▸ ih)

theorem Filled.eq_fill {r : Except Error (List Char)} (h : i.Filled vars found last r) :
    r = i.fill vars found last := by
  induction h with
  | last last => rfl
  | marker hm _ ih => rw [fill, resolve_eq_iff.mpr hm, ← ih]; rfl
  | fails hm => rw [fill, resolve_eq_iff.mpr hm]; rfl
  | failsLater hm _ ih => rw [fill, resolve_eq_iff.mpr hm, ← ih]; rfl

theorem join_append (cs : List Char) (ps : List Piece) :
    i.join vars (cs.map .char ++ ps) = (cs ++ ·) <$> i.join vars ps := by
  induction cs with
  | nil => exact (id_map _).symm
  | cons c cs ih =>
    rw [List.map_cons, List.cons_append, join, ih]
    cases i.join vars ps <;> rfl

theorem join_piecesOf : i.join vars (piecesOf found last) = i.fill vars found last := by
  induction found with
  | nil =>
    rw [piecesOf, ← List.append_nil (last.map Piece.char), join_append, fill, join]
    exact congrArg Except.ok (List.append_nil last)
  | cons part found ih =>
    obtain ⟨before, m⟩ := part
    rw [piecesOf, join_append, fill, join, ih]
    cases i.resolve vars m with
    | error _ => rfl
    | ok v => cases i.fill vars found last <;> rfl

theorem text_eq_fill (h : Cut s.toList found last) :
    i.text vars s = String.ofList <$> i.fill vars found last := by
  rw [text, pieces, h.piecesAfter_eq, join_piecesOf]

theorem string_of_spelled (h : Cut s.toList found last) {m : Marker} (hm : m.Spelled s.toList) :
    i.string vars s = i.resolve vars m := by
  obtain ⟨rfl, rfl⟩ := h.spelled_iff.mp hm
  rw [string, pieces, h.piecesAfter_eq]
  rfl

theorem string_of_not_spelled (h : Cut s.toList found last)
    (hs : ∀ m : Marker, ¬ m.Spelled s.toList) :
    i.string vars s = (fun cs => .str (String.ofList cs)) <$> i.fill vars found last := by
  rw [string, pieces, h.piecesAfter_eq, ← join_piecesOf]
  split
  case h_1 m hpieces =>
    have hwhole : piecesOf found last = piecesOf [([], m)] [] := hpieces
    exact absurd (h.spelled_iff.mpr (piecesOf_inj hwhole)) (hs m)
  case h_2 => rfl

theorem string_of_unmarked (h : Cut s.toList [] last) : i.string vars s = .ok (.str s) := by
  have hs (m : Marker) : ¬ m.Spelled s.toList := fun hm =>
    absurd (h.spelled_iff.mp hm).1 (List.cons_ne_nil _ _).symm
  rw [string_of_not_spelled h hs, fill, h.last_eq]
  exact congrArg (fun t => Except.ok (Value.str t)) String.ofList_toList

theorem interpolateEntries_cons (h : Cut s.toList found last) (known : Entries Value) (v : Value)
    (es : List (String × Value)) :
    i.interpolateEntries vars known ((s, v) :: es) = (do
      let key ← i.fill vars found last
      let w ← i.interpolate vars v
      i.interpolateEntries vars (known.insert (String.ofList key) w) es) := by
  rw [interpolateEntries, text_eq_fill h]
  cases i.fill vars found last <;> rfl

/-- The cut of a text decides what it becomes, as a value and as a key. -/
theorem interpolate_cut (i : Interpolator) (vars : VariableStore) (s : String) :
    ∃ found last filled,
      (∀ found' last', Cut s.toList found' last' ↔ found' = found ∧ last' = last) ∧
      (∀ r, i.Filled vars found last r ↔ r = filled) ∧
      (found = [] → i.interpolate vars (.str s) = .ok (.str s)) ∧
      (∀ m : Marker, m.Spelled s.toList → ∀ r,
        i.interpolate vars (.str s) = r ↔ i.Stands vars m r) ∧
      ((∀ m : Marker, ¬ m.Spelled s.toList) → i.interpolate vars (.str s) =
        (fun cs => .str (String.ofList cs)) <$> filled) ∧
      ∀ (known : Entries Value) (v : Value) (es : List (String × Value)),
        i.interpolateEntries vars known ((s, v) :: es) = (do
          let key ← filled
          let w ← i.interpolate vars v
          i.interpolateEntries vars (known.insert (String.ofList key) w) es) := by
  obtain ⟨found, last, hcut⟩ := exists_cut s.toList
  refine ⟨found, last, i.fill vars found last, fun found' last' => ⟨fun h => h.unique hcut, ?_⟩,
    fun r => ⟨Filled.eq_fill, ?_⟩, ?_, fun m hm r => ?_, string_of_not_spelled hcut,
    interpolateEntries_cons hcut⟩
  · rintro ⟨rfl, rfl⟩
    exact hcut
  · rintro rfl
    exact filled_fill i vars found last
  · rintro rfl
    exact string_of_unmarked hcut
  · have hresolve : i.interpolate vars (.str s) = i.resolve vars m := string_of_spelled hcut hm
    rw [hresolve, resolve_eq_iff]

end Interpolator

end CaseSuite
