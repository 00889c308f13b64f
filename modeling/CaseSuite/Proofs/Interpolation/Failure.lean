import CaseSuite.Proofs.Interpolation.Filled
import CaseSuite.Proofs.Interpolation.Shape
import CaseSuite.Proofs.Value.Reordered
/-!
Where interpolation fails. The markers of a value stand in the order in which it is written down,
and the first of them that stands for nothing gives the error; what comes after it does not matter.
A value without markers stays as it is.
-/
set_option autoImplicit false

namespace CaseSuite

mutual

/-- The markers of a value in their order: item by item and entry by entry, those of a key before
those of what stands under it, and those of a text from left to right. -/
inductive Value.Marked : Value → List Marker → Prop
  | text {s : String} {found : List (List Char × Marker)} {last : List Char} :
      Cut s.toList found last → Value.Marked (.str s) (found.map Prod.snd)
  | list {vs : List Value} {ms : List Marker} : ItemsMarked vs ms → Value.Marked (.list vs) ms
  | object {es : List (String × Value)} {ms : List Marker} :
      EntriesMarked es ms → Value.Marked (.object es) ms
  | scalar {v : Value} : v.asStr? = none → v.asList? = none → v.asObject? = none →
      Value.Marked v []

inductive ItemsMarked : List Value → List Marker → Prop
  | nil : ItemsMarked [] []
  | cons {v : Value} {vs : List Value} {ms ns : List Marker} :
      Value.Marked v ms → ItemsMarked vs ns → ItemsMarked (v :: vs) (ms ++ ns)

inductive EntriesMarked : List (String × Value) → List Marker → Prop
  | nil : EntriesMarked [] []
  | cons {key : String} {found : List (List Char × Marker)} {last : List Char} {v : Value}
      {es : List (String × Value)} {ms ns : List Marker} : Cut key.toList found last →
      Value.Marked v ms → EntriesMarked es ns →
      EntriesMarked ((key, v) :: es) (found.map Prod.snd ++ (ms ++ ns))

end

mutual

theorem exists_marked : (v : Value) → ∃ ms, v.Marked ms
  | .str s => by
    obtain ⟨found, last, hcut⟩ := exists_cut s.toList
    exact ⟨_, .text hcut⟩
  | .list vs => by
    obtain ⟨ms, hms⟩ := exists_itemsMarked vs
    exact ⟨ms, .list hms⟩
  | .object es => by
    obtain ⟨ms, hms⟩ := exists_entriesMarked es
    exact ⟨ms, .object hms⟩
  | .null | .bool _ | .int _ | .float _ | .bytes _ | .time _ => ⟨[], .scalar rfl rfl rfl⟩

theorem exists_itemsMarked : (vs : List Value) → ∃ ms, ItemsMarked vs ms
  | [] => ⟨[], .nil⟩
  | v :: vs => by
    obtain ⟨ms, hms⟩ := exists_marked v
    obtain ⟨ns, hns⟩ := exists_itemsMarked vs
    exact ⟨ms ++ ns, .cons hms hns⟩

theorem exists_entriesMarked : (es : List (String × Value)) → ∃ ms, EntriesMarked es ms
  | [] => ⟨[], .nil⟩
  | (key, v) :: es => by
    obtain ⟨found, last, hcut⟩ := exists_cut key.toList
    obtain ⟨ms, hms⟩ := exists_marked v
    obtain ⟨ns, hns⟩ := exists_entriesMarked es
    exact ⟨_, .cons hcut hms hns⟩

end

mutual

theorem Value.Marked.unique : {v : Value} → {ms ns : List Marker} → v.Marked ms → v.Marked ns →
    ms = ns
  | .str _, _, _, .text hcut, h => by
    cases h with
    | text hcut' => rw [(hcut.unique hcut').1]
    | scalar hstr => contradiction
  | .list _, _, _, .list hms, h => by
    cases h with
    | list hns => exact ItemsMarked.unique hms hns
    | scalar _ hlist => contradiction
  | .object _, _, _, .object hms, h => by
    cases h with
    | object hns => exact EntriesMarked.unique hms hns
    | scalar _ _ hobject => contradiction
  | v, _, _, .scalar hstr hlist hobject, h => by
    cases h with
    | text _ | list _ | object _ => contradiction
    | scalar => rfl

theorem ItemsMarked.unique : {vs : List Value} → {ms ns : List Marker} → ItemsMarked vs ms →
    ItemsMarked vs ns → ms = ns
  | [], _, _, .nil, .nil => rfl
  | _ :: _, _, _, .cons hv hvs, .cons hv' hvs' => by rw [hv.unique hv', hvs.unique hvs']

theorem EntriesMarked.unique : {es : List (String × Value)} → {ms ns : List Marker} →
    EntriesMarked es ms → EntriesMarked es ns → ms = ns
  | [], _, _, .nil, .nil => rfl
  | _ :: _, _, _, .cons hcut hv hes, .cons hcut' hv' hes' => by
    rw [(hcut.unique hcut').1, hv.unique hv', hes.unique hes']

end

namespace Interpolator

variable (i : Interpolator) (vars : VariableStore)

/-- The first of these markers that fails has this error. -/
def FirstFails (ms : List Marker) (e : Error) : Prop :=
  ∃ before m after, ms = before ++ m :: after ∧ (∀ n ∈ before, ∀ e, ¬ i.Fails vars n e) ∧
    i.Fails vars m e

/-- A program that goes through these markers: it fails with the first one that does. -/
def Through {α : Type} (ms : List Marker) (x : Except Error α) : Prop :=
  ∀ e, x = .error e ↔ i.FirstFails vars ms e

variable {i vars} {m : Marker} {ms ns : List Marker} {e : Error} {α β : Type}

theorem not_firstFails_nil : ¬ i.FirstFails vars [] e := by
  rintro ⟨before, m, after, heq, _⟩
  simp at heq

theorem firstFails_cons : i.FirstFails vars (m :: ms) e ↔
    i.Fails vars m e ∨ (∀ e, ¬ i.Fails vars m e) ∧ i.FirstFails vars ms e := by
  constructor
  · rintro ⟨before, n, after, heq, hbefore, hn⟩
    obtain ⟨rfl, h⟩ | ⟨rest, rfl, h⟩ := List.cons_eq_append_iff.mp heq
    · cases h
      exact .inl hn
    · obtain ⟨hm, hrest⟩ := List.forall_mem_cons.mp hbefore
      exact .inr ⟨hm, rest, n, after, h, hrest, hn⟩
  · rintro (hm | ⟨hm, before, n, after, rfl, hbefore, hn⟩)
    · exact ⟨[], m, ms, rfl, by simp, hm⟩
    · exact ⟨m :: before, n, after, rfl, List.forall_mem_cons.mpr ⟨hm, hbefore⟩, hn⟩

theorem exists_firstFails : (∃ e, i.FirstFails vars ms e) ↔ ∃ m ∈ ms, ∃ e, i.Fails vars m e := by
  induction ms with
  | nil => simp [not_firstFails_nil]
  | cons m ms ih =>
    rw [List.exists_mem_cons_iff, ← ih]
    by_cases hm : ∃ e, i.Fails vars m e
    · obtain ⟨e, he⟩ := hm
      exact iff_of_true ⟨e, firstFails_cons.mpr (.inl he)⟩ (.inl ⟨e, he⟩)
    · simp only [firstFails_cons, not_exists.mp hm, not_false_iff, implies_true, true_and, false_or,
        exists_false]

/-- What fails first among more markers does so among the first ones, or none of those fails. -/
theorem firstFails_append : i.FirstFails vars (ms ++ ns) e ↔ i.FirstFails vars ms e ∨
    (∀ e, ¬ i.FirstFails vars ms e) ∧ i.FirstFails vars ns e := by
  induction ms with
  | nil => simp [not_firstFails_nil]
  | cons m ms ih =>
    simp only [List.cons_append, firstFails_cons, ih]
    by_cases hm : ∀ e, ¬ i.Fails vars m e
    · simp only [hm, not_false_iff, implies_true, true_and, false_or]
    · simp only [hm, false_and, or_false]

namespace Through

variable {x : Except Error α}

theorem pure (a : α) : i.Through vars [] (.ok a : Except Error α) :=
  fun _ => iff_of_false (fun h => nomatch h) not_firstFails_nil

theorem resolve (m : Marker) : i.Through vars [m] (i.resolve vars m) := by
  intro e
  simp [resolve_eq_error, firstFails_cons, not_firstFails_nil]

theorem map (h : i.Through vars ms x) (f : α → β) : i.Through vars ms (f <$> x) :=
  fun e => map_eq_error.trans (h e)

theorem bind {f : α → Except Error β} (h : i.Through vars ms x)
    (hf : ∀ a, i.Through vars ns (f a)) : i.Through vars (ms ++ ns) (x >>= f) := by
  have hfirst (e : Error) : i.FirstFails vars ms e ↔ x = .error e := (h e).symm
  intro e
  simp only [bind_eq_error, firstFails_append, hfirst]
  cases x with
  | error e' => simp
  | ok a => simpa using hf a e

end Through

theorem through_fill {found : List (List Char × Marker)} {last : List Char} :
    i.Through vars (found.map Prod.snd) (i.fill vars found last) := by
  induction found with
  | nil => exact .pure last
  | cons part found ih =>
    have hrest (v : Value) := ih.map fun rest => part.1 ++ (v.text.toList ++ rest)
    exact (Through.resolve part.2).bind hrest

theorem through_text {s : String} {found : List (List Char × Marker)} {last : List Char}
    (h : Cut s.toList found last) : i.Through vars (found.map Prod.snd) (i.text vars s) := by
  rw [text_eq_fill h]
  exact through_fill.map String.ofList

theorem through_string {s : String} {found : List (List Char × Marker)} {last : List Char}
    (h : Cut s.toList found last) : i.Through vars (found.map Prod.snd) (i.string vars s) := by
  by_cases hm : ∃ m : Marker, m.Spelled s.toList
  · obtain ⟨m, hm⟩ := hm
    obtain ⟨rfl, _⟩ := h.spelled_iff.mp hm
    rw [string_of_spelled h hm]
    exact Through.resolve m
  · rw [string_of_not_spelled h (not_exists.mp hm)]
    exact through_fill.map fun cs => Value.str (String.ofList cs)

mutual

theorem through_interpolate : {v : Value} → {ms : List Marker} → v.Marked ms →
    i.Through vars ms (i.interpolate vars v)
  | .str _, _, .text hcut => through_string hcut
  | .list _, _, .list hms => (through_interpolateItems hms).map Value.list
  | .object _, _, .object hms => (through_interpolateEntries hms).map Value.object
  | v, _, .scalar hstr hlist hobject => by
    cases v with
    | str _ | list _ | object _ => contradiction
    | null | bool _ | int _ | float _ | bytes _ | time _ => exact .pure _

theorem through_interpolateItems : {vs : List Value} → {ms : List Marker} → ItemsMarked vs ms →
    i.Through vars ms (i.interpolateItems vars vs)
  | [], _, .nil => .pure []
  | _ :: _, _, .cons hv hvs =>
    (through_interpolate hv).bind fun w => (through_interpolateItems hvs).map (w :: ·)

theorem through_interpolateEntries : {es : List (String × Value)} → {ms : List Marker} →
    EntriesMarked es ms → ∀ {known : Entries Value},
      i.Through vars ms (i.interpolateEntries vars known es)
  | [], _, .nil, known => .pure known
  | _ :: _, _, .cons hcut hv hes, _ =>
    (through_text hcut).bind fun _ => (through_interpolate hv).bind fun _ =>
      through_interpolateEntries hes

end

/-! ### Values without markers -/

theorem text_of_unmarked {s : String} {last : List Char} (h : Cut s.toList [] last) :
    i.text vars s = .ok s := by
  rw [text_eq_fill h, fill, h.last_eq]
  exact congrArg Except.ok String.ofList_toList

mutual

theorem interpolate_of_unmarked : {v : Value} → v.Distinct → v.Marked [] →
    i.interpolate vars v = .ok v
  | .str s, _, h => by
    generalize hnil : [] = ms at h
    cases h with
    | @text _ found _ hcut =>
      obtain rfl := List.map_eq_nil_iff.mp hnil.symm
      exact string_of_unmarked hcut
    | scalar hstr => contradiction
  | .list vs, hd, h => by
    cases h with
    | list hvs =>
      have hall := interpolateItems_eq_ok.mpr (items_of_unmarked hd hvs)
      exact map_eq_ok.mpr ⟨vs, hall, rfl⟩
    | scalar _ hlist => contradiction
  | .object es, hd, h => by
    cases h with
    | object hes =>
      have hkept : es = Entries.insertAll [] es :=
        (Entries.insertAll_nil_eq_iff.mpr (entriesDistinct_names hd)).symm
      have hall := interpolateEntries_eq_ok.mpr ⟨es, entries_of_unmarked hd hes, hkept⟩
      exact map_eq_ok.mpr ⟨es, hall, rfl⟩
    | scalar _ _ hobject => contradiction
  | .null, _, _ | .bool _, _, _ | .int _, _, _ | .float _, _, _ | .bytes _, _, _
  | .time _, _, _ => rfl

theorem items_of_unmarked : {vs : List Value} → itemsDistinct vs → ItemsMarked vs [] →
    List.Forall₂ (fun v w => i.interpolate vars v = .ok w) vs vs
  | [], _, _ => .nil
  | v :: vs, hd, h => by
    generalize hnil : [] = ms at h
    cases h with
    | cons hv hvs =>
      obtain ⟨rfl, rfl⟩ := List.append_eq_nil_iff.mp hnil.symm
      exact .cons (interpolate_of_unmarked hd.1 hv) (items_of_unmarked hd.2 hvs)

theorem entries_of_unmarked : {es : List (String × Value)} → entriesDistinct es →
    EntriesMarked es [] → List.Forall₂ (i.Becomes vars) es es
  | [], _, _ => .nil
  | (key, v) :: es, hd, h => by
    generalize hnil : [] = ms at h
    cases h with
    | cons hcut hv hes =>
      obtain ⟨hfound, hrest⟩ := List.append_eq_nil_iff.mp hnil.symm
      obtain ⟨rfl, rfl⟩ := List.append_eq_nil_iff.mp hrest
      obtain rfl := List.map_eq_nil_iff.mp hfound
      exact .cons ⟨text_of_unmarked hcut, interpolate_of_unmarked hd.2.1 hv⟩
        (entries_of_unmarked hd.2.2 hes)

end

/-- Interpolation fails exactly if a marker of the value does, with the error of the first one that
does; a value without markers is left as it is. -/
theorem interpolate_firstFails (i : Interpolator) (vars : VariableStore) (v : Value) :
    ∃ ms, (∀ ms', v.Marked ms' ↔ ms' = ms) ∧
      ((∃ e, i.interpolate vars v = .error e) ↔ ∃ m ∈ ms, ∃ e, i.Fails vars m e) ∧
      (∀ e, i.interpolate vars v = .error e ↔ i.FirstFails vars ms e) ∧
      (ms = [] → v.Distinct → i.interpolate vars v = .ok v) := by
  obtain ⟨ms, hms⟩ := exists_marked v
  have hfirst : i.Through vars ms (i.interpolate vars v) := through_interpolate hms
  refine ⟨ms, fun ms' => ⟨fun h => h.unique hms, ?_⟩, ?_, hfirst, ?_⟩
  · rintro rfl
    exact hms
  · rw [← exists_firstFails]
    exact exists_congr hfirst
  · rintro rfl hd
    exact interpolate_of_unmarked hd hms

/-- A key comes before what stands under it, so that the helper in it is missed first. -/
example : standard.interpolate sampleVariables
    (.object [("\x7b\x7b a | no \x7d\x7d", .str "\x7b\x7b no \x7d\x7d")]) =
      .error (.interpolation "a" (.unknownHelper "no")) := rfl

end Interpolator

end CaseSuite
