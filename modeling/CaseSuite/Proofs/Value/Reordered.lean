import CaseSuite.Proofs.Entries
import CaseSuite.Value
/-!
Values that differ in the order of entries alone: the entries of any object, at any depth, stand in
another order. With distinct keys such values hold the same under every key.
-/
set_option autoImplicit false

namespace CaseSuite

mutual

/-- The keys of every object in the value are distinct. -/
def Value.Distinct : Value → Prop
  | .list items => itemsDistinct items
  | .object es => entriesDistinct es
  | _ => True

def itemsDistinct : List Value → Prop
  | [] => True
  | v :: vs => v.Distinct ∧ itemsDistinct vs

def entriesDistinct : List (String × Value) → Prop
  | [] => True
  | (key, v) :: es => key ∉ Entries.names es ∧ v.Distinct ∧ entriesDistinct es

end

theorem entriesDistinct_names : {es : Entries Value} → entriesDistinct es → es.Distinct
  | [], _ => List.nodup_nil
  | (_, _) :: _, ⟨hkey, _, hes⟩ => List.nodup_cons.mpr ⟨hkey, entriesDistinct_names hes⟩

mutual

/-- The second value is the first one with the entries of objects in another order. -/
inductive Value.Reordered : Value → Value → Prop
  | same (v : Value) : Value.Reordered v v
  | list {vs ws : List Value} : ItemsReordered vs ws → Value.Reordered (.list vs) (.list ws)
  | object {es fs gs : List (String × Value)} :
      EntriesReordered es fs → fs.Perm gs → Value.Reordered (.object es) (.object gs)

/-- Item by item. -/
inductive ItemsReordered : List Value → List Value → Prop
  | nil : ItemsReordered [] []
  | cons {v w : Value} {vs ws : List Value} :
      Value.Reordered v w → ItemsReordered vs ws → ItemsReordered (v :: vs) (w :: ws)

/-- Entry by entry, under the same keys. -/
inductive EntriesReordered : List (String × Value) → List (String × Value) → Prop
  | nil : EntriesReordered [] []
  | cons {key : String} {v w : Value} {es fs : List (String × Value)} :
      Value.Reordered v w → EntriesReordered es fs →
      EntriesReordered ((key, v) :: es) ((key, w) :: fs)

end

theorem ItemsReordered.length_eq {vs ws : List Value} (h : ItemsReordered vs ws) :
    vs.length = ws.length := by
  induction vs generalizing ws with
  | nil =>
    cases h
    rfl
  | cons v vs ih =>
    cases h with
    | cons _ h => simp [ih h]

theorem EntriesReordered.names_eq {es fs : Entries Value} (h : EntriesReordered es fs) :
    es.names = fs.names := by
  induction es generalizing fs with
  | nil =>
    cases h
    rfl
  | cons e es ih =>
    cases h with
    | cons _ h => simp [ih h]

theorem EntriesReordered.find?_rel {es fs : Entries Value} (hd : entriesDistinct es)
    (h : EntriesReordered es fs) (key : String) :
    Option.Rel (fun v w => v.Distinct ∧ v.Reordered w) (es.find? key) (fs.find? key) := by
  induction es generalizing fs with
  | nil =>
    cases h
    exact .none
  | cons e es ih =>
    cases h with
    | @cons name v w _ fs hv h =>
      obtain ⟨_, hdv, hdes⟩ := hd
      by_cases hkey : name = key
      · simpa [Entries.find?_cons, hkey] using Option.Rel.some ⟨hdv, hv⟩
      · simpa [Entries.find?_cons, hkey] using ih hdes h

theorem EntriesReordered.refl : (es : List (String × Value)) → EntriesReordered es es
  | [] => .nil
  | (_, v) :: es => .cons (.same v) (refl es)

namespace Value.Reordered

theorem of_object {es gs : Entries Value} (h : (Value.object es).Reordered (.object gs)) :
    ∃ fs, EntriesReordered es fs ∧ fs.Perm gs := by
  cases h with
  | same => exact ⟨es, .refl es, .refl es⟩
  | object h hperm => exact ⟨_, h, hperm⟩

theorem asBool?_eq {v w : Value} (h : v.Reordered w) : v.asBool? = w.asBool? := by
  cases h <;> rfl

theorem asStr?_eq {v w : Value} (h : v.Reordered w) : v.asStr? = w.asStr? := by
  cases h <;> rfl

theorem find?_rel {es gs : Entries Value} (hd : entriesDistinct es)
    (h : (Value.object es).Reordered (.object gs)) (key : String) :
    Option.Rel (fun v w => v.Distinct ∧ v.Reordered w) (es.find? key) (gs.find? key) := by
  obtain ⟨fs, hfs, hperm⟩ := h.of_object
  have hdfs : Entries.Distinct fs := by
    rw [Entries.Distinct, ← hfs.names_eq]
    exact entriesDistinct_names hd
  rw [← hdfs.find?_perm hperm key]
  exact hfs.find?_rel hd key

end Value.Reordered

namespace Value

mutual

/-- Equality does not tell a value from one whose entries stand in another order. -/
theorem same_reordered : (expected : Value) → {v w : Value} → v.Distinct → v.Reordered w →
    expected.same v = expected.same w
  | .list items, v, w, hd, h => by
    cases h with
    | same => rfl
    | list hitems => exact sameItems_reordered items hd hitems
    | object _ _ => rfl
  | .object fields, v, w, hd, h => by
    cases h with
    | same => rfl
    | list _ => rfl
    | @object es _ gs hes hperm =>
      have hlength : es.length = gs.length := by
        simpa [Entries.names, ← hperm.length_eq] using congrArg List.length hes.names_eq
      have hfields := sameEntries_reordered fields (Reordered.find?_rel hd (.object hes hperm))
      rw [same, same, hlength, hfields]
  | .null, _, _, _, h | .bool _, _, _, _, h | .int _, _, _, _, h | .float _, _, _, _, h
  | .str _, _, _, _, h | .bytes _, _, _, _, h | .time _, _, _, _, h => by
    cases h <;> rfl

theorem sameItems_reordered : (expected : List Value) → {vs ws : List Value} → itemsDistinct vs →
    ItemsReordered vs ws → sameItems expected vs = sameItems expected ws
  | [], _, _, _, h => by
    cases h <;> rfl
  | e :: es, _, _, hd, h => by
    cases h with
    | nil => rfl
    | cons hv hvs =>
      rw [sameItems, sameItems, same_reordered e hd.1 hv, sameItems_reordered es hd.2 hvs]

theorem sameEntries_reordered : (expected : List (String × Value)) → {es fs : Entries Value} →
    (∀ key, Option.Rel (fun v w => v.Distinct ∧ v.Reordered w) (es.find? key) (fs.find? key)) →
    sameEntries expected es = sameEntries expected fs
  | [], _, _, _ => rfl
  | (key, v) :: expected, es, fs, h => by
    have hkey := h key
    rw [sameEntries, sameEntries, sameEntries_reordered expected h]
    generalize es.find? key = found, fs.find? key = found' at hkey ⊢
    cases hkey with
    | none => rfl
    | some hvw => simp only [same_reordered v hvw.1 hvw.2]

end

end Value

end CaseSuite
