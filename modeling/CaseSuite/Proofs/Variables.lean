import CaseSuite.Proofs.Decimal.Digits
import CaseSuite.Proofs.Marker
import CaseSuite.Proofs.Outcome
/-!
What a dotted path leads to: a place in the value that was last saved under the first name on it.
Every place has such a path, and a path that leads nowhere is named by its error.
-/
set_option autoImplicit false

namespace CaseSuite

theorem readIndex_eq_some {cs : List Char} {n : Nat} : readIndex cs = some n ↔
    (Number.Digits cs n ∨ ∃ ds, cs = '+' :: ds ∧ Number.Digits ds n) ∧ n < UInt64.size := by
  unfold readIndex
  rw [Option.filter_eq_some_iff, Number.readNat_eq_some, decide_eq_true_iff]
  refine and_congr_left fun _ => ?_
  split
  · rename_i ds
    constructor
    · exact fun h => .inr ⟨ds, rfl, h⟩
    · rintro (h | ⟨_, heq, h⟩)
      · exact absurd rfl (h.signless ds).1
      · exact (List.cons.inj heq).2 ▸ h
  · rename_i hplus
    constructor
    · exact .inl
    · rintro (h | ⟨ds, rfl, _⟩)
      · exact h
      · exact absurd rfl (hplus ds)

/-- A step into a value. Indexes are machine words, and no list is longer than they reach. -/
inductive PathStep where
  | key (name : String)
  | index (i : UInt64)

namespace PathStep

/-- The segment of a path that is written for a step. -/
def text : PathStep → String
  | .key name => name
  | .index i => i.toNat.repr

/-- The segments of paths that stand for a step: a key as it is, and an index with zeros and one
plus sign before it, if any. -/
inductive Spelled : PathStep → String → Prop
  | key (name : String) : Spelled (.key name) name
  | index {i : UInt64} {segment : String} : Number.Digits segment.toList i.toNat →
      Spelled (.index i) segment
  | signed {i : UInt64} {segment : String} {ds : List Char} : segment.toList = '+' :: ds →
      Number.Digits ds i.toNat → Spelled (.index i) segment

theorem spelled_text (step : PathStep) : step.Spelled step.text := by
  cases step with
  | key name => exact .key name
  | index i => exact .index (Number.digits_repr i.toNat)

end PathStep

/-- What a step leads to: by key into an object, by index into a list. -/
def Value.stepTo? : Value → PathStep → Option Value
  | .object es, .key name => Entries.find? name es
  | .list items, .index i => items[i.toNat]?
  | _, _ => none

def Value.partAt? (v : Value) (place : List PathStep) : Option Value := place.foldlM stepTo? v

namespace VariableStore

def ofSaves (saves : List (String × Value)) : VariableStore :=
  saves.foldl (fun s e => s.save e.1 e.2) .empty

def lastSaved? (saves : List (String × Value)) (name : String) : Option Value :=
  Entries.find? name saves.reverse

theorem get?_ofSaves (saves : List (String × Value)) (name : String) :
    (ofSaves saves).get? name = lastSaved? saves name := by
  induction saves using List.reverseRecOn with
  | nil => rfl
  | append_singleton saves e ih =>
    have hsave : ofSaves (saves ++ [e]) = (ofSaves saves).save e.1 e.2 := by
      rw [ofSaves, List.foldl_append]
      rfl
    rw [hsave, save, get?, Entries.find?_insert, lastSaved?, List.reverse_append,
      List.reverse_singleton, List.singleton_append, Entries.find?_cons]
    exact congrArg _ ih

theorem lastSaved?_filter (saves : List (String × Value)) (name : String) :
    lastSaved? (saves.filter (·.1 == name)) name = lastSaved? saves name := by
  rw [lastSaved?, ← List.filter_reverse, lastSaved?]
  induction saves.reverse with
  | nil => rfl
  | cons e es ih =>
    by_cases he : e.1 = name
    · simp [Entries.find?_cons, he]
    · simp [Entries.find?_cons, he, ih]

theorem spelled_index_iff {i : UInt64} {segment : String} :
    (PathStep.index i).Spelled segment ↔ readIndex segment.toList = some i.toNat := by
  rw [readIndex_eq_some]
  constructor
  · intro h
    refine ⟨?_, i.toNat_lt_size⟩
    cases h with
    | index hdigits => exact .inl hdigits
    | signed hsign hdigits => exact .inr ⟨_, hsign, hdigits⟩
  · rintro ⟨hdigits | ⟨ds, hsign, hdigits⟩, -⟩
    · exact .index hdigits
    · exact .signed hsign hdigits

variable {walked : String} {v part : Value} {segment : String}

theorem stepInto_object {es : List (String × Value)} :
    stepInto walked (.object es) segment.toList = .ok part ↔
      Entries.find? segment es = some part := by
  rw [stepInto, String.ofList_toList]
  cases Entries.find? segment es <;> simp

theorem stepInto_list {items : List Value} :
    stepInto walked (.list items) segment.toList = .ok part ↔
      ∃ i, readIndex segment.toList = some i ∧ items[i]? = some part := by
  rw [stepInto]
  cases readIndex segment.toList with
  | none => simp
  | some i => cases hitem : items[i]? <;> simp [hitem]

theorem stepInto_eq_ok : stepInto walked v segment.toList = .ok part ↔
    ∃ step : PathStep, step.Spelled segment ∧ v.stepTo? step = some part := by
  cases v with
  | object es =>
    rw [stepInto_object]
    constructor
    · exact fun h => ⟨.key segment, .key segment, h⟩
    · rintro ⟨step, hspelled, hstep⟩
      cases hspelled with
      | key name => exact hstep
      | index _ | signed _ _ => contradiction
  | list items =>
    rw [stepInto_list]
    constructor
    · rintro ⟨i, hindex, hitem⟩
      have hi : (UInt64.ofNat i).toNat = i :=
        UInt64.toNat_ofNat_of_lt' (readIndex_eq_some.mp hindex).2
      refine ⟨.index (.ofNat i), spelled_index_iff.mpr (hi.symm ▸ hindex), ?_⟩
      rw [Value.stepTo?, hi, hitem]
    · rintro ⟨step, hspelled, hstep⟩
      cases step with
      | key name => contradiction
      | index i => exact ⟨i.toNat, spelled_index_iff.mp hspelled, hstep⟩
  | _ =>
    simp only [stepInto, reduceCtorEq, false_iff]
    rintro ⟨step, -, hstep⟩
    cases step <;> contradiction

theorem walk_eq_ok {segments : List String} :
    walk walked v (segments.map String.toList) = .ok part ↔
      ∃ place, List.Forall₂ PathStep.Spelled place segments ∧ v.partAt? place = some part := by
  -- the text of the steps before only matters for errors
  induction segments generalizing walked v with
  | nil => simp [walk, Value.partAt?]
  | cons segment segments ih =>
    rw [List.map_cons, walk]
    constructor
    · intro h
      split at h
      · rename_i next hnext
        obtain ⟨step, hspelled, hstep⟩ := stepInto_eq_ok.mp hnext
        obtain ⟨place, hplace, hpart⟩ := ih.mp h
        refine ⟨step :: place, .cons hspelled hplace, ?_⟩
        rw [Value.partAt?, List.foldlM_cons, hstep]
        exact hpart
      · contradiction
    · rintro ⟨_, hplace, hpart⟩
      cases hplace with
      | @cons step _ place _ hspelled hplace =>
        rw [Value.partAt?, List.foldlM_cons] at hpart
        obtain ⟨next, hstep, hpart⟩ := Option.bind_eq_some_iff.mp hpart
        rw [stepInto_eq_ok.mpr ⟨step, hspelled, hstep⟩]
        exact ih.mpr ⟨place, hplace, hpart⟩

theorem exists_segments (path : String) : ∃ name segments,
    Text.split '.' path.toList = (name :: segments).map String.toList := by
  obtain ⟨first, rest, hsplit⟩ := List.exists_cons_of_ne_nil (Text.split_ne_nil '.' path.toList)
  refine ⟨String.ofList first, rest.map String.ofList, ?_⟩
  simp [hsplit, Function.comp_def]

theorem find_eq_ok {s : VariableStore} {path name : String} {segments : List String}
    (h : Text.split '.' path.toList = (name :: segments).map String.toList) :
    s.find path = .ok part ↔ ∃ v place, s.get? name = some v ∧
      List.Forall₂ PathStep.Spelled place segments ∧ v.partAt? place = some part := by
  rw [find, h, List.map_cons, List.head?_cons, Option.getD_some, String.ofList_toList,
    List.drop_one, List.tail_cons]
  cases s.get? name with
  | none => simp
  | some v => simp [walk_eq_ok]

theorem lookup_eq_ok {s : VariableStore} {path : String} : s.lookup path = .ok part ↔
    ∃ name segments v place, path = ".".intercalate (name :: segments) ∧
      (∀ segment ∈ name :: segments, '.' ∉ segment.toList) ∧ s.get? name = some v ∧
      List.Forall₂ PathStep.Spelled place segments ∧ v.partAt? place = some part := by
  rw [lookup, mapError_eq_ok]
  constructor
  · intro h
    obtain ⟨name, segments, hsplit⟩ := exists_segments path
    obtain ⟨v, place, hv, hplace, hpart⟩ := (find_eq_ok hsplit).mp h
    obtain ⟨hpath, hdots⟩ := (Text.split_dots_eq_iff (List.cons_ne_nil _ _)).mp hsplit
    exact ⟨name, segments, v, place, hpath, hdots, hv, hplace, hpart⟩
  · rintro ⟨name, segments, v, place, hpath, hdots, hv, hplace, hpart⟩
    have hsplit := (Text.split_dots_eq_iff (List.cons_ne_nil _ _)).mpr ⟨hpath, hdots⟩
    exact (find_eq_ok hsplit).mpr ⟨v, place, hv, hplace, hpart⟩

def rootName (path : String) : String := String.ofList (path.toList.takeWhile (· != '.'))

theorem head?_split_eq (path : String) :
    (Text.split '.' path.toList).head? = some (rootName path).toList := by
  rw [Text.head?_split, rootName, String.toList_ofList]

theorem rootName_intercalate {name : String} {segments : List String}
    (hdots : ∀ segment ∈ name :: segments, '.' ∉ segment.toList) :
    rootName (".".intercalate (name :: segments)) = name := by
  have hsplit := (Text.split_dots_eq_iff (List.cons_ne_nil _ _)).mpr ⟨rfl, hdots⟩
  have hhead := head?_split_eq (".".intercalate (name :: segments))
  rw [hsplit, List.map_cons, List.head?_cons] at hhead
  exact (String.toList_inj.mp (Option.some.inj hhead)).symm

theorem lookup_congr {s t : VariableStore} {path : String}
    (h : s.get? (rootName path) = t.get? (rootName path)) : s.lookup path = t.lookup path := by
  have hroot : String.ofList ((Text.split '.' path.toList).head?.getD []) = rootName path := by
    rw [head?_split_eq, Option.getD_some, String.ofList_toList]
  rw [lookup, find, lookup, find, hroot, h]

theorem exists_lookup_eq_error {s : VariableStore} {path : String} {e : Error}
    (h : s.lookup path = .error e) : ∃ problem, e = .interpolation path problem := by
  obtain ⟨problem, -, rfl⟩ := mapError_eq_error.mp h
  exact ⟨problem, rfl⟩

theorem not_mem_dot_of_digits {ds : List Char} {n : Nat} (h : Number.Digits ds n) : '.' ∉ ds :=
  fun hmem => absurd (h.digits '.' hmem) (by decide)

/-- Looking up is reading places: each place in the value last saved under a name has a path, only
such paths lead anywhere, and no other save matters. -/
theorem lookup_ofSaves (saves : List (String × Value)) :
    (∀ name v place part, '.' ∉ name.toList →
      (∀ key, PathStep.key key ∈ place → '.' ∉ key.toList) →
      lastSaved? saves name = some v → v.partAt? place = some part →
      (ofSaves saves).lookup (".".intercalate (name :: place.map PathStep.text)) = .ok part) ∧
    (∀ path part, (ofSaves saves).lookup path = .ok part →
      ∃ segments v place, path = ".".intercalate (rootName path :: segments) ∧
        (∀ segment ∈ segments, '.' ∉ segment.toList) ∧
        lastSaved? saves (rootName path) = some v ∧
        List.Forall₂ PathStep.Spelled place segments ∧ v.partAt? place = some part) ∧
    (∀ path e, (ofSaves saves).lookup path = .error e → ∃ problem, e = .interpolation path problem) ∧
    ∀ path, (ofSaves saves).lookup path =
      (ofSaves (saves.filter (·.1 == rootName path))).lookup path := by
  refine ⟨fun name v place part hname hkeys hv hpart => ?_, fun path part h => ?_,
    fun path e => exists_lookup_eq_error, fun path => lookup_congr ?_⟩
  · have hspelled : List.Forall₂ PathStep.Spelled place (place.map PathStep.text) := by
      rw [List.forall₂_map_right_iff]
      exact List.forall₂_same.mpr fun step _ => step.spelled_text
    refine lookup_eq_ok.mpr ⟨name, _, v, place, rfl, ?_, ?_, hspelled, hpart⟩
    · refine List.forall_mem_cons.mpr ⟨hname, fun segment hsegment => ?_⟩
      obtain ⟨step, hstep, rfl⟩ := List.mem_map.mp hsegment
      cases step with
      | key key => exact hkeys key hstep
      | index i => exact not_mem_dot_of_digits (Number.digits_repr i.toNat)
    · rw [get?_ofSaves, hv]
  · obtain ⟨name, segments, v, place, hpath, hdots, hv, hplace, hpart⟩ := lookup_eq_ok.mp h
    have hroot : rootName path = name := hpath ▸ rootName_intercalate hdots
    rw [get?_ofSaves] at hv
    exact ⟨segments, v, place, hroot ▸ hpath, (List.forall_mem_cons.mp hdots).2, hroot ▸ hv, hplace,
      hpart⟩
  · rw [get?_ofSaves, get?_ofSaves, lastSaved?_filter]

/-- A value under the name of another one, and one with an index for a key. -/
def userSaves : List (String × Value) :=
  [("user", .str "bob"), ("count", .int 3),
    ("user", .list [.object [("name", .str "alice"), ("0", .list [.str "a", .str "b"])]])]

theorem lookup_ofSaves_userSaves : '.' ∉ "user".toList ∧
    (lastSaved? userSaves "user").isSome = true ∧
    (ofSaves userSaves).lookup "user.0.0.1" = .ok (.str "b") :=
  ⟨by decide, rfl, (lookup_ofSaves userSaves).1 "user" _ [.index 0, .key "0", .index 1] (.str "b")
    (by decide) (by simp) rfl rfl⟩

end VariableStore

end CaseSuite
