import CaseSuite.Proofs.Json.Document
import CaseSuite.Proofs.Value.Reordered
/-!
The normal form of a value: what its JSON form stands for. Objects have their entries in rising
order there, and without floats it is also what the JSON text of the value is read as.
-/
set_option autoImplicit false

namespace CaseSuite

mutual

/-- Every part of the value is as asked for, the value itself included. -/
def Value.Every (P : Value → Prop) : Value → Prop
  | .list items => P (.list items) ∧ itemsEvery P items
  | .object es => P (.object es) ∧ entriesEvery P es
  | v => P v

def itemsEvery (P : Value → Prop) : List Value → Prop
  | [] => True
  | v :: vs => v.Every P ∧ itemsEvery P vs

def entriesEvery (P : Value → Prop) : List (String × Value) → Prop
  | [] => True
  | (_, v) :: es => v.Every P ∧ entriesEvery P es

end

mutual

def Value.depth : Value → Nat
  | .list items => itemsDepth items + 1
  | .object es => entriesDepth es + 1
  | _ => 0

def itemsDepth : List Value → Nat
  | [] => 0
  | v :: vs => max v.depth (itemsDepth vs)

def entriesDepth : List (String × Value) → Nat
  | [] => 0
  | (_, v) :: es => max v.depth (entriesDepth es)

end

mutual

theorem Value.Every.imp {P Q : Value → Prop} (h : ∀ v, P v → Q v) :
    {v : Value} → v.Every P → v.Every Q
  | .list _, hv => ⟨h _ hv.1, itemsEvery.imp h hv.2⟩
  | .object _, hv => ⟨h _ hv.1, entriesEvery.imp h hv.2⟩
  | .null, hv | .bool _, hv | .int _, hv | .float _, hv | .str _, hv | .bytes _, hv
  | .time _, hv => h _ hv

theorem itemsEvery.imp {P Q : Value → Prop} (h : ∀ v, P v → Q v) :
    {vs : List Value} → itemsEvery P vs → itemsEvery Q vs
  | [], _ => trivial
  | _ :: _, hvs => ⟨hvs.1.imp h, itemsEvery.imp h hvs.2⟩

theorem entriesEvery.imp {P Q : Value → Prop} (h : ∀ v, P v → Q v) :
    {es : List (String × Value)} → entriesEvery P es → entriesEvery Q es
  | [], _ => trivial
  | (_, _) :: _, hes => ⟨hes.1.imp h, entriesEvery.imp h hes.2⟩

end

namespace Value

def IsPlain (part : Value) : Prop := part.kind ∉ ["float", "bytes", "timestamp"]

/-- No part of the value is a float, bytes or an instant. -/
def Plain (v : Value) : Prop := v.Every IsPlain

/-- The value that the JSON form stands for. -/
def normal (v : Value) : Value := ofJson v.toJson

theorem toJsonItems_eq (items : List Value) : toJsonItems items = items.map toJson := by
  induction items with
  | nil => rfl
  | cons item items ih => rw [toJsonItems, ih, List.map_cons]

theorem toJsonEntries_eq (es : Entries Value) : toJsonEntries es = es.mapValues toJson := by
  induction es with
  | nil => rfl
  | cons e es ih => rw [toJsonEntries, ih, Entries.mapValues_cons]

theorem ofJsonItems_eq (items : List Json) : ofJsonItems items = items.map ofJson := by
  induction items with
  | nil => rfl
  | cons item items ih => rw [ofJsonItems, ih, List.map_cons]

theorem ofJsonMembers_eq (members : Entries Json) :
    ofJsonMembers members = members.mapValues ofJson := by
  induction members with
  | nil => rfl
  | cons e members ih => rw [ofJsonMembers, ih, Entries.mapValues_cons]

theorem toJson_list (items : List Value) : (list items).toJson = .list (items.map toJson) := by
  rw [toJson, toJsonItems_eq]

theorem toJson_object (es : Entries Value) :
    (object es).toJson = .object (es.mapValues toJson).sort := by
  rw [toJson, toJsonEntries_eq]

theorem normal_list (items : List Value) : (list items).normal = .list (items.map normal) := by
  rw [normal, toJson_list, ofJson, ofJsonItems_eq, List.map_map]
  rfl

theorem normal_object (es : Entries Value) :
    (object es).normal = .object (es.mapValues normal).sort := by
  rw [normal, toJson_object, ofJson, ofJsonMembers_eq, Entries.mapValues_sort,
    Entries.mapValues_mapValues]
  rfl

mutual

theorem toJson_normal : (v : Value) → v.normal.toJson = v.toJson
  | .list items => by
    rw [normal_list, toJson_list, toJson_list, List.map_map]
    exact congrArg Json.list (map_toJson_normal items)
  | .object es => by
    rw [normal_object, toJson_object, toJson_object, Entries.mapValues_sort,
      Entries.mapValues_mapValues, (Entries.rising_sort _).sort_eq]
    exact congrArg (fun members => Json.object (Entries.sort members)) (mapValues_toJson_normal es)
  | .float x => by
    cases h : x.isFinite <;> simp [normal, toJson, ofJson, h]
  | .null | .bool _ | .int _ | .str _ | .bytes _ | .time _ => rfl

theorem map_toJson_normal : (items : List Value) →
    items.map (toJson ∘ normal) = items.map toJson
  | [] => rfl
  | item :: items => by
    rw [List.map_cons, List.map_cons, map_toJson_normal items, Function.comp_apply,
      toJson_normal item]

theorem mapValues_toJson_normal : (es : List (String × Value)) →
    Entries.mapValues (toJson ∘ normal) es = Entries.mapValues toJson es
  | [] => rfl
  | (key, v) :: es => by
    rw [Entries.mapValues_cons, Entries.mapValues_cons, mapValues_toJson_normal es,
      Function.comp_apply, toJson_normal v]

end

end Value

/-! ### The JSON form as a document -/

namespace Json

theorem membersCanonical_iff {members : List (String × Json)} :
    membersCanonical members ↔ ∀ member ∈ members, member.2.Canonical := by
  induction members with
  | nil => simp [membersCanonical]
  | cons member members ih => rw [membersCanonical, ih, List.forall_mem_cons]

theorem membersDepth_le_iff {n : Nat} {members : List (String × Json)} :
    membersDepth members ≤ n ↔ ∀ member ∈ members, member.2.depth ≤ n := by
  induction members with
  | nil => simp [membersDepth]
  | cons member members ih => rw [membersDepth, Nat.max_le, ih, List.forall_mem_cons]

theorem membersCanonical_sort {members : Entries Json} (h : membersCanonical members) :
    membersCanonical members.sort :=
  membersCanonical_iff.mpr fun member hmember =>
    membersCanonical_iff.mp h member (Entries.mem_of_mem_sort hmember)

theorem membersDepth_sort_le (members : Entries Json) :
    membersDepth members.sort ≤ membersDepth members :=
  membersDepth_le_iff.mpr fun member hmember =>
    membersDepth_le_iff.mp (Nat.le_refl _) member (Entries.mem_of_mem_sort hmember)

end Json

namespace Value

mutual

theorem canonical_toJson : (v : Value) → v.Every (·.kind ≠ "float") → v.toJson.Canonical
  | .list items, h => by
    rw [toJson_list]
    exact itemsCanonical_map items h.2
  | .object es, h => by
    rw [toJson_object]
    exact ⟨Entries.rising_sort _, Json.membersCanonical_sort (membersCanonical_mapValues es h.2)⟩
  | .float _, h => absurd rfl h
  | .null, _ | .bool _, _ | .int _, _ | .str _, _ | .bytes _, _ | .time _, _ => trivial

theorem itemsCanonical_map : (items : List Value) → itemsEvery (·.kind ≠ "float") items →
    Json.itemsCanonical (items.map toJson)
  | [], _ => trivial
  | item :: items, h => ⟨canonical_toJson item h.1, itemsCanonical_map items h.2⟩

theorem membersCanonical_mapValues : (es : List (String × Value)) →
    entriesEvery (·.kind ≠ "float") es → Json.membersCanonical (Entries.mapValues toJson es)
  | [], _ => trivial
  | (_, v) :: es, h => ⟨canonical_toJson v h.1, membersCanonical_mapValues es h.2⟩

end

mutual

theorem depth_toJson_le : (v : Value) → v.toJson.depth ≤ v.depth
  | .list items => by
    rw [toJson_list]
    exact Nat.succ_le_succ (itemsDepth_map_le items)
  | .object es => by
    rw [toJson_object]
    exact Nat.succ_le_succ
      (Nat.le_trans (Json.membersDepth_sort_le _) (membersDepth_mapValues_le es))
  | .float x => by
    cases h : x.isFinite <;> simp [toJson, h, Json.depth]
  | .null | .bool _ | .int _ | .str _ | .bytes _ | .time _ => Nat.le_refl 0

theorem itemsDepth_map_le : (items : List Value) →
    Json.itemsDepth (items.map toJson) ≤ itemsDepth items
  | [] => Nat.le_refl 0
  | item :: items => by
    have hitem := depth_toJson_le item
    have hitems := itemsDepth_map_le items
    simp only [List.map_cons, Json.itemsDepth, itemsDepth]
    omega

theorem membersDepth_mapValues_le : (es : List (String × Value)) →
    Json.membersDepth (Entries.mapValues toJson es) ≤ entriesDepth es
  | [] => Nat.le_refl 0
  | (_, v) :: es => by
    have hv := depth_toJson_le v
    have hes := membersDepth_mapValues_le es
    simp only [Entries.mapValues_cons, Json.membersDepth, entriesDepth]
    omega

end

theorem readJson_print {v : Value} (hfloat : v.Every (·.kind ≠ "float"))
    (hdepth : v.depth ≤ Json.depthLimit) : readJson v.toJson.print.toUTF8 = .ok v.normal := by
  have hread := Json.read_print (canonical_toJson v hfloat)
    (Nat.le_trans (depth_toJson_le v) hdepth)
  rw [readJson, hread]
  rfl

theorem display_list (items : List Value) :
    (list items).display = s!"{(list items).toJson.print} ({(list items).kind})" := rfl

theorem display_object (es : Entries Value) :
    (object es).display = s!"{(object es).toJson.print} ({(object es).kind})" := rfl

mutual

theorem Plain.reordered_normal : {v : Value} → v.Plain → v.Distinct → v.Reordered v.normal
  | .list items, h, hd => by
    rw [normal_list]
    exact .list (itemsReordered_map h.2 hd)
  | .object es, h, hd => by
    have hes : EntriesReordered es (Entries.mapValues normal es) :=
      entriesReordered_mapValues h.2 hd
    have hdistinct : (Entries.mapValues normal es).Distinct := by
      rw [Entries.Distinct, ← hes.names_eq]
      exact entriesDistinct_names hd
    rw [normal_object]
    exact .object hes hdistinct.perm_sort
  | .null, _, _ | .bool _, _, _ | .int _, _, _ | .str _, _, _ => .same _
  | .float _, h, _ | .bytes _, h, _ | .time _, h, _ =>
    absurd h (by simp [Plain, Every, IsPlain, kind])

theorem itemsReordered_map : {items : List Value} → itemsEvery IsPlain items →
    itemsDistinct items → ItemsReordered items (items.map normal)
  | [], _, _ => .nil
  | _ :: _, h, hd => .cons (Plain.reordered_normal h.1 hd.1) (itemsReordered_map h.2 hd.2)

theorem entriesReordered_mapValues : {es : List (String × Value)} → entriesEvery IsPlain es →
    entriesDistinct es → EntriesReordered es (Entries.mapValues normal es)
  | [], _, _ => .nil
  | (_, _) :: _, h, hd =>
    .cons (Plain.reordered_normal h.1 hd.2.1) (entriesReordered_mapValues h.2 hd.2.2)

end

theorem Plain.normal_cases {v : Value} (h : v.Plain) :
    v.normal = v ∨ (∃ items, v = .list items) ∨ ∃ es, v = .object es := by
  cases v with
  | list items => exact .inr (.inl ⟨items, rfl⟩)
  | object es => exact .inr (.inr ⟨es, rfl⟩)
  | float x => simp [Plain, Every, IsPlain, kind] at h
  | bytes b => simp [Plain, Every, IsPlain, kind] at h
  | time t => simp [Plain, Every, IsPlain, kind] at h
  | null | bool _ | int _ | str _ => exact .inl rfl

theorem display_normal {v : Value} (h : v.Plain) : v.normal.display = v.display := by
  obtain heq | ⟨items, rfl⟩ | ⟨es, rfl⟩ := h.normal_cases
  · rw [heq]
  · rw [normal_list, display_list, ← normal_list, toJson_normal]
    rfl
  · rw [normal_object, display_object, ← normal_object, toJson_normal]
    rfl

theorem Plain.noFloat {v : Value} (h : v.Plain) : v.Every (·.kind ≠ "float") :=
  Every.imp (fun part hkind heq => hkind (by simp [heq])) h

end Value

theorem entriesEvery_iff {P : Value → Prop} {es : List (String × Value)} :
    entriesEvery P es ↔ ∀ e ∈ es, e.2.Every P := by
  induction es with
  | nil => simp [entriesEvery]
  | cons e es ih => rw [entriesEvery, ih, List.forall_mem_cons]

theorem entriesEvery.of_find? {P : Value → Prop} {es : Entries Value} (h : entriesEvery P es)
    {key : String} {v : Value} (hv : es.find? key = some v) : v.Every P :=
  entriesEvery_iff.mp h _ (Entries.mem_of_find? hv)

theorem entriesDistinct.of_find? {es : Entries Value} (h : entriesDistinct es) {key : String}
    {v : Value} (hv : es.find? key = some v) : v.Distinct := by
  induction es with
  | nil => simp at hv
  | cons e es ih =>
    rw [Entries.find?_cons] at hv
    split at hv
    · obtain rfl := Option.some.inj hv
      exact h.2.1
    · exact ih h.2.2 hv

/-- Under every key of the normal form stands the normal form of what stands there. -/
theorem entriesDistinct.find?_normal {es : Entries Value} (h : entriesDistinct es) (key : String) :
    (es.mapValues Value.normal).sort.find? key = (es.find? key).map Value.normal := by
  have hd : (es.mapValues Value.normal).Distinct := by
    rw [Entries.Distinct, Entries.names_mapValues]
    exact entriesDistinct_names h
  rw [hd.find?_sort, Entries.find?_mapValues]

end CaseSuite
