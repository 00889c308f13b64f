import CaseSuite.Entries
import Mathlib.Data.List.Nodup
import Mathlib.Data.List.Perm.Basic
/-!
What entries hold under a name: after writing, and when their order changes. Two lists of entries
with distinct names are the same up to order when they hold the same under every name.
-/
set_option autoImplicit false

namespace CaseSuite

namespace Entries

variable {α β : Type}

def Distinct (es : Entries α) : Prop := es.names.Nodup

@[simp] theorem names_nil : names ([] : Entries α) = [] := rfl

@[simp] theorem names_cons (e : String × α) (es : Entries α) : names (e :: es) = e.1 :: names es :=
  rfl

@[simp] theorem names_append (es fs : Entries α) : names (es ++ fs) = names es ++ names fs :=
  List.map_append

theorem mem_names_of_mem {e : String × α} {es : Entries α} (h : e ∈ es) : e.1 ∈ es.names :=
  List.mem_map_of_mem h

theorem distinct_cons {e : String × α} {es : Entries α} :
    Distinct (e :: es) ↔ e.1 ∉ es.names ∧ es.Distinct :=
  List.nodup_cons

@[simp] theorem find?_nil (name : String) : find? name ([] : Entries α) = none := rfl

theorem find?_cons (name : String) (e : String × α) (es : Entries α) :
    find? name (e :: es) = if e.1 = name then some e.2 else find? name es := by
  simp [find?]

theorem find?_eq_none {name : String} {es : Entries α} :
    es.find? name = none ↔ name ∉ es.names := by
  induction es with
  | nil => simp
  | cons e es ih => by_cases h : e.1 = name <;> simp [find?_cons, h, ih, eq_comm (a := name)]

theorem has_iff {name : String} {es : Entries α} : es.has name = true ↔ name ∈ es.names := by
  rw [has, Option.isSome_iff_ne_none, ne_eq, find?_eq_none, not_not]

theorem find?_eq_none_of_disjoint {es fs : Entries α} (h : List.Disjoint es.names fs.names)
    (name : String) : es.find? name = none ∨ fs.find? name = none := by
  by_cases hes : name ∈ es.names
  · exact .inr (find?_eq_none.mpr (h hes))
  · exact .inl (find?_eq_none.mpr hes)

theorem mem_of_find? {name : String} {a : α} {es : Entries α} (h : es.find? name = some a) :
    (name, a) ∈ es := by
  induction es with
  | nil => simp at h
  | cons e es ih =>
    by_cases he : e.1 = name
    · simp [find?_cons, he] at h
      subst he h
      exact List.mem_cons_self
    · rw [find?_cons, if_neg he] at h
      exact List.mem_cons_of_mem e (ih h)

theorem Distinct.find?_of_mem {name : String} {a : α} {es : Entries α} (hd : es.Distinct)
    (h : (name, a) ∈ es) : es.find? name = some a := by
  induction es with
  | nil => simp at h
  | cons e es ih =>
    obtain ⟨hname, hd⟩ := distinct_cons.mp hd
    obtain rfl | h := List.mem_cons.mp h
    · simp [find?_cons]
    · have hne : e.1 ≠ name := fun heq => hname (heq ▸ mem_names_of_mem h)
      rw [find?_cons, if_neg hne, ih hd h]

theorem find?_append (name : String) (es fs : Entries α) :
    find? name (es ++ fs) = (find? name es <|> find? name fs) := by
  induction es with
  | nil => simp
  | cons e es ih => by_cases h : e.1 = name <;> simp [find?_cons, h, ih]

theorem Distinct.append {es fs : Entries α} (hes : es.Distinct) (hfs : fs.Distinct)
    (h : List.Disjoint es.names fs.names) : Distinct (es ++ fs) := by
  rw [Distinct, names_append]
  exact List.nodup_append'.mpr ⟨hes, hfs, h⟩

theorem Distinct.find?_perm {es fs : Entries α} (hd : es.Distinct) (h : es.Perm fs)
    (name : String) : es.find? name = fs.find? name := by
  have hd' : fs.Distinct := (h.map Prod.fst).nodup_iff.mp hd
  cases he : es.find? name with
  | none =>
    rw [find?_eq_none, names, (h.map Prod.fst).mem_iff] at he
    exact (find?_eq_none.mpr he).symm
  | some a => exact (hd'.find?_of_mem (h.mem_iff.mp (mem_of_find? he))).symm

theorem Distinct.perm_of_find? {es fs : Entries α} (hes : es.Distinct) (hfs : fs.Distinct)
    (h : ∀ name, es.find? name = fs.find? name) : es.Perm fs := by
  refine (List.perm_ext_iff_of_nodup (List.Nodup.of_map _ hes) (List.Nodup.of_map _ hfs)).mpr ?_
  rintro ⟨name, a⟩
  constructor
  · intro hmem
    exact mem_of_find? (h name ▸ hes.find?_of_mem hmem)
  · intro hmem
    exact mem_of_find? ((h name).symm ▸ hfs.find?_of_mem hmem)

theorem find?_insert (es : Entries α) (name key : String) (a : α) :
    (es.insert name a).find? key = if name = key then some a else es.find? key := by
  induction es with
  | nil => simp [insert, find?_cons]
  | cons e es ih =>
    by_cases he : e.1 = name
    · by_cases hk : name = key <;> simp [insert, find?_cons, he, hk]
    · by_cases hk : e.1 = key
      · subst hk
        simp [insert, find?_cons, he, Ne.symm he]
      · simp [insert, find?_cons, he, hk, ih]

theorem insert_of_not_mem {es : Entries α} {name : String} (h : name ∉ es.names) (a : α) :
    es.insert name a = es ++ [(name, a)] := by
  induction es with
  | nil => rfl
  | cons e es ih =>
    rw [names_cons, List.mem_cons, not_or] at h
    simp [insert, Ne.symm h.1, ih h.2]

theorem names_insert (es : Entries α) (name : String) (a : α) :
    (es.insert name a).names = if name ∈ es.names then es.names else es.names ++ [name] := by
  induction es with
  | nil => rfl
  | cons e es ih =>
    by_cases he : e.1 = name
    · simp [insert, he]
    · by_cases hmem : name ∈ names es <;> simp [insert, he, Ne.symm he, ih, hmem]

theorem Distinct.insert {es : Entries α} (h : es.Distinct) (name : String) (a : α) :
    (es.insert name a).Distinct := by
  rw [Distinct, names_insert]
  split
  case isTrue _ => exact h
  case isFalse hname => exact List.nodup_append_comm.mp (List.nodup_cons.mpr ⟨hname, h⟩)

theorem Distinct.insertAll {es : Entries α} (h : es.Distinct) (fs : Entries α) :
    (es.insertAll fs).Distinct := by
  induction fs generalizing es with
  | nil => exact h
  | cons f fs ih => exact ih (h.insert f.1 f.2)

theorem insertAll_of_distinct {es fs : Entries α} (h : Distinct (es ++ fs)) :
    es.insertAll fs = es ++ fs := by
  induction fs generalizing es with
  | nil => exact (List.append_nil es).symm
  | cons f fs ih =>
    have happend : es ++ f :: fs = es ++ [f] ++ fs := List.append_cons es f fs
    have hnew : f.1 ∉ es.names := fun hmem => by
      rw [Distinct, names_append] at h
      exact (List.nodup_append'.mp h).2.2 hmem List.mem_cons_self
    rw [happend] at h ⊢
    rw [← ih h, ← insert_of_not_mem hnew]
    rfl

theorem insertAll_nil_eq_iff {fs : Entries α} : insertAll [] fs = fs ↔ fs.Distinct := by
  constructor
  · intro h
    have hnil : Distinct ([] : Entries α) := List.nodup_nil
    rw [← h]
    exact hnil.insertAll fs
  · intro h
    have happend : Distinct ([] ++ fs) := h
    exact insertAll_of_distinct happend

end Entries

end CaseSuite
