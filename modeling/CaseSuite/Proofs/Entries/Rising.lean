import CaseSuite.Proofs.Entries
import Mathlib.Data.String.Basic
/-!
Entries in rising order of their names: what sorting keeps, and that such an order is the only one.
-/
set_option autoImplicit false

namespace CaseSuite

namespace Entries

variable {α β : Type}

def Rising (es : Entries α) : Prop := es.names.Pairwise (· < ·)

theorem rising_nil : Rising ([] : Entries α) := List.Pairwise.nil

theorem rising_cons {e : String × α} {es : Entries α} :
    Rising (e :: es) ↔ (∀ name ∈ es.names, e.1 < name) ∧ es.Rising :=
  List.pairwise_cons

theorem Rising.distinct {es : Entries α} (h : es.Rising) : es.Distinct :=
  List.Pairwise.imp (fun {_ _} hlt => ne_of_lt hlt) h

/-- Only one order rises: entries that hold the same under every name are the same then. -/
theorem Rising.eq_of_find? {es fs : Entries α} (hes : es.Rising) (hfs : fs.Rising)
    (h : ∀ name, es.find? name = fs.find? name) : es = fs := by
  have hperm : es.Perm fs := hes.distinct.perm_of_find? hfs.distinct h
  have hes' : es.Pairwise (fun e f => e.1 < f.1) := List.pairwise_map.mp hes
  have hfs' : fs.Pairwise (fun e f => e.1 < f.1) := List.pairwise_map.mp hfs
  exact hperm.eq_of_pairwise (fun e f _ _ hef hfe => absurd hfe (String.lt_asymm hef)) hes' hfs'

theorem find?_insertSorted (es : Entries α) (name key : String) (a : α) :
    (es.insertSorted name a).find? key = if name = key then some a else es.find? key := by
  induction es with
  | nil => simp [insertSorted, find?_cons]
  | cons e es ih =>
    by_cases hlt : name < e.1
    · simp [insertSorted, hlt, find?_cons]
    · by_cases he : e.1 = name
      · by_cases hk : name = key <;> simp [insertSorted, find?_cons, he, hk]
      · by_cases hk : e.1 = key
        · subst hk
          simp [insertSorted, find?_cons, hlt, he, Ne.symm he]
        · simp [insertSorted, find?_cons, hlt, he, hk, ih]

theorem mem_names_insertSorted {es : Entries α} {name key : String} {a : α} :
    key ∈ (es.insertSorted name a).names ↔ name = key ∨ key ∈ es.names := by
  rw [← not_iff_not, not_or, ← find?_eq_none, ← find?_eq_none, find?_insertSorted]
  by_cases h : name = key <;> simp [h]

theorem mem_insertSorted {es : Entries α} {name : String} {a : α} {e : String × α}
    (h : e ∈ es.insertSorted name a) : e = (name, a) ∨ e ∈ es := by
  induction es with
  | nil => simpa [insertSorted] using h
  | cons f es ih =>
    simp only [insertSorted] at h
    split at h
    · simpa using h
    · split at h
      · obtain h | h := List.mem_cons.mp h
        · exact .inl h
        · exact .inr (List.mem_cons_of_mem f h)
      · obtain h | h := List.mem_cons.mp h
        · exact .inr (h ▸ List.mem_cons_self)
        · exact (ih h).imp_right (List.mem_cons_of_mem f)

theorem Rising.insertSorted {es : Entries α} (h : es.Rising) (name : String) (a : α) :
    (es.insertSorted name a).Rising := by
  induction es with
  | nil => simp [Entries.insertSorted, Rising]
  | cons e es ih =>
    obtain ⟨hfirst, hes⟩ := rising_cons.mp h
    simp only [Entries.insertSorted, beq_iff_eq]
    split
    · rename_i hlt
      refine rising_cons.mpr ⟨fun other hother => ?_, h⟩
      obtain rfl | hother := List.mem_cons.mp hother
      · exact hlt
      · exact String.lt_trans hlt (hfirst other hother)
    · rename_i hlt
      split
      · rename_i heq
        exact rising_cons.mpr ⟨heq ▸ hfirst, hes⟩
      · rename_i hne
        have hgt : e.1 < name :=
          ((lt_trichotomy name e.1).resolve_left hlt).resolve_left (Ne.symm hne)
        refine rising_cons.mpr ⟨fun other hother => ?_, ih hes⟩
        obtain ⟨f, hf, rfl⟩ := List.mem_map.mp hother
        obtain rfl | hf := mem_insertSorted hf
        · exact hgt
        · exact hfirst f.1 (mem_names_of_mem hf)

/-- Induction on the entries still to be inserted, for all that are there already. -/
theorem rising_foldl_insertSorted {known : Entries α} (h : known.Rising) (es : Entries α) :
    Rising (es.foldl (fun fs e => fs.insertSorted e.1 e.2) known) := by
  induction es generalizing known with
  | nil => exact h
  | cons e es ih => exact ih (h.insertSorted e.1 e.2)

theorem rising_sort (es : Entries α) : es.sort.Rising :=
  rising_foldl_insertSorted rising_nil es

theorem mem_foldl_insertSorted {known es : Entries α} {e : String × α}
    (h : e ∈ es.foldl (fun fs e => fs.insertSorted e.1 e.2) known) : e ∈ known ∨ e ∈ es := by
  induction es generalizing known with
  | nil => exact .inl h
  | cons f es ih =>
    obtain h | h := ih h
    · obtain rfl | h := mem_insertSorted h
      · exact .inr List.mem_cons_self
      · exact .inl h
    · exact .inr (List.mem_cons_of_mem f h)

theorem mem_of_mem_sort {es : Entries α} {e : String × α} (h : e ∈ es.sort) : e ∈ es :=
  (mem_foldl_insertSorted h).resolve_left List.not_mem_nil

theorem mem_names_foldl_insertSorted {known es : Entries α} {key : String} :
    key ∈ names (es.foldl (fun fs e => fs.insertSorted e.1 e.2) known) ↔
      key ∈ known.names ∨ key ∈ es.names := by
  induction es generalizing known with
  | nil => simp
  | cons e es ih =>
    rw [List.foldl_cons, ih, mem_names_insertSorted, names_cons, List.mem_cons, eq_comm (a := key),
      or_assoc, or_left_comm]

theorem mem_names_sort {es : Entries α} {key : String} : key ∈ es.sort.names ↔ key ∈ es.names := by
  rw [sort, mem_names_foldl_insertSorted]
  simp

theorem find?_foldl_insertSorted {known es : Entries α} (hd : es.Distinct) (name : String) :
    find? name (es.foldl (fun fs e => fs.insertSorted e.1 e.2) known) =
      (es.find? name <|> known.find? name) := by
  induction es generalizing known with
  | nil => simp
  | cons e es ih =>
    obtain ⟨hname, hd⟩ := distinct_cons.mp hd
    rw [List.foldl_cons, ih hd, find?_insertSorted, find?_cons]
    by_cases he : e.1 = name
    · subst he
      simp [find?_eq_none.mpr hname]
    · simp [he]

theorem Distinct.find?_sort {es : Entries α} (hd : es.Distinct) (name : String) :
    es.sort.find? name = es.find? name := by
  rw [sort, find?_foldl_insertSorted hd, find?_nil]
  cases es.find? name <;> rfl

theorem Distinct.perm_sort {es : Entries α} (hd : es.Distinct) : es.Perm es.sort :=
  hd.perm_of_find? (rising_sort es).distinct fun name => (hd.find?_sort name).symm

theorem Rising.sort_eq {es : Entries α} (h : es.Rising) : es.sort = es :=
  (rising_sort es).eq_of_find? h h.distinct.find?_sort

@[simp] theorem mapValues_nil (f : α → β) : mapValues f [] = [] := rfl

@[simp] theorem mapValues_cons (f : α → β) (e : String × α) (es : Entries α) :
    mapValues f (e :: es) = (e.1, f e.2) :: es.mapValues f := rfl

theorem mapValues_mapValues {γ : Type} (g : β → γ) (f : α → β) (es : Entries α) :
    (es.mapValues f).mapValues g = es.mapValues (g ∘ f) := by
  simp [mapValues]

@[simp] theorem names_mapValues (f : α → β) (es : Entries α) :
    (es.mapValues f).names = es.names := by
  simp [names, mapValues, Function.comp_def]

@[simp] theorem find?_mapValues (f : α → β) (es : Entries α) (name : String) :
    (es.mapValues f).find? name = (es.find? name).map f := by
  induction es with
  | nil => rfl
  | cons e es ih => by_cases he : e.1 = name <;> simp [find?_cons, he, ih]

theorem mapValues_insertSorted (f : α → β) (es : Entries α) (name : String) (a : α) :
    (es.insertSorted name a).mapValues f = (es.mapValues f).insertSorted name (f a) := by
  induction es with
  | nil => rfl
  | cons e es ih =>
    simp only [insertSorted, mapValues_cons]
    split
    · rfl
    · split
      · rfl
      · rw [mapValues_cons, ih]

theorem mapValues_sort (f : α → β) (es : Entries α) :
    es.sort.mapValues f = (es.mapValues f).sort := by
  have hfoldl (known : Entries α) :
      mapValues f (es.foldl (fun fs e => fs.insertSorted e.1 e.2) known) =
        (es.mapValues f).foldl (fun fs e => fs.insertSorted e.1 e.2) (known.mapValues f) := by
    induction es generalizing known with
    | nil => rfl
    | cons e es ih => simp [ih, mapValues_insertSorted]
  exact hfoldl []

end Entries

end CaseSuite
