import CaseSuite.Proofs.Entries.Rising
import Mathlib.Data.List.Induction
/-!
Entries laid over others: the first ones keep their places, new names go to the end, and where both
have a name the second value stands. Laying over is associative, in what is held and in its order.
-/
set_option autoImplicit false

namespace CaseSuite

namespace Entries

variable {α β : Type}

@[simp] theorem insertAll_nil (es : Entries α) : es.insertAll [] = es := rfl

theorem insertAll_cons (es : Entries α) (f : String × α) (fs : Entries α) :
    es.insertAll (f :: fs) = (es.insert f.1 f.2).insertAll fs := rfl

theorem find?_insertAll (es : Entries α) {fs : Entries α} (hd : fs.Distinct) (name : String) :
    (es.insertAll fs).find? name = (fs.find? name <|> es.find? name) := by
  induction fs generalizing es with
  | nil => simp
  | cons f fs ih =>
    obtain ⟨hname, hd⟩ := distinct_cons.mp hd
    rw [insertAll_cons, ih (es.insert f.1 f.2) hd, find?_insert, find?_cons]
    by_cases hf : f.1 = name
    · subst hf
      simp [find?_eq_none.mpr hname]
    · simp [hf]

/-- Induction on the entries laid over: each adds its name unless it is there already. -/
theorem names_insertAll (es : Entries α) {fs : Entries α} (hd : fs.Distinct) :
    (es.insertAll fs).names = es.names ++ fs.names.filter (· ∉ es.names) := by
  induction fs generalizing es with
  | nil => simp
  | cons f fs ih =>
    obtain ⟨hname, hd⟩ := distinct_cons.mp hd
    rw [insertAll_cons, ih (es.insert f.1 f.2) hd, names_insert, names_cons]
    by_cases hf : f.1 ∈ es.names
    · simp [hf]
    · have hrest :
          (names fs).filter (· ∉ es.names ++ [f.1]) = (names fs).filter (· ∉ es.names) := by
        refine List.filter_congr fun name hmem => ?_
        have hne : name ≠ f.1 := fun heq => hname (heq ▸ hmem)
        simp [hne]
      rw [if_neg hf, hrest]
      simp [hf]

theorem ofList_concat (es : List (String × α)) (e : String × α) :
    ofList (es ++ [e]) = (ofList es).insert e.1 e.2 := by
  rw [ofList, insertAll, List.foldl_append]
  rfl

theorem names_ofList (es : List (String × α)) : (ofList es).names = (names es).eraseDups := by
  induction es using List.reverseRecOn with
  | nil => rfl
  | append_singleton es e ih =>
    rw [ofList_concat, names_insert, ih, names_append, List.eraseDups_append]
    by_cases h : e.1 ∈ names es <;> simp [List.removeAll, List.eraseDups_cons, h]

theorem find?_ofList (es : List (String × α)) (name : String) :
    (ofList es).find? name = find? name es.reverse := by
  induction es using List.reverseRecOn with
  | nil => rfl
  | append_singleton es e ih =>
    rw [ofList_concat, find?_insert, ih, List.reverse_append]
    simp [find?_cons]

/-- The order of the names and what stands under them is all there is to entries. -/
theorem Distinct.eq_of_find? {es fs : Entries α} (hd : es.Distinct) (hnames : es.names = fs.names)
    (h : ∀ name, es.find? name = fs.find? name) : es = fs := by
  induction es generalizing fs with
  | nil => exact (List.map_eq_nil_iff.mp hnames.symm).symm
  | cons e es ih =>
    cases fs with
    | nil => contradiction
    | cons f fs =>
      rw [names_cons, names_cons, List.cons.injEq] at hnames
      obtain ⟨hname, hnames⟩ := hnames
      obtain ⟨hnew, hd⟩ := distinct_cons.mp hd
      have hvalue : e.2 = f.2 := by simpa [find?_cons, hname] using h f.1
      rw [Prod.ext hname hvalue, ih hd hnames fun name => ?_]
      by_cases hf : f.1 = name
      · subst hf
        rw [find?_eq_none.mpr (hname ▸ hnew), find?_eq_none.mpr (hnames ▸ hname ▸ hnew)]
      · simpa [find?_cons, hname, hf] using h name

theorem insertAll_assoc {es fs gs : Entries α} (hes : es.Distinct) (hfs : fs.Distinct)
    (hgs : gs.Distinct) : (es.insertAll fs).insertAll gs = es.insertAll (fs.insertAll gs) := by
  have hboth := hfs.insertAll gs
  refine ((hes.insertAll fs).insertAll gs).eq_of_find? ?_ fun name => ?_
  · -- a name of the last entries is new if neither of the others has it
    have hnew : gs.names.filter (· ∉ es.names ++ fs.names.filter (· ∉ es.names)) =
        gs.names.filter (fun name => name ∉ es.names ∧ name ∉ fs.names) := by
      refine List.filter_congr fun name _ => ?_
      by_cases hname : name ∈ es.names <;> simp [hname]
    rw [names_insertAll _ hgs, names_insertAll es hfs, names_insertAll es hboth,
      names_insertAll fs hgs, hnew, List.filter_append, List.filter_filter, List.append_assoc]
    simp only [Bool.decide_and]
  · rw [find?_insertAll _ hgs, find?_insertAll es hfs, find?_insertAll es hboth,
      find?_insertAll fs hgs]
    cases gs.find? name <;> rfl

theorem insertAll_self {es : Entries α} (hd : es.Distinct) : es.insertAll es = es := by
  refine (hd.insertAll es).eq_of_find? ?_ fun name => ?_
  · simp [names_insertAll es hd]
  · rw [find?_insertAll es hd]
    cases es.find? name <;> rfl

theorem mapValues_insert (f : α → β) (es : Entries α) (name : String) (a : α) :
    (es.insert name a).mapValues f = (es.mapValues f).insert name (f a) := by
  induction es with
  | nil => rfl
  | cons e es ih => by_cases he : e.1 = name <;> simp [insert, he, ih]

theorem mapValues_insertAll (f : α → β) (es fs : Entries α) :
    (es.insertAll fs).mapValues f = (es.mapValues f).insertAll (fs.mapValues f) := by
  induction fs generalizing es with
  | nil => rfl
  | cons e fs ih => rw [insertAll_cons, ih, mapValues_insert, mapValues_cons, insertAll_cons]

theorem find?_map (f : String → α → β) (es : Entries α) (name : String) :
    find? name (es.map fun e => (e.1, f e.1 e.2)) = (es.find? name).map (f name) := by
  induction es with
  | nil => rfl
  | cons e es ih =>
    rw [List.map_cons, find?_cons, find?_cons, ih]
    split
    case isTrue hname => rw [← hname, Option.map_some]
    case isFalse _ => rfl

theorem Distinct.map {es : Entries α} (h : es.Distinct) (f : String → α → β) :
    Distinct (es.map fun e => (e.1, f e.1 e.2)) := by
  rwa [Distinct, names, List.map_map]

theorem Distinct.mapValues {es : Entries α} (h : es.Distinct) (f : α → β) :
    (es.mapValues f).Distinct := by
  rwa [Distinct, names_mapValues]

end Entries

end CaseSuite
