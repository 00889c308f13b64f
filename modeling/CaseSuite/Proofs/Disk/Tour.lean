import CaseSuite.Proofs.Disk.Items
import CaseSuite.Proofs.Disk.Path
import CaseSuite.Proofs.Entries.Rising
/-!
A tour of a directory: it comes to what is below, each item once, in the order of the names that
lead there, and goes through directories only.
-/
set_option autoImplicit false

namespace CaseSuite

namespace Disk

/-- Everything on a disk has a name and is in a directory. -/
structure IsTree (d : Disk) : Prop where
  named : ∀ entry ∈ d.items, ∀ name ∈ entry.1, Path.IsName name
  inside : ∀ entry ∈ d.items, d.get? entry.1.dropLast = some .dir

variable {d : Disk} {keep : String → Bool} {here way : Location} {item : Item}

theorem mem_namesIn {name : String} :
    name ∈ d.namesIn here ↔ ∃ item, d.get? (here ++ [name]) = some item := by
  rw [namesIn, Entries.mem_names_sort]
  simp only [Entries.names, List.map_map, Function.comp_def, List.map_id', List.mem_filterMap,
    List.mem_filter, beq_iff_eq]
  constructor
  · rintro ⟨entry, ⟨hmem, hhere⟩, hlast⟩
    have hloc : entry.1 = here ++ [name] := by
      rw [← hhere, List.dropLast_append_getLast? _ hlast]
    rw [get?, if_neg (by simp), ← hloc]
    exact exists_lookup_of_mem hmem
  · rintro ⟨item, hitem⟩
    exact ⟨_, ⟨mem_of_get? hitem (by simp), List.dropLast_concat⟩, List.getLast?_concat⟩

theorem namesIn_pairwise (d : Disk) (here : Location) : (d.namesIn here).Pairwise (· < ·) :=
  Entries.rising_sort _

theorem mem_visit {inside : Location → List (Location × Item)} {name : String}
    {e : Location × Item} : e ∈ d.visit inside here name ↔
      ∃ item, d.get? (here ++ [name]) = some item ∧ (e = ([name], item) ∨
        item = .dir ∧ ∃ f ∈ inside (here ++ [name]), e = (name :: f.1, f.2)) := by
  rw [visit]
  split
  · rename_i hitem
    simp [hitem]
  · rename_i hitem
    simp [hitem, eq_comm (a := e)]
  · rename_i item hfile hitem
    have hdir : item ≠ .dir := hfile
    simp [hitem, hdir]

theorem exists_cons_of_mem_visit {inside : Location → List (Location × Item)} {name : String}
    {e : Location × Item} (h : e ∈ d.visit inside here name) : ∃ rest, e.1 = name :: rest := by
  obtain ⟨item, -, rfl | ⟨-, f, -, rfl⟩⟩ := mem_visit.mp h
  · exact ⟨[], rfl⟩
  · exact ⟨f.1, rfl⟩

theorem mem_tourOf_succ {levels : Nat} {e : Location × Item} :
    e ∈ d.tourOf keep (levels + 1) here ↔
      ∃ name, keep name = true ∧ e ∈ d.visit (d.tourOf keep levels) here name := by
  simp only [tourOf, List.mem_flatMap, List.mem_filter, mem_namesIn]
  constructor
  · rintro ⟨name, ⟨-, hkeep⟩, hmem⟩
    exact ⟨name, hkeep, hmem⟩
  · rintro ⟨name, hkeep, hmem⟩
    obtain ⟨item, hitem, -⟩ := mem_visit.mp hmem
    exact ⟨name, ⟨⟨item, hitem⟩, hkeep⟩, hmem⟩

theorem ne_nil_of_mem_tourOf {levels : Nat} {e : Location × Item}
    (h : e ∈ d.tourOf keep levels here) : e.1 ≠ [] := by
  cases levels with
  | zero => simp [tourOf] at h
  | succ levels =>
    obtain ⟨name, -, hmem⟩ := mem_tourOf_succ.mp h
    obtain ⟨rest, hrest⟩ := exists_cons_of_mem_visit hmem
    simp [hrest]

theorem IsTree.dir_of_get? (hd : d.IsTree) {loc : Location} {name : String}
    (h : d.get? (loc ++ [name]) = some item) : d.get? loc = some .dir := by
  have hdir := hd.inside _ (mem_of_get? h (by simp))
  rwa [List.dropLast_concat] at hdir

theorem IsTree.dir_of_get?_append (hd : d.IsTree) {loc rest : Location} (hrest : rest ≠ [])
    (h : d.get? (loc ++ rest) = some item) : d.get? loc = some .dir := by
  induction rest using List.reverseRecOn generalizing item with
  | nil => contradiction
  | append_singleton rest name ih =>
    rw [← List.append_assoc] at h
    have hdir := hd.dir_of_get? h
    by_cases hnil : rest = []
    · simpa [hnil] using hdir
    · exact ih hnil hdir

theorem IsTree.mem_tourOf (hd : d.IsTree) {levels : Nat} :
    (way, item) ∈ d.tourOf keep levels here ↔ way ≠ [] ∧ way.length ≤ levels ∧
      (∀ name ∈ way, keep name = true) ∧ d.get? (here ++ way) = some item := by
  -- what is on a deeper level is in a directory of the first one
  induction levels generalizing here way with
  | zero => cases way <;> simp [tourOf]
  | succ levels ih =>
    simp only [mem_tourOf_succ, mem_visit]
    constructor
    · rintro ⟨name, hkeep, first, hfirst, he | ⟨-, ⟨rest, last⟩, hmem, he⟩⟩
      · obtain ⟨rfl, rfl⟩ := Prod.mk.inj he
        simp [hkeep, hfirst]
      · obtain ⟨rfl, rfl⟩ := Prod.mk.inj he
        obtain ⟨-, hlength, hkeeps, hitem⟩ := ih.mp hmem
        refine ⟨by simp, Nat.succ_le_succ hlength, List.forall_mem_cons.mpr ⟨hkeep, hkeeps⟩, ?_⟩
        rwa [List.append_assoc] at hitem
    · rintro ⟨hway, hlength, hkeeps, hitem⟩
      obtain ⟨name, rest, rfl⟩ := List.exists_cons_of_ne_nil hway
      obtain ⟨hkeep, hkeeps⟩ := List.forall_mem_cons.mp hkeeps
      refine ⟨name, hkeep, ?_⟩
      by_cases hrest : rest = []
      · subst hrest
        exact ⟨item, hitem, .inl rfl⟩
      · rw [List.append_cons] at hitem
        exact ⟨.dir, hd.dir_of_get?_append hrest hitem, .inr ⟨rfl, (rest, item),
          ih.mpr ⟨hrest, Nat.le_of_succ_le_succ hlength, hkeeps, hitem⟩, rfl⟩⟩

def Ascending (es : List (Location × Item)) : Prop := es.Pairwise (fun e f => e.1 < f.1)

theorem ascending_visit {inside : Location → List (Location × Item)} {name : String}
    (hne : ∀ e ∈ inside (here ++ [name]), e.1 ≠ []) (h : Ascending (inside (here ++ [name]))) :
    Ascending (d.visit inside here name) := by
  rw [visit]
  split
  · exact .nil
  · -- a directory comes before what is in it
    refine List.pairwise_cons.mpr ⟨fun e he => ?_, List.pairwise_map.mpr (h.imp fun hlt => ?_)⟩
    · obtain ⟨f, hf, rfl⟩ := List.mem_map.mp he
      obtain ⟨first, rest, hfirst⟩ := List.exists_cons_of_ne_nil (hne f hf)
      rw [hfirst]
      exact List.cons_lt_cons_self.mpr (List.nil_lt_cons ..)
    · exact List.cons_lt_cons_self.mpr hlt
  · exact List.pairwise_singleton ..

theorem ascending_tourOf (d : Disk) (keep : String → Bool) (levels : Nat) (here : Location) :
    Ascending (d.tourOf keep levels here) := by
  induction levels generalizing here with
  | zero => exact .nil
  | succ levels ih =>
    rw [tourOf, Ascending, List.pairwise_flatMap]
    constructor
    · exact fun name _ => ascending_visit (fun e => ne_nil_of_mem_tourOf) (ih _)
    · -- all that is under one name comes before all that is under a later one
      refine ((namesIn_pairwise d here).filter _).imp fun hlt e he f hf => ?_
      obtain ⟨rest, he⟩ := exists_cons_of_mem_visit he
      obtain ⟨more, hf⟩ := exists_cons_of_mem_visit hf
      rw [he, hf]
      exact List.cons_lt_cons_iff.mpr (.inl hlt)

theorem length_le_height {e : Location × Item} (h : e ∈ d.items) : e.1.length ≤ d.height := by
  have hfold (items : List (Location × Item)) (n : Nat) :
      n ≤ items.foldl (fun n e => max n e.1.length) n ∧
        ∀ e ∈ items, e.1.length ≤ items.foldl (fun n e => max n e.1.length) n := by
    induction items generalizing n with
    | nil => simp
    | cons first items ih =>
      obtain ⟨hmax, hitems⟩ := ih (max n first.1.length)
      refine ⟨(Nat.le_max_left ..).trans hmax, List.forall_mem_cons.mpr ⟨?_, hitems⟩⟩
      exact (Nat.le_max_right ..).trans hmax
  exact (hfold d.items 0).2 e h

/-- A tour comes to everything below a directory whose names are kept, and to nothing else. -/
theorem IsTree.mem_tour (hd : d.IsTree) : (way, item) ∈ d.tour keep here ↔
    way ≠ [] ∧ (∀ name ∈ way, keep name = true) ∧ d.get? (here ++ way) = some item := by
  rw [tour, hd.mem_tourOf]
  constructor
  · rintro ⟨hway, -, hkeeps, hitem⟩
    exact ⟨hway, hkeeps, hitem⟩
  · rintro ⟨hway, hkeeps, hitem⟩
    have hheight := length_le_height (mem_of_get? hitem (by simp [hway]))
    rw [List.length_append] at hheight
    exact ⟨hway, by omega, hkeeps, hitem⟩

theorem ascending_tour (d : Disk) (keep : String → Bool) (here : Location) :
    Ascending (d.tour keep here) :=
  d.ascending_tourOf keep d.height here

end Disk

end CaseSuite
