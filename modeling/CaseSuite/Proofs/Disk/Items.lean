import CaseSuite.Disk.Basic
import Mathlib.Data.List.Induction
/-!
What is at a location after an item was put somewhere or items were removed.
-/
set_option autoImplicit false

namespace CaseSuite

namespace Location

theorem below?_append (root : Location) {rel : Location} (h : rel ≠ []) :
    below? root (root ++ rel) = some rel := by
  induction root with
  | nil =>
    obtain ⟨name, rel, rfl⟩ := List.exists_cons_of_ne_nil h
    rfl
  | cons name root ih => simpa [below?] using ih

theorem isBelow_iff {root loc : Location} :
    root.isBelow loc = true ↔ ∃ rel, rel ≠ [] ∧ loc = root ++ rel := by
  constructor
  · intro h
    induction root generalizing loc with
    | nil =>
      cases loc with
      | nil => simp [isBelow, below?] at h
      | cons name loc => exact ⟨name :: loc, by simp, rfl⟩
    | cons name root ih =>
      cases loc with
      | nil => simp [isBelow, below?] at h
      | cons other loc =>
        rw [isBelow, below?] at h
        split at h
        · rename_i hname
          obtain ⟨rel, hrel, rfl⟩ := ih h
          exact ⟨rel, hrel, by simp [beq_iff_eq.mp hname]⟩
        · simp at h
  · rintro ⟨rel, hrel, rfl⟩
    rw [isBelow, below?_append root hrel, Option.isSome_some]

end Location

namespace Disk

/-- The disk without everything below a location. -/
def eraseBelow (d : Disk) (root : Location) : Disk :=
  { d with items := d.items.filter fun e => !root.isBelow e.1 }

variable (d : Disk)

@[simp] theorem get?_root : d.get? [] = some .dir := rfl

@[simp] theorem home_eraseBelow (loc : Location) : (d.eraseBelow loc).home = d.home := rfl

theorem lookup_filter (p : Location → Bool) (loc : Location) (items : List (Location × Item)) :
    lookup loc (items.filter fun e => p e.1) = if p loc then lookup loc items else none := by
  induction items with
  | nil => simp [lookup]
  | cons e items ih =>
    by_cases he : e.1 = loc
    · subst he
      cases hp : p e.1 <;> simp [hp, lookup, ih]
    · cases hp : p e.1 <;> simp [hp, lookup, he, ih]

theorem mem_of_lookup {loc : Location} {item : Item} {items : List (Location × Item)}
    (h : lookup loc items = some item) : (loc, item) ∈ items := by
  induction items with
  | nil => simp [lookup] at h
  | cons e items ih =>
    rw [lookup] at h
    split at h
    · rename_i hloc
      obtain rfl := Option.some.inj h
      exact beq_iff_eq.mp hloc ▸ List.mem_cons_self
    · exact List.mem_cons_of_mem _ (ih h)

theorem exists_lookup_of_mem {entry : Location × Item} {items : List (Location × Item)}
    (h : entry ∈ items) : ∃ item, lookup entry.1 items = some item := by
  induction items with
  | nil => simp at h
  | cons e items ih =>
    rw [lookup]
    split
    · exact ⟨e.2, rfl⟩
    · rename_i hne
      obtain rfl | h := List.mem_cons.mp h
      · simp at hne
      · exact ih h

variable {d} in
theorem mem_of_get? {loc : Location} {item : Item} (h : d.get? loc = some item) (hloc : loc ≠ []) :
    (loc, item) ∈ d.items := by
  rw [get?, if_neg (by simpa using hloc)] at h
  exact mem_of_lookup h

theorem get?_put {loc : Location} (hloc : loc ≠ []) (item : Item) (other : Location) :
    (d.put loc item).get? other = if other = loc then some item else d.get? other := by
  by_cases hother : other = []
  · simp [hother, Ne.symm hloc]
  · by_cases h : other = loc
    · simp [get?, put, lookup, h, hloc]
    · have hfilter := lookup_filter (fun l => l != loc) other d.items
      simp [get?, put, lookup, hother, h, Ne.symm h, hfilter]

theorem get?_eraseBelow (root loc : Location) :
    (d.eraseBelow root).get? loc = if root.isBelow loc then none else d.get? loc := by
  by_cases hloc : loc = []
  · have habove : ¬ root.isBelow [] = true := by simp [Location.isBelow_iff]
    simp [hloc, habove]
  · have hfilter := lookup_filter (fun l => !root.isBelow l) loc d.items
    cases h : root.isBelow loc <;> simp [get?, eraseBelow, hloc, hfilter, h]

theorem get?_eraseBelow_append (root : Location) {rel : Location} (hrel : rel ≠ []) :
    (d.eraseBelow root).get? (root ++ rel) = none := by
  rw [get?_eraseBelow, if_pos (Location.isBelow_iff.mpr ⟨rel, hrel, rfl⟩)]

theorem get?_of_get?_eraseBelow {root loc : Location} {item : Item}
    (h : (d.eraseBelow root).get? loc = some item) : d.get? loc = some item := by
  rw [get?_eraseBelow] at h
  split at h
  · contradiction
  · exact h

theorem get?_erase (loc other : Location) : (d.erase loc).get? other =
    if other ≠ [] ∧ loc <+: other then none else d.get? other := by
  by_cases hother : other = []
  · simp [hother]
  · have hfilter := lookup_filter (fun l => !loc.isPrefixOf l) other d.items
    cases h : loc.isPrefixOf other <;>
      simp [get?, erase, hother, hfilter, h, ← List.isPrefixOf_iff_prefix]

theorem get?_of_get?_erase {loc other : Location} {item : Item}
    (h : (d.erase loc).get? other = some item) : d.get? other = some item := by
  rw [get?_erase] at h
  split at h
  · contradiction
  · exact h

/-- Nothing is below where nothing is. -/
def Closed (d : Disk) : Prop :=
  ∀ loc name, d.get? loc = none → d.get? (loc ++ [name]) = none

variable {d}

theorem closed_of_forall (h : ∀ entry ∈ d.items, (d.get? entry.1.dropLast).isSome = true) :
    d.Closed := by
  intro loc name hloc
  by_contra hitem
  obtain ⟨item, hitem⟩ := Option.ne_none_iff_exists'.mp hitem
  rw [get?, if_neg (by simp)] at hitem
  have habove := h _ (mem_of_lookup hitem)
  simp [hloc] at habove

theorem Closed.get?_append (h : d.Closed) {loc : Location} (hloc : d.get? loc = none)
    (rel : Location) : d.get? (loc ++ rel) = none := by
  induction rel using List.reverseRecOn with
  | nil => simpa using hloc
  | append_singleton rel name ih => exact List.append_assoc _ _ _ ▸ h _ name ih

theorem Closed.eraseBelow (h : d.Closed) (root : Location) : (d.eraseBelow root).Closed := by
  intro loc name hloc
  rw [get?_eraseBelow] at hloc ⊢
  split
  · rfl
  · rename_i hbelow
    refine h loc name (hloc ▸ (if_neg fun habove => hbelow ?_).symm)
    obtain ⟨rel, hrel, rfl⟩ := Location.isBelow_iff.mp habove
    exact Location.isBelow_iff.mpr ⟨rel ++ [name], by simp, List.append_assoc _ _ _⟩

/-- All directories and links are still there. -/
def Keeps (d e : Disk) : Prop :=
  ∀ loc item, d.get? loc = some item → (∀ bytes, item ≠ .file bytes) → e.get? loc = some item

variable {e : Disk}

theorem Keeps.trans {f : Disk} (h : d.Keeps e) (h' : e.Keeps f) : d.Keeps f :=
  fun loc item hitem hfile => h' loc item (h loc item hitem hfile) hfile

theorem Keeps.eraseBelow (h : d.Keeps e) (root : Location) :
    (d.eraseBelow root).Keeps (e.eraseBelow root) := by
  intro loc item hitem hfile
  rw [get?_eraseBelow] at hitem ⊢
  by_cases hbelow : root.isBelow loc = true
  · simp [hbelow] at hitem
  · rw [if_neg hbelow] at hitem ⊢
    exact h loc item hitem hfile

theorem keeps_eraseBelow {root : Location} (h : ∀ rel, rel ≠ [] → d.get? (root ++ rel) = none) :
    d.Keeps (d.eraseBelow root) := by
  intro loc item hitem _
  rw [get?_eraseBelow, if_neg, hitem]
  intro hbelow
  obtain ⟨rel, hrel, rfl⟩ := Location.isBelow_iff.mp hbelow
  simp [h rel hrel] at hitem

theorem keeps_eraseBelow_eraseBelow (d : Disk) (root : Location) :
    (d.eraseBelow root).Keeps ((d.eraseBelow root).eraseBelow root) :=
  keeps_eraseBelow fun _ => d.get?_eraseBelow_append root

/-- A file in place of another one, or of nothing, takes no directory and no link away. -/
theorem keeps_put_file {loc : Location} {bytes : ByteArray} (hloc : loc ≠ [])
    (hold : ∀ item, d.get? loc = some item → ∃ old, item = .file old) :
    d.Keeps (d.put loc (.file bytes)) := by
  intro other item hitem hfile
  rw [get?_put _ hloc, if_neg, hitem]
  rintro rfl
  obtain ⟨old, rfl⟩ := hold item hitem
  exact hfile old rfl

end Disk

end CaseSuite
