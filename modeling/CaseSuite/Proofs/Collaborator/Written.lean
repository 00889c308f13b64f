import CaseSuite.Collaborator.Files
import CaseSuite.Proofs.Disk.Leads
/-!
What a prepared root holds: files, the directories above them, and nothing else. Roots that lead
upwards have to do so through directories.
-/
set_option autoImplicit false

namespace CaseSuite

/-- Files that are written below a root, the last one first. -/
abbrev Written := List (Location × ByteArray)

/-- The files after one more action; clearing leaves none. -/
def Written.after (files : Written) : FilePreparation → Written
  | .clear => []
  | .write name content => (Path.names name, content.toUTF8) :: files

/-- The files that actions leave where nothing was before. -/
def writtenBy (actions : List FilePreparation) : Written := actions.foldl Written.after []

/-- What files and the directories above them make of a place below the root. -/
def Written.item? (files : Written) (rel : Location) : Option Disk.Item :=
  match files.find? (·.1 == rel) with
  | some file => some (.file file.2)
  | none => if ∃ file ∈ files, rel <+: file.1 then some .dir else none

namespace Written

variable {files : Written} {rel : Location}

@[simp] theorem item?_nil (rel : Location) : item? [] rel = none := rfl

theorem item?_cons (file : Location × ByteArray) (files : Written) (rel : Location) :
    item? (file :: files) rel =
      if file.1 = rel then some (.file file.2)
      else item? files rel <|> if rel <+: file.1 then some .dir else none := by
  by_cases hfile : file.1 = rel
  · simp [item?, hfile]
  · rw [if_neg hfile, item?, item?, List.find?_cons_of_neg (by simpa using hfile)]
    cases files.find? (·.1 == rel) with
    | some other => rfl
    | none => by_cases hany : ∃ other ∈ files, rel <+: other.1 <;> simp [hany]

theorem item?_ne_link (target : String) : files.item? rel ≠ some (.link target) := by
  unfold item?
  split
  · simp
  · split <;> simp

theorem exists_mem_of_item?_ne_none (h : files.item? rel ≠ none) :
    ∃ file ∈ files, rel <+: file.1 := by
  unfold item? at h
  split at h
  · rename_i file hfile
    have hsame : file.1 = rel := by simpa using List.find?_some hfile
    exact ⟨file, List.mem_of_find?_eq_some hfile, hsame ▸ List.prefix_rfl⟩
  · by_contra hnot
    simp [hnot] at h

theorem item?_append_eq_none (h : files.item? rel = none) (more : Location) :
    files.item? (rel ++ more) = none := by
  induction files with
  | nil => rfl
  | cons file files ih =>
    rw [item?_cons, ite_eq_iff] at h
    obtain ⟨-, h⟩ | ⟨hne, h⟩ := h
    · simp at h
    · obtain ⟨hfiles, habove⟩ : item? files rel = none ∧ ¬ rel <+: file.1 := by
        simpa using h
      have hmore : ¬ rel ++ more <+: file.1 := mt (List.prefix_append _ _).trans habove
      have hfile : file.1 ≠ rel ++ more := by
        rintro heq
        exact habove (heq ▸ List.prefix_append _ _)
      rw [item?_cons, if_neg hfile, ih hfiles, if_neg hmore]
      rfl

end Written

namespace Disk

/-- What is found below the root. -/
def found (d : Disk) (root : String) (rel : Location) : Option Item :=
  match d.directory root with
  | .ok top => d.get? (top ++ rel)
  | .error _ => none

/-- The location of the root: where it was before, or else where it has been made. -/
def rootAt (root : String) (d e : Disk) : Option Location :=
  match d.directory root, e.directory root with
  | .ok top, _ => some top
  | .error _, .ok top => some top
  | .error _, .error _ => none

/-- From one disk to the other, the root got these files and nothing else. Outside of the root
nothing changed, but the root and the directories above it may have been made. -/
structure Isolated (root : String) (files : Written) (d e : Disk) : Prop where
  found : ∀ rel, rel ≠ [] → e.found root rel = files.item? rel
  kept : ∀ loc, (∀ top ∈ rootAt root d e, ¬ top.isBelow loc) → e.get? loc = d.get? loc ∨
    d.get? loc = none ∧ e.get? loc = some .dir ∧ ∃ top, e.directory root = .ok top ∧ loc <+: top

/-- Steps lead to a directory, from where a path starts. -/
def Reaches (d : Disk) (path : String) (steps : List String) : Prop :=
  ∃ loc, d.follow true linkLimit (start d.home path) steps = .ok (.taken loc .dir)

/-- Whatever leads upwards on the path of the root leads out of directories that are there, and that
are still there when the root is cleared. -/
def Rooted (d : Disk) (root : String) : Prop :=
  ∃ up down, Path.steps root = up ++ down ∧ ".." ∉ down ∧ d.Reaches root up ∧
    ∀ top, d.directory root = .ok top → (d.eraseBelow top).Reaches root up

theorem rooted_of_not_mem {root : String} (d : Disk) (h : ".." ∉ Path.steps root) : d.Rooted root :=
  ⟨[], Path.steps root, rfl, h, ⟨_, follow_nil _ _⟩, fun _ _ => ⟨_, follow_nil _ _⟩⟩

/-- From where some of the names on a path lead, all others lead down. -/
def Descends (d : Disk) (path : String) : Prop := ∃ n up down top, n ≤ linkLimit ∧
  Path.names path = up ++ down ∧ ".." ∉ down ∧ d.Leads n (start d.home path) up top

theorem Reaches.descends {d : Disk} {path : String} {up down : List String} (h : d.Reaches path up)
    (hsteps : Path.steps path = up ++ down) (hdown : ".." ∉ down) : d.Descends path := by
  obtain ⟨top, htop⟩ := h
  obtain ⟨n, hn, hleads⟩ := follow_eq_dir.mp htop
  refine ⟨n, up.filter (· != "."), down.filter (· != "."), top, hn, ?_, ?_, ?_⟩
  · rw [Path.names, hsteps, List.filter_append]
  · exact fun hmem => hdown (List.mem_filter.mp hmem).1
  · exact hleads.of_filter_eq (by simp)

end Disk

end CaseSuite
