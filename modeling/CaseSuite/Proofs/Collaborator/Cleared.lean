import CaseSuite.Collaborator.Files
import CaseSuite.Proofs.Disk.Operations
import CaseSuite.Proofs.Disk.Tour
/-!
Clearing a directory. One entry after the other is removed, each by its own path, while the disk
changes. If all of this succeeds, the directory has lost everything below it, and nothing else is
gone.
-/
set_option autoImplicit false

namespace CaseSuite

instance (name : String) : Decidable (Path.IsName name) :=
  decidable_of_iff (name ≠ "" ∧ name ≠ "." ∧ '/' ∉ name.toList)
    ⟨fun ⟨hempty, hdot, hslash⟩ => ⟨hempty, hdot, hslash⟩,
      fun h => ⟨h.ne_empty, h.ne_dot, h.noSlash⟩⟩

namespace Disk

/-- A name that something in a directory can have. -/
def OwnName (name : String) : Prop := Path.IsName name ∧ name ≠ ".."

instance : DecidablePred OwnName := fun _ => inferInstanceAs (Decidable (_ ∧ _))

/-- Whatever is on the disk has names of its own all the way. -/
def Named (d : Disk) : Prop := ∀ entry ∈ d.items, ∀ name ∈ entry.1, OwnName name

instance (d : Disk) : Decidable d.Named := inferInstanceAs (Decidable (∀ _ ∈ _, ∀ _ ∈ _, _))

/-- What is below a directory is in one of its entries, and these can be found by their names. -/
structure Listable (d : Disk) (top : Location) : Prop where
  named : ∀ name, d.get? (top ++ [name]) ≠ none → OwnName name
  closed : ∀ name rel, d.get? (top ++ [name]) = none → d.get? (top ++ name :: rel) = none

variable {d e : Disk} {top : Location}

theorem Named.listable (h : d.Named) (hclosed : d.Closed) (top : Location) : d.Listable top where
  named name hname := by
    obtain ⟨item, hitem⟩ := Option.ne_none_iff_exists'.mp hname
    exact h _ (mem_of_get? hitem (by simp)) name (by simp)
  closed name rel hnone := by
    simpa using hclosed.get?_append hnone rel

theorem mem_entriesIn {name : String} {kind : Kind} (h : (name, kind) ∈ d.entriesIn top) :
    d.get? (top ++ [name]) ≠ none := by
  obtain ⟨_, -, hentry⟩ := List.mem_filterMap.mp h
  obtain ⟨item, hitem, heq⟩ := Option.map_eq_some_iff.mp hentry
  obtain ⟨rfl, -⟩ := Prod.mk.inj heq
  simp [hitem]

theorem exists_mem_entriesIn {name : String} (h : d.get? (top ++ [name]) ≠ none) :
    ∃ kind, (name, kind) ∈ d.entriesIn top := by
  obtain ⟨item, hitem⟩ := Option.ne_none_iff_exists'.mp h
  exact ⟨item.kind, List.mem_filterMap.mpr
    ⟨name, mem_namesIn.mpr ⟨item, hitem⟩, by rw [hitem]; rfl⟩⟩

/-- What is left once the entries with these names are removed. -/
def eraseEntries (d : Disk) (top : Location) (entries : List (String × Kind)) : Disk :=
  entries.foldl (fun d entry => d.erase (top ++ [entry.1])) d

theorem eraseEntries_eq (d : Disk) (top : Location) (entries : List (String × Kind)) :
    d.eraseEntries top entries =
      { d with items := d.items.filter fun e =>
          entries.all fun entry => !(top ++ [entry.1]).isPrefixOf e.1 } := by
  induction entries generalizing d with
  | nil => simp [eraseEntries]
  | cons entry entries ih =>
    rw [eraseEntries, List.foldl_cons, ← eraseEntries, ih, erase, List.filter_filter]
    congr 2
    funext e
    rw [List.all_cons, Bool.and_comm]

theorem Listable.eraseEntries_eq (h : d.Listable top) :
    d.eraseEntries top (d.entriesIn top) = d.eraseBelow top := by
  rw [Disk.eraseEntries_eq, eraseBelow]
  congr 1
  refine List.filter_congr fun e he => ?_
  rw [Bool.eq_iff_iff, List.all_eq_true, Bool.not_eq_true', Bool.eq_false_iff, ne_eq,
    Location.isBelow_iff]
  constructor
  · rintro hall ⟨rel, hrel, heq⟩
    obtain ⟨name, rel, rfl⟩ := List.exists_cons_of_ne_nil hrel
    have hthere : d.get? (top ++ name :: rel) ≠ none := by
      obtain ⟨item, hitem⟩ := exists_lookup_of_mem he
      rw [← heq, get?, if_neg (by simp [heq]), hitem]
      simp
    obtain ⟨kind, hmem⟩ := exists_mem_entriesIn (mt (h.closed name rel) hthere)
    have hout := hall _ hmem
    rw [Bool.not_eq_true', Bool.eq_false_iff, ne_eq, List.isPrefixOf_iff_prefix] at hout
    exact hout ⟨rel, by simp [heq]⟩
  · intro hbelow entry _
    rw [Bool.not_eq_true', Bool.eq_false_iff, ne_eq, List.isPrefixOf_iff_prefix]
    rintro ⟨rel, heq⟩
    exact hbelow ⟨entry.1 :: rel, by simp, by simp [← heq]⟩

end Disk

namespace FileService

variable {d e mid : Disk} {path : String} {top : Location}

theorem outcome_mk_modifyGet {α : Type} (op : Disk.Op α) (d : Disk) :
    Disk.outcome (ExceptT.mk (modifyGet op.run : StateM Disk _)) d = Disk.outcome op d := rfl

theorem removeEntry_dir (path name : String) : removeEntry path (name, .dir) = ExceptT.mk
    (modifyGet (Disk.Op.remove Disk.removableTree (Path.join path name)).run : StateM Disk _) :=
  rfl

theorem removeEntry_of_ne {kind : Disk.Kind} (h : kind ≠ .dir) (path name : String) :
    removeEntry path (name, kind) = ExceptT.mk
      (modifyGet (Disk.Op.remove Disk.removableFile (Path.join path name)).run :
        StateM Disk _) := by
  cases kind with
  | dir => contradiction
  | file => rfl
  | link => rfl

theorem exists_of_outcome_removeEntry {entry : String × Disk.Kind}
    (h : Disk.outcome (removeEntry path entry) d = (.ok (), e)) : ∃ loc item,
      d.itemItself (Path.join path entry.1) = .ok (loc, item) ∧ e = d.erase loc := by
  obtain ⟨name, kind⟩ := entry
  by_cases hkind : kind = .dir
  · rw [hkind, removeEntry_dir, outcome_mk_modifyGet] at h
    obtain ⟨loc, hloc, rfl⟩ := Disk.Op.remove_eq_ok.mp h
    obtain ⟨item, hitem⟩ := Disk.itemItself_of_removableTree hloc
    exact ⟨loc, item, hitem, rfl⟩
  · rw [removeEntry_of_ne hkind, outcome_mk_modifyGet] at h
    obtain ⟨loc, hloc, rfl⟩ := Disk.Op.remove_eq_ok.mp h
    obtain ⟨item, hitem⟩ := Disk.itemItself_of_removableFile hloc
    exact ⟨loc, item, hitem, rfl⟩

theorem eq_of_outcome_removeEntry {entry : String × Disk.Kind} (hkept : mid.Keeps d)
    (hhome : mid.home = d.home) (htop : d.directory path = .ok top)
    (hname : Disk.OwnName entry.1)
    (h : Disk.outcome (removeEntry path entry) mid = (.ok (), e)) :
    e = mid.erase (top ++ [entry.1]) := by
  obtain ⟨loc, item, hitem, rfl⟩ := exists_of_outcome_removeEntry h
  rw [Disk.eq_of_itemItself_join hkept hhome htop hname.1 hname.2 hitem]

/-- While entries are removed, the directory is still where it was when they were listed. -/
theorem eq_of_outcome_forM_removeEntry {entries : List (String × Disk.Kind)}
    (hkept : mid.Keeps d) (hhome : mid.home = d.home) (htop : d.directory path = .ok top)
    (hnames : ∀ entry ∈ entries, Disk.OwnName entry.1)
    (h : Disk.outcome (entries.forM (removeEntry path)) mid = (.ok (), e)) :
    e = mid.eraseEntries top entries := by
  induction entries generalizing mid with
  | nil => exact (Prod.mk.inj h).2.symm
  | cons entry entries ih =>
    obtain ⟨hname, hnames⟩ := List.forall_mem_cons.mp hnames
    obtain ⟨next, hstep, hrest⟩ := Disk.outcome_bind_eq_ok.mp h
    obtain rfl := eq_of_outcome_removeEntry hkept hhome htop hname hstep
    exact ih (fun loc item hitem => hkept loc item (mid.get?_of_get?_erase hitem)) hhome hnames
      hrest

theorem outcome_clearDir (path : String) (d : Disk) : Disk.outcome (clearDir path) d =
    match d.directory path with
    | .ok top => Disk.outcome ((d.entriesIn top).forM (removeEntry path)) d
    | .error .notFound => (.ok (), d)
    | .error fault => (.error fault, d) := by
  have hentries : (Storage.entries path : StateM Disk _).run d = (d.entries path, d) := rfl
  unfold clearDir Disk.outcome
  rw [ExceptT.run_mk, StateT.run_bind, hentries, Disk.entries]
  cases d.directory path with
  | ok top => rfl
  | error fault => cases fault <;> rfl

/-- A directory that could be cleared has lost everything below it, and nothing else has changed. A
directory that is missing is left missing. -/
theorem clearDir_eq_ok (hlist : ∀ top, d.directory path = .ok top → d.Listable top)
    (h : Disk.outcome (clearDir path) d = (.ok (), e)) :
    (∃ top, d.directory path = .ok top ∧ e = d.eraseBelow top) ∨
      d.directory path = .error .notFound ∧ e = d := by
  rw [outcome_clearDir] at h
  cases hdir : d.directory path with
  | ok top =>
    rw [hdir] at h
    have hlist := hlist top hdir
    refine .inl ⟨top, rfl, ?_⟩
    rw [← hlist.eraseEntries_eq]
    exact eq_of_outcome_forM_removeEntry (fun _ _ hitem _ => hitem) rfl hdir
      (fun entry hmem => hlist.named _ (Disk.mem_entriesIn hmem)) h
  | error fault =>
    rw [hdir] at h
    cases fault with
    | notFound => exact .inr ⟨rfl, (Prod.mk.inj h).2.symm⟩
    | _ => cases h

end FileService

end CaseSuite
