import CaseSuite.Proofs.Collaborator.Preparation
/-!
Preparing files from a cleared root. Whatever was there before, the root holds the files that are
written after it was cleared for the last time, and nothing else; and nothing outside of it changes.
-/
set_option autoImplicit false

namespace CaseSuite

namespace FileService

variable {s : FileService} {d e : Disk} {actions : List FilePreparation}

/-- The root is still to be made: nothing is there, and nothing was added to the disk. -/
structure Missing (s : FileService) (d e : Disk) : Prop where
  home : e.home = d.home
  missing : ∀ top, e.directory s.root ≠ .ok top
  closed : e.Closed
  descends : e.Descends s.root
  sub : ∀ loc item, e.get? loc = some item → d.get? loc = some item
  kept : ∀ loc, (∀ top, d.directory s.root = .ok top → ¬ top.isBelow loc) → e.get? loc = d.get? loc

/-- The root is a directory with these files in it and nothing else; it stays where it is when it is
cleared. -/
structure Holds (s : FileService) (files : Written) (d e : Disk) (top : Location) : Prop where
  home : e.home = d.home
  root : e.directory s.root = .ok top
  stays : (e.eraseBelow top).directory s.root = .ok top
  named : ∀ file ∈ files, ∀ name ∈ file.1, Disk.OwnName name
  found : ∀ rel, rel ≠ [] → e.get? (top ++ rel) = files.item? rel
  inside : ∀ old, d.directory s.root = .ok old → old <+: top
  kept : ∀ loc, (∀ old, d.directory s.root = .ok old → ¬ old.isBelow loc) → ¬ top.isBelow loc →
    e.get? loc = d.get? loc ∨ d.get? loc = none ∧ e.get? loc = some .dir ∧ loc <+: top

theorem holds_or_missing (hclosed : d.Closed) (hnamed : d.Named) (hrooted : d.Rooted s.root)
    (h : Disk.outcome (s.prepare .clear) d = (.ok (), e)) :
    (∃ top, s.Holds [] d e top) ∨ s.Missing d e := by
  obtain ⟨up, down, hsteps, hdown, hup, herased⟩ := hrooted
  obtain ⟨top, hroot, rfl⟩ | ⟨hroot, rfl⟩ :=
    prepare_clear_eq_ok (fun top _ => hnamed.listable hclosed top) h
  · have hkept (loc : Location) (hloc : ¬ top.isBelow loc = true) :
        (d.eraseBelow top).get? loc = d.get? loc := by
      rw [Disk.get?_eraseBelow, if_neg hloc]
    by_cases hmissing : ∃ top', (d.eraseBelow top).directory s.root = .ok top'
    · -- a root that is still found is found where it was
      obtain ⟨top', hroot'⟩ := hmissing
      have hback := Disk.directory_mono (fun _ _ hitem _ => d.get?_of_get?_eraseBelow hitem) rfl
        hroot'
      obtain rfl := Except.ok.inj (hroot.symm.trans hback)
      refine .inl ⟨top, rfl, hroot', ?_, by simp, fun rel hrel => ?_, fun old hold => ?_, ?_⟩
      · exact Disk.directory_mono (d.keeps_eraseBelow_eraseBelow top) rfl hroot'
      · rw [d.get?_eraseBelow_append top hrel, Written.item?_nil]
      · obtain rfl := Except.ok.inj (hroot.symm.trans hold)
        exact List.prefix_rfl
      · exact fun loc hloc _ => .inl (hkept loc (hloc top hroot))
    · exact .inr ⟨rfl, not_exists.mp hmissing, hclosed.eraseBelow top,
        (herased top hroot).descends hsteps hdown, fun _ _ => d.get?_of_get?_eraseBelow,
        fun loc hloc => hkept loc (hloc top hroot)⟩
  · exact .inr ⟨rfl, by simp [hroot], hclosed, hup.descends hsteps hdown, fun _ _ => id,
      fun _ _ => rfl⟩

theorem Missing.clear {mid : Disk} (h : s.Missing d mid)
    (hstep : Disk.outcome (s.prepare .clear) mid = (.ok (), e)) : e = mid := by
  obtain ⟨top, hroot, -⟩ | ⟨-, rfl⟩ :=
    prepare_clear_eq_ok (fun top htop => absurd htop (h.missing top)) hstep
  · exact absurd hroot (h.missing top)
  · rfl

theorem Holds.listable {mid : Disk} {files : Written} {top : Location}
    (h : s.Holds files d mid top) : mid.Listable top where
  named name hname := by
    rw [h.found [name] (by simp)] at hname
    obtain ⟨file, hfile, hway⟩ := Written.exists_mem_of_item?_ne_none hname
    exact h.named file hfile name (hway.subset (by simp))
  closed name rel hnone := by
    rw [h.found [name] (by simp)] at hnone
    rw [h.found _ (by simp)]
    exact Written.item?_append_eq_none hnone rel

theorem Holds.clear {mid : Disk} {files : Written} {top : Location} (h : s.Holds files d mid top)
    (hstep : Disk.outcome (s.prepare .clear) mid = (.ok (), e)) : s.Holds [] d e top := by
  have hlist (top' : Location) (htop : mid.directory s.root = .ok top') : mid.Listable top' :=
    Except.ok.inj (h.root.symm.trans htop) ▸ h.listable
  obtain ⟨top', hroot, rfl⟩ | ⟨hroot, -⟩ := prepare_clear_eq_ok hlist hstep
  · obtain rfl := Except.ok.inj (h.root.symm.trans hroot)
    refine ⟨h.home, h.stays, ?_, by simp, fun rel hrel => ?_, h.inside, fun loc hold hloc => ?_⟩
    · exact Disk.directory_mono (mid.keeps_eraseBelow_eraseBelow top) rfl h.stays
    · rw [mid.get?_eraseBelow_append top hrel, Written.item?_nil]
    · rw [Disk.get?_eraseBelow, if_neg hloc]
      exact h.kept loc hold hloc
  · rw [h.root] at hroot
    contradiction

section write

variable {name last above : String} {bytes : ByteArray} {mid mid' : Disk} {dirs : List String}
  {files : Written} {top : Location}

theorem ownName_of_mem_names (hplain : ".." ∉ Path.names name) {step : String}
    (hmem : step ∈ Path.names name) : Disk.OwnName step :=
  ⟨Path.isName_of_mem_names hmem, fun heq => hplain (heq ▸ hmem)⟩

theorem Holds.ne_link (h : s.Holds files d mid top) {rel : Location} (hrel : rel ≠ [])
    (target : String) : mid.get? (top ++ rel) ≠ some (.link target) := by
  rw [h.found rel hrel]
  exact Written.item?_ne_link target

/-- The directories above one more file go on from one that the root holds, or from the root. -/
theorem Holds.exists_grown (h : s.Holds files d mid top)
    (hwrites : s.Writes name bytes mid mid' e dirs last above) (hplain : ".." ∉ Path.names name) :
    ∃ part rel, dirs = part ++ rel ∧ mid.Grown (top ++ part) rel mid' := by
  have hdown : ".." ∉ dirs := fun hmem => (hwrites.ne_of_mem hplain hmem).2 rfl
  obtain ⟨-, i, hi, hroot⟩ := Disk.directory_eq_ok.mp h.root
  have hbelow {part : Location} {k : Nat} {base : Location} (hpart : part <+: dirs)
      (hleads : mid.Leads k top part base) : base = top ++ part :=
    (hleads.down (fun _ target hrel => h.ne_link hrel target) fun _ hmem =>
      hwrites.ne_of_mem hplain (hpart.subset hmem)).1
  obtain ⟨k, part, rel, base, -, rfl, hleads, hgrown⟩ := Disk.grownAlong_of_makeDirs hwrites.made
    hwrites.tidy hwrites.namesAbove hdown hi (by rwa [hwrites.start])
    fun part k base hpart hleads name hnone rel => by
      obtain rfl := hbelow hpart hleads
      simp only [List.append_assoc] at hnone ⊢
      rw [h.found _ (by simp)] at hnone ⊢
      simpa using Written.item?_append_eq_none hnone rel
  rw [hwrites.start] at hleads
  obtain ⟨_, _, root, -, hroot', hpart⟩ := hleads.exists_of_append
  obtain ⟨rfl, -⟩ := hroot'.unique hroot
  obtain rfl := hbelow (List.prefix_append _ _) hpart
  exact ⟨part, rel, rfl, hgrown⟩

theorem Holds.write (h : s.Holds files d mid top)
    (hwrites : s.Writes name bytes mid mid' e dirs last above) (hplain : ".." ∉ Path.names name) :
    s.Holds ((Path.names name, bytes) :: files) d e top := by
  obtain ⟨part, rel, rfl, hgrown⟩ := h.exists_grown hwrites hplain
  obtain ⟨-, i, -, hroot⟩ := Disk.directory_eq_ok.mp h.root
  obtain ⟨rfl, hold, hdirs⟩ := hwrites.put_eq hplain (hgrown.home ▸ hroot.mono hgrown.keeps)
    fun rel' target hrel => by
      obtain hsame | ⟨_, _, _, _, _, hdir⟩ := hgrown.get?_eq_or (top ++ rel')
      · exact hsame ▸ h.ne_link hrel target
      · simp [hdir]
  have hloc : top ++ Path.names name ≠ [] := by simp [hwrites.names]
  have hkeeps : mid.Keeps (mid'.put (top ++ Path.names name) (.file bytes)) :=
    hgrown.keeps.trans (Disk.keeps_put_file hloc hold)
  refine ⟨hgrown.home.trans h.home, Disk.directory_mono hkeeps hgrown.home h.root,
    Disk.directory_mono (hkeeps.eraseBelow top) hgrown.home h.stays,
    List.forall_mem_cons.mpr ⟨fun _ => ownName_of_mem_names hplain, h.named⟩,
    fun rel' hrel => ?_, h.inside, fun loc hold hout => ?_⟩
  · rw [hwrites.names]
    refine get?_put_file h.found (fun rel' => ?_) hdirs hrel
    obtain hsame | ⟨part', -, hpart, heq, hnone, -⟩ := hgrown.get?_eq_or (top ++ rel')
    · exact .inl hsame
    · obtain rfl : rel' = part ++ part' := by simpa using heq
      exact .inr ⟨hnone, (List.prefix_append_right_inj part).mpr hpart⟩
  · have hne (rel' : Location) (hrel : rel' ≠ []) : loc ≠ top ++ rel' :=
      fun heq => hout (Location.isBelow_iff.mpr ⟨rel', hrel, heq⟩)
    rw [Disk.get?_put _ hloc, if_neg (hne _ (by simp [hwrites.names]))]
    obtain hsame | ⟨part', hpart, -, heq, -⟩ := hgrown.get?_eq_or loc
    · rw [hsame]
      exact h.kept loc hold hout
    · exact absurd (by simpa using heq) (hne (part ++ part') (by simp [hpart]))

theorem Missing.exists_grown (h : s.Missing d mid)
    (hwrites : s.Writes name bytes mid mid' e dirs last above) (hplain : ".." ∉ Path.names name) :
    ∃ k init first more base, k ≤ Disk.linkLimit ∧ Path.names s.root = init ++ first :: more ∧
      mid.Leads k (Disk.start mid.home s.root) init base ∧
      mid.Grown base (first :: more ++ dirs) mid' := by
  obtain ⟨n, up, down, loc, hn, hroot, hup, hleads⟩ := h.descends
  have hdown : ".." ∉ down ++ dirs := by
    rw [List.mem_append, not_or]
    exact ⟨hup, fun hmem => (hwrites.ne_of_mem hplain hmem).2 rfl⟩
  obtain ⟨k, part, rel, base, hk, hsplit, hbase, hgrown⟩ := Disk.grownAlong_of_makeDirs hwrites.made
    hwrites.tidy (by rw [hwrites.namesAbove, hroot, List.append_assoc]) hdown hn
    (by rwa [hwrites.start]) fun _ _ _ _ _ _ hnone => h.closed.get?_append hnone
  rw [hwrites.start] at hbase
  -- the root itself leads nowhere, so the new directories start above its end
  have hnot {i : Nat} {loc : Location} (hi : i ≤ Disk.linkLimit) :
      ¬ mid.Leads i (Disk.start mid.home s.root) (up ++ down) loc := fun hleads =>
    h.missing loc (Disk.directory_eq_ok.mpr ⟨hwrites.valid, i, hi, hroot ▸ hleads⟩)
  obtain ⟨more, rfl, -⟩ | ⟨rest, rfl, rfl⟩ := List.append_eq_append_iff.mp hsplit
  · rw [← List.append_assoc] at hbase
    obtain ⟨i, j, _, rfl, hi, -⟩ := hbase.exists_of_append
    exact absurd hi (hnot (by omega))
  · cases rest with
    | nil => exact absurd hbase (by simpa using hnot hk)
    | cons first more =>
      exact ⟨k, up ++ part, first, more, base, hk, by rw [hroot, List.append_assoc], hbase, hgrown⟩

/-- Where a root denoted a directory that is now missing, the way to it broke inside. -/
theorem Missing.inside (h : s.Missing d mid) {k : Nat} {init : List String} {first : String}
    {more : List String} {base old : Location} (hproper : Path.Proper first)
    (hroot : Path.names s.root = init ++ first :: more)
    (hbase : mid.Leads k (Disk.start mid.home s.root) init base)
    (hnone : mid.get? (base ++ [first]) = none) (hold : d.directory s.root = .ok old) :
    old <+: base ++ [first] := by
  obtain ⟨-, n, -, hleads⟩ := Disk.directory_eq_ok.mp hold
  rw [hroot] at hleads
  obtain ⟨_, _, base', -, hinit, hrest⟩ := hleads.exists_of_append
  have hbefore := hbase.mono fun loc item hitem _ => h.sub loc item hitem
  rw [h.home] at hbefore
  obtain ⟨rfl, -⟩ := hinit.unique hbefore
  have hthere := hrest.get?_ne_none hproper.ne_dot hproper.ne_up
  by_contra hpre
  refine hthere (hnone ▸ (h.kept _ fun top htop hbelow => hpre ?_).symm)
  obtain rfl := Except.ok.inj (hold.symm.trans htop)
  obtain ⟨rel, -, hrel⟩ := Location.isBelow_iff.mp hbelow
  exact hrel ▸ List.prefix_append _ _

theorem Missing.write (h : s.Missing d mid)
    (hwrites : s.Writes name bytes mid mid' e dirs last above) (hplain : ".." ∉ Path.names name) :
    ∃ top, s.Holds [(Path.names name, bytes)] d e top := by
  obtain ⟨k, init, first, more, base, hk, hroot, hbase, hgrown⟩ := h.exists_grown hwrites hplain
  have hnone := (hgrown.dirs [first] (by simp) (by simp)).1
  have hempty (rel : Location) : mid.get? (base ++ first :: more ++ rel) = none := by
    simpa using h.closed.get?_append hnone (more ++ rel)
  have hinside (old : Location) (hold : d.directory s.root = .ok old) :
      old <+: base ++ first :: more :=
    (h.inside (hgrown.proper first (by simp)) hroot hbase hnone hold).trans (by simp)
  generalize first :: more = rest at hroot hgrown hempty hinside
  have hnew (rel : Location) : mid'.get? (base ++ rest ++ rel) = none ∨
      rel <+: dirs ∧ mid'.get? (base ++ rest ++ rel) = some .dir := by
    rw [← hempty rel]
    exact hgrown.get?_append_eq_or rel
  have hmade : mid'.Leads (k + 0) (Disk.start mid'.home s.root) (Path.names s.root)
      (base ++ rest) := by
    rw [hroot, hgrown.home]
    exact (hbase.mono hgrown.keeps).append (hgrown.leads (List.prefix_append _ _))
  obtain ⟨rfl, hold, hdirs⟩ := hwrites.put_eq hplain hmade fun rel target _ => by
    obtain hnone | ⟨-, hdir⟩ := hnew rel
    · rw [hnone]
      simp
    · rw [hdir]
      simp
  have hloc : base ++ rest ++ Path.names name ≠ [] := by simp [hwrites.names]
  have hput : mid'.Keeps (mid'.put (base ++ rest ++ Path.names name) (.file bytes)) :=
    Disk.keeps_put_file hloc hold
  refine ⟨base ++ rest, hgrown.home.trans h.home,
    Disk.directory_eq_ok.mpr ⟨hwrites.valid, k, hk, hmade.mono hput⟩, ?_,
    List.forall_mem_cons.mpr ⟨fun _ => ownName_of_mem_names hplain, by simp⟩, fun rel hrel => ?_,
    hinside, fun loc hold hloc' => ?_⟩
  · refine Disk.directory_mono (hput.eraseBelow _) rfl (Disk.directory_eq_ok.mpr
      ⟨hwrites.valid, k + 0, hk, ?_⟩)
    have hkeeps : mid.Keeps (mid'.eraseBelow (base ++ rest)) :=
      (Disk.keeps_eraseBelow fun rel _ => hempty rel).trans (hgrown.keeps.eraseBelow _)
    rw [hroot, Disk.home_eraseBelow, hgrown.home]
    exact (hbase.mono hkeeps).append hgrown.leads_eraseBelow
  · rw [hwrites.names]
    have hfound (rel' : Location) (_ : rel' ≠ []) :
        mid.get? (base ++ rest ++ rel') = Written.item? [] rel' := hempty rel'
    refine get?_put_file hfound (fun rel' => ?_) hdirs hrel
    rw [hempty]
    exact (hnew rel').imp id fun hdir => ⟨rfl, hdir.1⟩
  · have hne : loc ≠ base ++ rest ++ Path.names name := fun heq =>
      hloc' (Location.isBelow_iff.mpr ⟨Path.names name, by simp [hwrites.names], heq⟩)
    rw [Disk.get?_put _ hloc, if_neg hne, ← h.kept loc hold]
    exact hgrown.get?_eq_or_above hloc'

end write

/-- The root holds these files, or there are none and it is still to be made. -/
def Settled (s : FileService) (files : Written) (d e : Disk) : Prop :=
  (∃ top, s.Holds files d e top) ∨ files = [] ∧ s.Missing d e

variable {mid : Disk} {files : Written}

theorem Settled.step {action : FilePreparation} (h : s.Settled files d mid) (hroot : s.root ≠ "")
    (hplain : action.IsPlain) (hstep : Disk.outcome (s.prepare action) mid = (.ok (), e)) :
    s.Settled (files.after action) d e := by
  cases action with
  | clear =>
    obtain ⟨top, hholds⟩ | ⟨-, hmissing⟩ := h
    · exact .inl ⟨top, hholds.clear hstep⟩
    · rw [hmissing.clear hstep]
      exact .inr ⟨rfl, hmissing⟩
  | write name content =>
    obtain ⟨hname, hup⟩ := hplain
    have hplain : ".." ∉ Path.names name := mt Path.mem_steps_of_mem_names hup
    obtain ⟨mid', dirs, last, above, hwrites⟩ := exists_writes hroot hname hstep
    obtain ⟨top, hholds⟩ | ⟨rfl, hmissing⟩ := h
    · exact .inl ⟨top, hholds.write hwrites hplain⟩
    · exact .inl (hmissing.write hwrites hplain)

theorem Settled.run (h : s.Settled files d mid) (hroot : s.root ≠ "")
    (hplain : ∀ action ∈ actions, action.IsPlain) (hrun : s.Prepares actions mid e) :
    s.Settled (actions.foldl Written.after files) d e := by
  induction actions generalizing mid files with
  | nil => exact prepares_nil.mp hrun ▸ h
  | cons action actions ih =>
    obtain ⟨next, hstep, hrun⟩ := prepares_cons.mp hrun
    obtain ⟨haction, hplain⟩ := List.forall_mem_cons.mp hplain
    exact ih (h.step hroot haction hstep) hplain hrun

theorem Holds.isolated {top : Location} (h : s.Holds files d e top) :
    Disk.Isolated s.root files d e where
  found rel hrel := by
    rw [Disk.found, h.root]
    exact h.found rel hrel
  kept loc hloc := by
    simp only [Disk.rootAt, h.root] at hloc
    cases hold : d.directory s.root with
    | error fault =>
      simp only [hold] at hloc
      have hkept := h.kept loc (by simp [hold]) (hloc top rfl)
      exact hkept.imp id fun ⟨hnone, hdir, habove⟩ => ⟨hnone, hdir, top, h.root, habove⟩
    | ok old =>
      simp only [hold] at hloc
      have hout : ¬ old.isBelow loc = true := hloc old rfl
      have hdown : ¬ top.isBelow loc = true := by
        intro hbelow
        obtain ⟨rel, hrel, rfl⟩ := Location.isBelow_iff.mp hbelow
        obtain ⟨more, rfl⟩ := h.inside old hold
        exact hout (Location.isBelow_iff.mpr ⟨more ++ rel, by simp [hrel], List.append_assoc _ _ _⟩)
      have hkept := h.kept loc (by simpa [hold] using hout) hdown
      exact hkept.imp id fun ⟨hnone, hdir, habove⟩ => ⟨hnone, hdir, top, h.root, habove⟩

theorem Missing.isolated (h : s.Missing d e) : Disk.Isolated s.root [] d e where
  found rel _ := by
    unfold Disk.found
    split
    · rename_i top hroot
      exact absurd hroot (h.missing top)
    · rfl
  kept loc hloc := by
    refine .inl (h.kept loc fun top htop => hloc top ?_)
    simp [Disk.rootAt, htop]

theorem Settled.isolated (h : s.Settled files d e) : Disk.Isolated s.root files d e := by
  obtain ⟨top, hholds⟩ | ⟨rfl, hmissing⟩ := h
  · exact hholds.isolated
  · exact hmissing.isolated

/-- A run from a cleared root leaves there what it wrote last, whatever the disk was before. -/
theorem Prepares.isolated (h : s.Prepares (.clear :: actions) d e) (hroot : s.root ≠ "")
    (hplain : ∀ action ∈ actions, action.IsPlain) (hclosed : d.Closed) (hnamed : d.Named)
    (hrooted : d.Rooted s.root) : Disk.Isolated s.root (writtenBy actions) d e := by
  obtain ⟨mid, hclear, hrun⟩ := prepares_cons.mp h
  have hsettled : s.Settled [] d mid :=
    (holds_or_missing hclosed hnamed hrooted hclear).imp id fun hmissing => ⟨rfl, hmissing⟩
  exact (hsettled.run hroot hplain hrun).isolated

/-- Two runs of the same steps that start with clearing the root leave the same there, whatever the
two disks were before. -/
theorem prepares_isolates {d' e' : Disk} (hroot : s.root ≠ "")
    (hplain : ∀ action ∈ actions, action.IsPlain)
    (hclosed : d.Closed) (hnamed : d.Named) (hrooted : d.Rooted s.root)
    (hclosed' : d'.Closed) (hnamed' : d'.Named) (hrooted' : d'.Rooted s.root)
    (h : s.Prepares (.clear :: actions) d e) (h' : s.Prepares (.clear :: actions) d' e') :
    (∀ rel, rel ≠ [] → e.found s.root rel = e'.found s.root rel) ∧
      Disk.Isolated s.root (writtenBy actions) d e ∧
      Disk.Isolated s.root (writtenBy actions) d' e' := by
  have hfirst := h.isolated hroot hplain hclosed hnamed hrooted
  have hsecond := h'.isolated hroot hplain hclosed' hnamed' hrooted'
  exact ⟨fun rel hrel => (hfirst.found rel hrel).trans (hsecond.found rel hrel).symm, hfirst,
    hsecond⟩

/-- A disk that was used before, and one that was not. -/
def usedDisk : Disk where
  home := ["suite"]
  items := [(["suite"], .dir), (["suite", "kept"], .file "old".toUTF8),
    (["suite", "storage"], .dir), (["suite", "storage", "a"], .dir),
    (["suite", "storage", "a", "b"], .file "old".toUTF8),
    (["suite", "storage", "out"], .link "../kept")]

def freshDisk : Disk := .empty ["suite"]

def storage : FileService := ⟨"files", "storage"⟩

def twoFiles : List FilePreparation := [.write "a/b" "one", .clear, .write "c/d" "two"]

theorem prepares_isolates_used_fresh : ∃ e e',
    storage.Prepares (.clear :: twoFiles) usedDisk e ∧
      storage.Prepares (.clear :: twoFiles) freshDisk e' ∧
      (∀ rel, rel ≠ [] → e.found storage.root rel = e'.found storage.root rel) ∧
      Disk.Isolated storage.root (writtenBy twoFiles) usedDisk e ∧
      Disk.Isolated storage.root (writtenBy twoFiles) freshDisk e' := by
  have hdown : ".." ∉ Path.steps storage.root := by decide
  have hused : storage.Prepares (.clear :: twoFiles) usedDisk _ :=
    prepares_of_isOk (by decide +kernel)
  have hfresh : storage.Prepares (.clear :: twoFiles) freshDisk _ :=
    prepares_of_isOk (by decide +kernel)
  exact ⟨_, _, hused, hfresh, prepares_isolates (by decide) (by decide)
    (Disk.closed_of_forall (by decide)) (by decide +kernel) (usedDisk.rooted_of_not_mem hdown)
    (Disk.closed_of_forall (by decide)) (by decide +kernel) (freshDisk.rooted_of_not_mem hdown)
    hused hfresh⟩

/-- A file that no preparing wrote, and a directory. -/
def staleDisk : Disk where
  home := ["suite"]
  items := [(["suite"], .dir), (["suite", "stale"], .file "old".toUTF8)]

def nestedDisk : Disk where
  home := ["suite"]
  items := [(["suite"], .dir), (["suite", "x"], .dir)]

def oneFile : List FilePreparation := [.write "f" "new"]

/-- A root that leads upwards out of what is missing is not cleared before it is made. One that
leads out of what is cleared has that made again. The empty root is nowhere, and not cleared, while
files are written to the home directory. -/
theorem exists_prepares_not_isolated : staleDisk.Closed ∧ nestedDisk.Closed ∧
    staleDisk.Named ∧ nestedDisk.Named ∧
    (∀ action ∈ oneFile, action.IsPlain) ∧
    (∃ e, FileService.Prepares ⟨"files", "x/.."⟩ (.clear :: oneFile) staleDisk e ∧
      ¬ Disk.Isolated "x/.." (writtenBy oneFile) staleDisk e) ∧
    (∃ e, FileService.Prepares ⟨"files", "x/.."⟩ (.clear :: oneFile) nestedDisk e ∧
      ¬ Disk.Isolated "x/.." (writtenBy oneFile) nestedDisk e) ∧
    ∃ e, FileService.Prepares ⟨"files", ""⟩ (.clear :: oneFile) staleDisk e ∧
      ¬ Disk.Isolated "" (writtenBy oneFile) staleDisk e := by
  refine ⟨Disk.closed_of_forall (by decide), Disk.closed_of_forall (by decide),
    by decide +kernel, by decide +kernel, by decide,
    ⟨_, prepares_of_isOk (by decide +kernel), fun h => ?_⟩,
    ⟨_, prepares_of_isOk (by decide +kernel), fun h => ?_⟩,
    _, prepares_of_isOk (by decide +kernel), fun h => ?_⟩
  · have hfound := congrArg Option.isSome (h.found ["stale"] (by simp))
    revert hfound
    decide +kernel
  · have hfound := congrArg Option.isSome (h.found ["x"] (by simp))
    revert hfound
    decide +kernel
  · obtain hkept | ⟨-, -, top, htop, -⟩ := h.kept ["suite", "f"] (by decide +kernel)
    · have hfile := congrArg Option.isSome hkept
      revert hfile
      decide +kernel
    · exact (Disk.directory_eq_ok.mp htop).1.ne_empty rfl

end FileService

end CaseSuite
