import CaseSuite.Proofs.Disk.Operations
/-!
Making directories adds a chain of them: from the last directory that was there, down to the one
that is asked for.
-/
set_option autoImplicit false

namespace CaseSuite.Disk

variable {d d' e : Disk} {path : String}

/-- A disk with new directories from a base on, one below the other, and nothing else new. -/
structure Grown (d : Disk) (base rel : Location) (e : Disk) : Prop where
  home : e.home = d.home
  proper : ∀ name ∈ rel, Path.Proper name
  dirs : ∀ part, part ≠ [] → part <+: rel →
    d.get? (base ++ part) = none ∧ e.get? (base ++ part) = some .dir
  kept : ∀ loc, (∀ part, part ≠ [] → part <+: rel → loc ≠ base ++ part) → e.get? loc = d.get? loc

namespace Grown

variable {base rel : Location}

theorem refl (d : Disk) (base : Location) : d.Grown base [] d where
  home := rfl
  proper := by simp
  dirs part hne hpart := absurd (List.prefix_nil.mp hpart) hne
  kept _ _ := rfl

theorem get?_of_some (h : d.Grown base rel e) {loc : Location} {item : Item}
    (hitem : d.get? loc = some item) : e.get? loc = some item := by
  rw [h.kept, hitem]
  rintro part hne hpart rfl
  simp [(h.dirs part hne hpart).1] at hitem

theorem keeps (h : d.Grown base rel e) : d.Keeps e := fun _ _ hitem _ => h.get?_of_some hitem

theorem get?_eq_or (h : d.Grown base rel e) (loc : Location) : e.get? loc = d.get? loc ∨
    ∃ part, part ≠ [] ∧ part <+: rel ∧ loc = base ++ part ∧
      d.get? loc = none ∧ e.get? loc = some .dir := by
  by_cases hnew : ∃ part, part ≠ [] ∧ part <+: rel ∧ loc = base ++ part
  · obtain ⟨part, hne, hpart, rfl⟩ := hnew
    exact .inr ⟨part, hne, hpart, rfl, h.dirs part hne hpart⟩
  · exact .inl (h.kept loc fun part hne hpart heq => hnew ⟨part, hne, hpart, heq⟩)

theorem concat (h : d.Grown base rel e) {name : String} (hname : Path.Proper name)
    (hfree : e.get? (base ++ rel ++ [name]) = none) :
    d.Grown base (rel ++ [name]) (e.put (base ++ rel ++ [name]) .dir) := by
  have hloc : base ++ rel ++ [name] ≠ [] := by simp
  have hfresh : d.get? (base ++ rel ++ [name]) = none := by
    by_contra hitem
    obtain ⟨item, hitem⟩ := Option.ne_none_iff_exists'.mp hitem
    rw [h.get?_of_some hitem] at hfree
    contradiction
  refine ⟨h.home, ?_, fun part hne hpart => ?_, fun loc hloc' => ?_⟩
  · simpa [or_imp, forall_and] using ⟨h.proper, hname⟩
  · rw [get?_put _ hloc]
    obtain rfl | hpart := List.prefix_concat_iff.mp hpart
    · rw [← List.append_assoc]
      exact ⟨hfresh, if_pos rfl⟩
    · obtain ⟨hnone, hdir⟩ := h.dirs part hne hpart
      refine ⟨hnone, ?_⟩
      split
      · rfl
      · exact hdir
  · rw [get?_put _ hloc, if_neg, h.kept loc fun part hne hpart => ?_]
    · exact hloc' part hne (hpart.trans (List.prefix_append _ _))
    · rw [List.append_assoc]
      exact hloc' (rel ++ [name]) (by simp) List.prefix_rfl

theorem leads (h : d.Grown base rel e) {part : Location} (hpart : part <+: rel) :
    e.Leads 0 base part (base ++ part) :=
  .of_dirs (fun name hname => h.proper name (hpart.subset hname))
    fun part' hne hpart' => (h.dirs part' hne (hpart'.trans hpart)).2

theorem leads_eraseBelow {more : Location} (h : d.Grown base (rel ++ more) e) :
    (e.eraseBelow (base ++ rel)).Leads 0 base rel (base ++ rel) := by
  refine .of_dirs (fun name hname => h.proper name (by simp [hname])) fun part hne hpart => ?_
  rw [get?_eraseBelow, if_neg]
  · exact (h.dirs part hne (hpart.trans (List.prefix_append _ _))).2
  · intro hbelow
    obtain ⟨below, hne', heq⟩ := Location.isBelow_iff.mp hbelow
    obtain rfl : part = rel ++ below := by simpa using heq
    have hlength := hpart.length_le
    rw [List.length_append] at hlength
    exact hne' (List.eq_nil_of_length_eq_zero (by omega))

theorem get?_append_eq_or {more : Location} (h : d.Grown base (rel ++ more) e) (below : Location) :
    e.get? (base ++ rel ++ below) = d.get? (base ++ rel ++ below) ∨
      below <+: more ∧ e.get? (base ++ rel ++ below) = some .dir := by
  obtain hsame | ⟨part, -, hpart, heq, -, hdir⟩ := h.get?_eq_or (base ++ rel ++ below)
  · exact .inl hsame
  · obtain rfl : rel ++ below = part := by simpa using heq
    exact .inr ⟨(List.prefix_append_right_inj rel).mp hpart, hdir⟩

theorem get?_eq_or_above {more : Location} (h : d.Grown base (rel ++ more) e) {loc : Location}
    (hloc : ¬ (base ++ rel).isBelow loc) : e.get? loc = d.get? loc ∨
      d.get? loc = none ∧ e.get? loc = some .dir ∧ loc <+: base ++ rel := by
  obtain hsame | ⟨part, -, hpart, rfl, hnone, hdir⟩ := h.get?_eq_or loc
  · exact .inl hsame
  · refine .inr ⟨hnone, hdir, (List.prefix_append_right_inj base).mpr ?_⟩
    obtain hpart | ⟨below, rfl⟩ := List.prefix_or_prefix_of_prefix hpart (List.prefix_append _ _)
    · exact hpart
    · by_cases hbelow : below = []
      · simp [hbelow]
      · exact absurd (Location.isBelow_iff.mpr ⟨below, hbelow, by simp⟩) hloc

theorem of_ensureDir {k : Nat} {init : List String} {name : String} (h : d.Grown base rel d')
    (hleads : d'.Leads k (start d.home path) init (base ++ rel))
    (hnames : Path.names path = init ++ [name]) (hup : name ≠ "..")
    (hnone : d.get? (base ++ rel ++ [name]) = none)
    (hensure : outcome (Op.ensureDir path) d' = (.ok (), e)) : d.Grown base (rel ++ [name]) e := by
  rw [← h.home] at hleads
  obtain ⟨loc, hvacant, rfl⟩ | ⟨-, hdir, rfl⟩ := Op.ensureDir_eq_ok.mp hensure
  · obtain ⟨init', last, j, base', hinit, hproper, -, hj, rfl, hfree⟩ := exists_of_vacant hvacant
    obtain ⟨rfl, hlast⟩ := List.append_inj' (hinit.symm.trans hnames) rfl
    obtain rfl := List.singleton_inj.mp hlast
    obtain ⟨rfl, -⟩ := hj.unique hleads
    exact h.concat hproper hfree
  · -- a directory of that name would have to be new as well, but it is one too many
    obtain ⟨loc, hloc⟩ := isDir_iff.mp hdir
    obtain ⟨-, j, -, hj⟩ := directory_eq_ok.mp hloc
    rw [hnames] at hj
    obtain ⟨_, _, base', -, hi, hlast⟩ := hj.exists_of_append
    obtain ⟨rfl, -⟩ := hi.unique hleads
    have hmem : name ∈ Path.names path := by simp [hnames]
    have hdot : name ≠ "." := Path.ne_dot_of_mem_names hmem
    obtain hsame | ⟨part, -, hpart, heq, -⟩ := h.get?_eq_or (base ++ rel ++ [name])
    · exact absurd (hsame.trans hnone) (hlast.get?_ne_none hdot hup)
    · obtain rfl : rel ++ [name] = part := by simpa using heq
      exact absurd hpart.length_le (by simp)

end Grown

/-- Disks where directories of a path were made: some of the names on it, past the first ones, lead
to a directory that was there, and from that one on they are new. -/
def GrownAlong (d e : Disk) (path : String) (up down : List String) : Prop :=
  ∃ k mid rel base, k ≤ linkLimit ∧ down = mid ++ rel ∧
    d.Leads k (start d.home path) (up ++ mid) base ∧ d.Grown base rel e

variable {n : Nat} {up down : List String} {top : Location}

theorem grownAlong_of_ensureDir (h : outcome (Op.ensureDir path) d = (.ok (), e))
    (hnames : Path.names path = up ++ down) (htop : d.Leads n (start d.home path) up top) :
    d.GrownAlong e path up down := by
  obtain ⟨loc, hvacant, rfl⟩ | ⟨-, hdir, rfl⟩ := Op.ensureDir_eq_ok.mp h
  · obtain ⟨init, name, k, base, hinit, hproper, hk, hleads, rfl, hfree⟩ := exists_of_vacant hvacant
    obtain rfl | ⟨mid, last, rfl⟩ := List.eq_nil_or_concat down
    · -- the part that leads to a directory would end where there is room
      rw [List.append_nil] at hnames
      rw [← hnames, hinit] at htop
      obtain ⟨_, _, mid, -, hmid, hlast⟩ := htop.exists_of_append
      obtain ⟨rfl, -⟩ := hmid.unique hleads
      exact absurd hfree (hlast.get?_ne_none hproper.ne_dot hproper.ne_up)
    · rw [List.concat_eq_append, ← List.append_assoc, hinit] at hnames
      obtain ⟨rfl, hlast⟩ := List.append_inj' hnames rfl
      obtain rfl := List.singleton_inj.mp hlast
      refine ⟨k, mid, [name], base, hk, List.concat_eq_append, hleads, ?_⟩
      simpa using (Grown.refl d base).concat hproper (by simpa using hfree)
  · obtain ⟨loc, hloc⟩ := isDir_iff.mp hdir
    obtain ⟨-, k, hk, hleads⟩ := directory_eq_ok.mp hloc
    exact ⟨k, down, [], loc, hk, by simp, hnames ▸ hleads, .refl e loc⟩

/-- Directories that are made go on from what leads somewhere, if nothing is below where nothing is.
The path consists of a part that leads to a directory, and of names down from there. -/
theorem grownAlong_of_makeDirs {limit : Nat}
    (h : outcome (Op.makeDirsOf (Path.upward limit path)) d = (.ok (), e))
    (htidy : Path.Tidy path) (hnames : Path.names path = up ++ down) (hdown : ".." ∉ down)
    (hn : n ≤ linkLimit) (htop : d.Leads n (start d.home path) up top)
    (hclosed : ∀ part k base, part <+: down → d.Leads k top part base →
      ∀ name, d.get? (base ++ [name]) = none → ∀ rel, d.get? (base ++ [name] ++ rel) = none) :
    d.GrownAlong e path up down := by
  induction limit generalizing path down e with
  | zero => simp [Path.upward, Op.makeDirsOf] at h
  | succ limit ih =>
    rw [Path.upward] at h
    obtain ⟨rfl, rfl⟩ | hensure | ⟨hne, hvacant, d', habove, hensure⟩ := Op.makeDirsOf_cons h
    · obtain ⟨rfl, rfl⟩ := List.append_eq_nil_iff.mp (hnames.symm.trans (by decide))
      exact ⟨n, [], [], top, hn, rfl, htop, .refl e top⟩
    · exact grownAlong_of_ensureDir hensure hnames htop
    · -- what is above the path was missing, so the path is not the part that leads somewhere
      obtain rfl | ⟨init, name, rfl⟩ := List.eq_nil_or_concat down
      · rw [List.append_nil] at hnames
        exact absurd hvacant (vacant_ne_notFound_of_leads hne htidy hn (hnames ▸ htop))
      rw [List.concat_eq_append] at hnames hdown hclosed ⊢
      rw [← List.append_assoc] at hnames
      obtain ⟨above, hparent, hnames', habsolute, htidy'⟩ := Path.exists_parent? hnames
      have hstart : start d.home above = start d.home path := by rw [start, start, habsolute]
      rw [hparent] at habove
      obtain ⟨k, mid, rel, base, hk, rfl, hleads, hgrown⟩ := ih habove htidy' hnames'
        (fun hmem => hdown (List.mem_append_left _ hmem)) (hstart ▸ htop)
        fun part k base hpart => hclosed part k base (hpart.trans (List.prefix_append _ _))
      rw [hstart] at hleads
      have hrel : rel ≠ [] := by
        rintro rfl
        rw [List.append_nil] at hnames
        exact vacant_ne_notFound hne htidy hnames hk hleads hvacant
      obtain ⟨first, more, rfl⟩ := List.exists_cons_of_ne_nil hrel
      have hmid : d.Leads (k - n) top mid base := by
        obtain ⟨i, j, mid', rfl, hi, hj⟩ := hleads.exists_of_append
        obtain ⟨rfl, rfl⟩ := htop.unique hi
        simpa using hj
      have hnone : d.get? (base ++ (first :: more) ++ [name]) = none := by
        have hfirst := (hgrown.dirs [first] (by simp) (by simp)).1
        simpa using hclosed mid _ base (by simp) hmid first hfirst (more ++ [name])
      have hend : d'.Leads k (start d.home path) (up ++ (mid ++ first :: more))
          (base ++ (first :: more)) := by
        simpa using (hleads.mono hgrown.keeps).append (hgrown.leads List.prefix_rfl)
      have hup : name ≠ ".." := fun heq => hdown (by simp [heq])
      exact ⟨k, mid, (first :: more) ++ [name], base, hk, by simp, hleads,
        hgrown.of_ensureDir hend hnames hup hnone hensure⟩

end CaseSuite.Disk
