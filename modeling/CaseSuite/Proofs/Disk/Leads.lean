import CaseSuite.Disk.Storage
import CaseSuite.Proofs.Disk.Items
import CaseSuite.Proofs.Disk.Path
/-!
Where steps lead on a disk, apart from how they are followed: from directory to directory, upwards,
and through links. Following steps comes to the directory where they lead.
-/
set_option autoImplicit false

namespace CaseSuite

/-- A name that an item can have. -/
structure Path.Proper (name : String) : Prop where
  ne_dot : name ≠ "."
  ne_up : name ≠ ".."
  size_le : name.utf8ByteSize ≤ Disk.nameLimit

/-- A path that is not refused for its text alone. -/
structure Path.Valid (path : String) : Prop where
  noNul : Char.ofNat 0 ∉ path.toList
  ne_empty : path ≠ ""
  size_lt : path.utf8ByteSize < Disk.pathLimit

theorem Path.Valid.of_join {root name : String} (h : Path.Valid (join root name))
    (hroot : root ≠ "") (hname : isAbsolute name = false) : Path.Valid root := by
  obtain ⟨rest, hrest⟩ := exists_join_eq_append root name hname
  rw [hrest] at h
  refine ⟨fun hnul => h.noNul (by simp [hnul]), hroot, ?_⟩
  have hsize := h.size_lt
  rw [String.utf8ByteSize_append] at hsize
  omega

namespace Disk

variable {d e : Disk}

/-- One step from a directory to another one, with more steps to go where it was a link. -/
inductive Step (d : Disk) (here : Location) (name : String) : Nat → Location → List String → Prop
  | dot : name = "." → Step d here name 0 here []
  | up : name = ".." → Step d here name 0 here.dropLast []
  | dir : Path.Proper name → d.get? (here ++ [name]) = some .dir →
      Step d here name 0 (here ++ [name]) []
  | link {target : String} : Path.Proper name → d.get? (here ++ [name]) = some (.link target) →
      Step d here name 1 (start here target) (Path.steps target)

/-- Steps from a directory lead to a directory, through so many links. -/
inductive Leads (d : Disk) : Nat → Location → List String → Location → Prop
  | nil (here : Location) : Leads d 0 here [] here
  | cons {n links : Nat} {here next loc : Location} {name : String} {more rest : List String} :
      Step d here name links next more → Leads d n next (more ++ rest) loc →
      Leads d (n + links) here (name :: rest) loc

section

variable {n k : Nat} {here next next' mid loc loc' : Location} {name : String}
  {steps rest more more' : List String}

theorem Step.unique (h : d.Step here name n next more) (h' : d.Step here name k next' more') :
    n = k ∧ next = next' ∧ more = more' := by
  cases h with
  | dot hname =>
    cases h' with
    | dot => exact ⟨rfl, rfl, rfl⟩
    | up hname' => simp [hname] at hname'
    | dir hname' => exact absurd hname hname'.ne_dot
    | link hname' => exact absurd hname hname'.ne_dot
  | up hname =>
    cases h' with
    | dot hname' => simp [hname] at hname'
    | up => exact ⟨rfl, rfl, rfl⟩
    | dir hname' => exact absurd hname hname'.ne_up
    | link hname' => exact absurd hname hname'.ne_up
  | dir hname hitem =>
    cases h' with
    | dot hname' => exact absurd hname' hname.ne_dot
    | up hname' => exact absurd hname' hname.ne_up
    | dir => exact ⟨rfl, rfl, rfl⟩
    | link _ hitem' => simp [hitem] at hitem'
  | link hname hitem =>
    cases h' with
    | dot hname' => exact absurd hname' hname.ne_dot
    | up hname' => exact absurd hname' hname.ne_up
    | dir _ hitem' => simp [hitem] at hitem'
    | link _ hitem' =>
      obtain rfl : _ = _ := by simpa [hitem] using hitem'
      exact ⟨rfl, rfl, rfl⟩

theorem Step.mono (hkept : d.Keeps e) (h : d.Step here name n next more) :
    e.Step here name n next more := by
  cases h with
  | dot hname => exact .dot hname
  | up hname => exact .up hname
  | dir hname hitem => exact .dir hname (hkept _ _ hitem (by simp))
  | link hname hitem => exact .link hname (hkept _ _ hitem (by simp))

namespace Leads

theorem mono (hkept : d.Keeps e) (h : d.Leads n here steps loc) : e.Leads n here steps loc := by
  induction h with
  | nil here => exact .nil here
  | cons hstep _ ih => exact .cons (hstep.mono hkept) ih

theorem append (h : d.Leads n here steps mid) (h' : d.Leads k mid rest loc) :
    d.Leads (n + k) here (steps ++ rest) loc := by
  induction h with
  | nil => simpa using h'
  | cons hstep _ ih =>
    rw [Nat.add_right_comm]
    exact .cons hstep (List.append_assoc _ _ _ ▸ ih h')

theorem exists_of_append (h : d.Leads n here (steps ++ rest) loc) :
    ∃ i k mid, n = i + k ∧ d.Leads i here steps mid ∧ d.Leads k mid rest loc := by
  generalize hall : steps ++ rest = all at h
  induction h generalizing steps with
  | nil here =>
    obtain ⟨rfl, rfl⟩ := List.append_eq_nil_iff.mp hall
    exact ⟨0, 0, here, rfl, .nil here, .nil here⟩
  | @cons n links here _ _ name more _ hstep h ih =>
    cases steps with
    | nil =>
      obtain rfl : rest = _ := hall
      exact ⟨0, n + links, here, by simp, .nil here, .cons hstep h⟩
    | cons name steps =>
      obtain ⟨rfl, rfl⟩ := List.cons.inj hall
      obtain ⟨i, k, mid, rfl, hi, hk⟩ := ih (List.append_assoc _ _ _)
      exact ⟨i + links, k, mid, by omega, .cons hstep hi, hk⟩

theorem unique (h : d.Leads n here steps loc) (h' : d.Leads k here steps loc') :
    loc = loc' ∧ n = k := by
  induction h generalizing k with
  | nil =>
    cases h'
    exact ⟨rfl, rfl⟩
  | cons hstep _ ih =>
    cases h' with
    | cons hstep' h' =>
      obtain ⟨rfl, rfl, rfl⟩ := hstep.unique hstep'
      obtain ⟨hloc, rfl⟩ := ih h'
      exact ⟨hloc, rfl⟩

theorem of_dots (h : d.Leads n here steps loc) {dots : List String}
    (hdots : ∀ dot ∈ dots, dot = ".") : d.Leads n here (dots ++ steps) loc := by
  induction dots with
  | nil => exact h
  | cons dot dots ih =>
    obtain ⟨hdot, hdots⟩ := List.forall_mem_cons.mp hdots
    exact .cons (.dot hdot) (ih hdots)

theorem of_filter_eq (h : d.Leads n here steps loc)
    (heq : rest.filter (· != ".") = steps.filter (· != ".")) : d.Leads n here rest loc := by
  induction h generalizing rest with
  | nil here =>
    have hdots : ∀ dot ∈ rest, dot = "." := by simpa using heq
    exact List.append_nil rest ▸ of_dots (.nil here) hdots
  | @cons n links here next loc name more steps hstep h ih =>
    by_cases hname : name = "."
    · obtain ⟨rfl, rfl, rfl⟩ := hstep.unique (.dot hname)
      exact ih (by simpa [hname] using heq)
    · rw [List.filter_cons_of_pos (by simpa using hname), List.filter_eq_cons_iff] at heq
      obtain ⟨dots, after, rfl, hdots, -, hafter⟩ := heq
      exact of_dots (.cons hstep (ih (by simp [hafter]))) (by simpa using hdots)

theorem get?_ne_none (h : d.Leads n here (name :: rest) loc) (hdot : name ≠ ".")
    (hup : name ≠ "..") : d.get? (here ++ [name]) ≠ none := by
  cases h with
  | cons hstep _ =>
    cases hstep with
    | dot hname => exact absurd hname hdot
    | up hname => exact absurd hname hup
    | dir _ hitem => simp [hitem]
    | link _ hitem => simp [hitem]

theorem of_dirs {base rel : Location} (hproper : ∀ name ∈ rel, Path.Proper name)
    (hdirs : ∀ part, part ≠ [] → part <+: rel → d.get? (base ++ part) = some .dir) :
    d.Leads 0 base rel (base ++ rel) := by
  induction rel generalizing base with
  | nil => simpa using Leads.nil base
  | cons name rel ih =>
    obtain ⟨hname, hproper⟩ := List.forall_mem_cons.mp hproper
    have hdir := hdirs [name] (by simp) (by simp)
    refine .cons (.dir hname hdir) ?_
    have hrest : d.Leads 0 (base ++ [name]) rel (base ++ [name] ++ rel) :=
      ih hproper fun part _ hpart => by
        simpa using hdirs (name :: part) (by simp) (by simpa using hpart)
    simpa using hrest

/-- Below a directory without links, names lead down from one directory to the next. -/
theorem down {top : Location} (h : d.Leads n top steps loc) :
    (∀ rel target, rel ≠ [] → d.get? (top ++ rel) ≠ some (.link target)) →
    (∀ name ∈ steps, name ≠ "." ∧ name ≠ "..") →
    loc = top ++ steps ∧ ∀ part, part ≠ [] → part <+: steps → d.get? (top ++ part) = some .dir := by
  induction h with
  | nil here =>
    intro _ _
    refine ⟨by simp, fun part hne hpart => absurd (List.prefix_nil.mp hpart) hne⟩
  | @cons n links here next loc name more steps hstep _ ih =>
    intro hlinks hnames
    obtain ⟨⟨hdot, hup⟩, hnames⟩ := List.forall_mem_cons.mp hnames
    cases hstep with
    | dot hname => exact absurd hname hdot
    | up hname => exact absurd hname hup
    | link _ hitem => exact absurd hitem (hlinks [name] _ (by simp))
    | dir _ hitem =>
      obtain ⟨rfl, hdirs⟩ := ih (fun rel target _ => by simpa using hlinks (name :: rel) target)
        hnames
      refine ⟨by simp, fun part hne hpart => ?_⟩
      obtain ⟨first, part, rfl⟩ := List.exists_cons_of_ne_nil hne
      obtain ⟨rfl, hrest⟩ := List.cons_prefix_cons.mp hpart
      by_cases hnil : part = []
      · rwa [hnil]
      · simpa using hdirs part hnil hrest

theorem names_iff {path : String} :
    d.Leads n here (Path.names path) loc ↔ d.Leads n here (Path.steps path) loc :=
  ⟨fun h => h.of_filter_eq (by simp [Path.names]), fun h => h.of_filter_eq (by simp [Path.names])⟩

end Leads

end

section

variable {links : Bool} {limit n c : Nat} {here next mid loc : Location} {name path : String}
  {init rest more : List String} {spot : Spot}

/-- What the last name of a path can stand for, other than a directory. -/
inductive Ends (d : Disk) (links : Bool) (loc : Location) : Spot → Prop
  | free : d.get? loc = none → Ends d links loc (.free loc)
  | file {bytes : ByteArray} : d.get? loc = some (.file bytes) →
      Ends d links loc (.taken loc (.file bytes))
  | link {target : String} : links = false → d.get? loc = some (.link target) →
      Ends d links loc (.taken loc (.link target))

theorem follow_step (h : d.Step here name c next more) (hc : c ≤ limit)
    (hrest : c = 0 ∨ rest ≠ [] ∨ links = true) :
    d.follow links limit here (name :: rest) = d.follow links (limit - c) next (more ++ rest) := by
  cases h with
  | dot hname => cases limit <;> simp [follow, stepsWith, hname]
  | up hname => cases limit <;> simp [follow, stepsWith, hname]
  | dir hname hitem =>
    have hsize := hname.size_le
    cases limit <;> simp [follow, stepsWith, hname.ne_dot, hname.ne_up, hsize.not_gt, hitem]
  | link hname hitem =>
    have hsize := hname.size_le
    obtain ⟨limit, rfl⟩ : ∃ k, limit = k + 1 := ⟨limit - 1, by omega⟩
    have hgo : (rest.isEmpty && !links) = false := by
      obtain hc | hrest | rfl := hrest
      · contradiction
      · simp [hrest]
      · simp
    simp [follow, stepsWith, hname.ne_dot, hname.ne_up, hsize.not_gt, hitem, hgo]

theorem follow_cons_ok (h : d.follow links limit here (name :: rest) = .ok spot) :
    (∃ c next more, d.Step here name c next more ∧ c ≤ limit ∧
      (c = 0 ∨ rest ≠ [] ∨ links = true) ∧
      d.follow links (limit - c) next (more ++ rest) = .ok spot) ∨
    rest = [] ∧ Path.Proper name ∧ d.Ends links (here ++ [name]) spot := by
  have hgo {c : Nat} {next : Location} {more : List String} (hstep : d.Step here name c next more)
      (hc : c ≤ limit) (hrest : c = 0 ∨ rest ≠ [] ∨ links = true) :
      ∃ c next more, d.Step here name c next more ∧ c ≤ limit ∧
        (c = 0 ∨ rest ≠ [] ∨ links = true) ∧
        d.follow links (limit - c) next (more ++ rest) = .ok spot :=
    ⟨c, next, more, hstep, hc, hrest, follow_step hstep hc hrest ▸ h⟩
  by_cases hdot : name = "."
  · exact .inl (hgo (.dot hdot) (Nat.zero_le _) (.inl rfl))
  by_cases hup : name = ".."
  · exact .inl (hgo (.up hup) (Nat.zero_le _) (.inl rfl))
  by_cases hsize : Disk.nameLimit < name.utf8ByteSize
  · cases limit <;> simp [follow, stepsWith, hdot, hup, hsize] at h
  have hname : Path.Proper name := ⟨hdot, hup, by omega⟩
  cases hitem : d.get? (here ++ [name]) with
  | none =>
    by_cases hrest : rest = []
    · have hspot : Spot.free (here ++ [name]) = spot := by
        cases limit <;> simpa [follow, stepsWith, hdot, hup, hsize, hitem, hrest] using h
      exact .inr ⟨hrest, hname, hspot ▸ .free hitem⟩
    · cases limit <;> simp [follow, stepsWith, hdot, hup, hsize, hitem, hrest] at h
  | some item =>
    cases item with
    | dir => exact .inl (hgo (.dir hname hitem) (Nat.zero_le _) (.inl rfl))
    | file bytes =>
      by_cases hrest : rest = []
      · have hspot : Spot.taken (here ++ [name]) (.file bytes) = spot := by
          cases limit <;> simpa [follow, stepsWith, hdot, hup, hsize, hitem, hrest] using h
        exact .inr ⟨hrest, hname, hspot ▸ .file hitem⟩
      · cases limit <;> simp [follow, stepsWith, hdot, hup, hsize, hitem, hrest] at h
    | link target =>
      by_cases hlast : rest = [] ∧ links = false
      · have hspot : Spot.taken (here ++ [name]) (.link target) = spot := by
          cases limit <;>
            simpa [follow, stepsWith, hdot, hup, hsize, hitem, hlast.1, hlast.2] using h
        exact .inr ⟨hlast.1, hname, hspot ▸ .link hlast.2 hitem⟩
      · have hrest : rest ≠ [] ∨ links = true := by
          rw [not_and_or] at hlast
          exact hlast.imp id fun hlinks => by simpa using hlinks
        cases limit with
        | zero =>
          have hfollow : (rest.isEmpty && !links) = false := by
            obtain hrest | rfl := hrest <;> simp [*]
          simp [follow, stepsWith, hdot, hup, hsize, hitem, hfollow] at h
        | succ limit => exact .inl (hgo (.link hname hitem) (by omega) (.inr hrest))

theorem Leads.follow_eq (h : d.Leads n here init mid) (hn : n ≤ limit)
    (hrest : rest ≠ [] ∨ links = true) :
    d.follow links limit here (init ++ rest) = d.follow links (limit - n) mid rest := by
  induction h generalizing limit with
  | nil => rfl
  | @cons n c here next _ name more steps hstep _ ih =>
    have hsteps : steps ++ rest ≠ [] ∨ links = true := hrest.imp (by simp_all) id
    have hnext := @ih (limit - c) (by omega)
    rw [List.cons_append, follow_step hstep (by omega) (.inr hsteps), ← List.append_assoc, hnext,
      Nat.sub_sub, Nat.add_comm]

theorem exists_leads_of_follow {limit : Nat} {here : Location} {init : List String}
    (h : d.follow links limit here (init ++ rest) = .ok spot)
    (hend : rest = [] → ∃ loc, spot = .taken loc .dir) :
    ∃ n mid, n ≤ limit ∧ d.Leads n here init mid ∧
      d.follow links (limit - n) mid rest = .ok spot := by
  cases init with
  | nil => exact ⟨0, here, Nat.zero_le _, .nil here, h⟩
  | cons name steps =>
    rw [List.cons_append] at h
    obtain ⟨c, next, more, hstep, hc, -, h⟩ | ⟨hnil, -, hends⟩ := follow_cons_ok h
    · rw [← List.append_assoc] at h
      obtain ⟨n, mid, hn, hleads, hspot⟩ := exists_leads_of_follow h hend
      refine ⟨n + c, mid, by omega, .cons hstep hleads, ?_⟩
      rwa [Nat.add_comm, ← Nat.sub_sub]
    · -- only names end a path that way, and never at a directory
      obtain ⟨rfl, rfl⟩ := List.append_eq_nil_iff.mp hnil
      obtain ⟨loc, rfl⟩ := hend rfl
      cases hends
termination_by (limit, init.length)
decreasing_by
  cases hstep with
  | dot => exact .right _ (by simp_all)
  | up => exact .right _ (by simp_all)
  | dir => exact .right _ (by simp_all)
  | link => exact .left _ _ (by omega)

end

section resolve

variable {links : Bool} {path : String} {loc : Location} {spot : Spot}

theorem resolve_of_valid (h : Path.Valid path) :
    d.resolve links path = d.follow links linkLimit (start d.home path) (Path.steps path) := by
  have hnul := h.noNul
  have hempty := h.ne_empty
  have hsize := h.size_lt
  rw [resolve, if_neg (by simpa using hnul), if_neg (by simpa using hempty), if_neg (by omega)]

theorem valid_of_resolve (h : d.resolve links path = .ok spot) : Path.Valid path := by
  unfold resolve at h
  split at h
  · simp at h
  split at h
  · simp at h
  split at h
  · simp at h
  · rename_i hnul hempty hsize
    exact ⟨by simpa using hnul, by simpa using hempty, by omega⟩

theorem follow_nil (limit : Nat) (here : Location) :
    d.follow links limit here [] = .ok (.taken here .dir) := by
  cases limit <;> rfl

theorem follow_dots {limit : Nat} {here : Location} {dots : List String}
    (hdots : ∀ dot ∈ dots, dot = ".") :
    d.follow links limit here dots = .ok (.taken here .dir) := by
  induction dots with
  | nil => exact follow_nil limit here
  | cons dot dots ih =>
    obtain ⟨hdot, hdots⟩ := List.forall_mem_cons.mp hdots
    rw [follow_step (.dot hdot) (Nat.zero_le _) (.inl rfl)]
    exact ih hdots

/-- One name on its own is never missing; at most nothing has that name yet. -/
theorem stepsWith_singleton_ne_notFound
    (again : Location → List String → Except Fault Spot) (here : Location) (name : String) :
    d.stepsWith again false here [name] ≠ .error .notFound := by
  simp only [stepsWith]
  split
  · simp
  split
  · simp
  split
  · simp
  cases d.get? (here ++ [name]) with
  | none => simp
  | some item => cases item <;> simp

theorem follow_singleton_ne_notFound (limit : Nat) (here : Location) (name : String) :
    d.follow false limit here [name] ≠ .error .notFound := by
  cases limit <;> exact stepsWith_singleton_ne_notFound _ here name

theorem follow_eq_dir {limit : Nat} {here : Location} {steps : List String} :
    d.follow true limit here steps = .ok (.taken loc .dir) ↔
      ∃ n ≤ limit, d.Leads n here steps loc := by
  constructor
  · intro h
    rw [← List.append_nil steps] at h
    obtain ⟨n, mid, hn, hleads, hend⟩ := exists_leads_of_follow h fun _ => ⟨loc, rfl⟩
    rw [follow_nil] at hend
    obtain ⟨rfl, -⟩ := Spot.taken.inj (Except.ok.inj hend)
    exact ⟨n, hn, hleads⟩
  · rintro ⟨n, hn, hleads⟩
    rw [← List.append_nil steps, hleads.follow_eq hn (.inr rfl), follow_nil]

theorem directory_eq_ok_iff_resolve :
    d.directory path = .ok loc ↔ d.resolve true path = .ok (.taken loc .dir) := by
  unfold directory
  split <;> simp_all

theorem directory_eq_ok : d.directory path = .ok loc ↔
    Path.Valid path ∧ ∃ n ≤ linkLimit, d.Leads n (start d.home path) (Path.names path) loc := by
  simp only [directory_eq_ok_iff_resolve, Leads.names_iff, ← follow_eq_dir]
  constructor
  · intro h
    have hvalid := valid_of_resolve h
    exact ⟨hvalid, resolve_of_valid hvalid ▸ h⟩
  · rintro ⟨hvalid, h⟩
    rw [resolve_of_valid hvalid, h]

/-- A directory is found where it was if all directories and links are still there. -/
theorem directory_mono (hkept : d.Keeps e) (hhome : e.home = d.home)
    (h : d.directory path = .ok loc) : e.directory path = .ok loc := by
  obtain ⟨hvalid, n, hn, hleads⟩ := directory_eq_ok.mp h
  exact directory_eq_ok.mpr ⟨hvalid, n, hn, hhome ▸ hleads.mono hkept⟩

theorem isDir_iff : d.isDir path = true ↔ ∃ loc, d.directory path = .ok loc := by
  simp only [directory_eq_ok_iff_resolve, isDir, item]
  cases d.resolve true path with
  | error _ => simp
  | ok spot =>
    cases spot with
    | free _ => simp
    | taken _ item => cases item <;> simp

end resolve

end Disk

end CaseSuite
