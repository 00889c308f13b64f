import CaseSuite.Proofs.Disk.Operations
/-!
Disks without links. A path leads where its names say one after the other, be it found there or not,
and this does not change while files and directories are made and removed.
-/
set_option autoImplicit false

namespace CaseSuite

section locationOf

variable (here : Location) (name : String) (steps rest : List String)

theorem locationOf_nil : locationOf here [] = here := rfl

theorem locationOf_append :
    locationOf here (steps ++ rest) = locationOf (locationOf here steps) rest :=
  List.foldl_append

theorem locationOf_up : locationOf here (".." :: steps) = locationOf here.dropLast steps := rfl

variable {name} in
theorem locationOf_name (hdot : name ≠ ".") (hup : name ≠ "..") :
    locationOf here (name :: steps) = locationOf (here ++ [name]) steps := by
  simp [locationOf, hdot, hup]

theorem locationOf_filter : locationOf here (steps.filter (· != ".")) = locationOf here steps := by
  induction steps generalizing here with
  | nil => rfl
  | cons name steps ih =>
    by_cases hdot : name = "."
    · subst hdot
      exact ih here
    · rw [List.filter_cons_of_pos (by simpa using hdot)]
      exact ih _

end locationOf

/-- Where a path leads from a directory if no links are on the way. -/
def Path.destination (here : Location) (path : String) : Location :=
  locationOf (Disk.start here path) (steps path)

theorem Path.destination_eq_names (here : Location) (path : String) :
    destination here path = locationOf (Disk.start here path) (names path) :=
  (locationOf_filter _ _).symm

/-- A path that is put after a root leads on from where the root leads, unless it is absolute. -/
theorem Path.destination_join (here : Location) (root name : String) :
    destination here (join root name) = destination (destination here root) name := by
  cases habsolute : isAbsolute name with
  | true =>
    have hjoin : join root name = name := by simp [join, habsolute]
    rw [hjoin, destination, destination, Disk.start, Disk.start, if_pos habsolute,
      if_pos habsolute]
  | false =>
    have hstart (base : Location) : Disk.start base name = base := by simp [Disk.start, habsolute]
    by_cases hroot : root = ""
    · subst hroot
      have hjoin : join "" name = name := by simp [join, habsolute]
      rw [hjoin, destination, destination, hstart, hstart]
      rfl
    · have hjoin : Disk.start here (join root name) = Disk.start here root := by
        rw [Disk.start, Disk.start, isAbsolute_join hroot habsolute]
      rw [destination_eq_names, destination_eq_names _ name, destination_eq_names _ root, hjoin,
        hstart, names_join hroot habsolute, locationOf_append]

/-! ### Names that lead below -/

namespace Path

/-- Steps from a place that is `depth` levels below another one: they never lead above that one, and
they end below it. -/
def inward : (depth : Nat) → List String → Bool
  | depth, [] => 0 < depth
  | depth, name :: steps =>
    if name == "." then inward depth steps
    else if name == ".." then
      match depth with
      | 0 => false
      | depth + 1 => inward depth steps
    else inward (depth + 1) steps

/-- A name that leads below whatever it is put after. -/
structure IsInward (name : String) : Prop where
  relative : isAbsolute name = false
  inward : inward 0 (steps name) = true

variable {top rel : Location} {steps : List String}

theorem isBelow_of_inward (h : inward rel.length steps = true) :
    top.isBelow (locationOf (top ++ rel) steps) = true := by
  induction steps generalizing rel with
  | nil =>
    have hne : rel ≠ [] := List.length_pos_iff.mp (by simpa [inward] using h)
    exact Location.isBelow_iff.mpr ⟨rel, hne, rfl⟩
  | cons name steps ih =>
    by_cases hdot : name = "."
    · subst hdot
      exact ih h
    by_cases hup : name = ".."
    · subst hup
      obtain rfl | ⟨init, last, rfl⟩ := List.eq_nil_or_concat' rel
      · simp [inward] at h
      · rw [locationOf_up, ← List.append_assoc, List.dropLast_concat]
        exact ih (by simpa [inward] using h)
    · rw [locationOf_name _ _ hdot hup, List.append_assoc]
      exact ih (by simpa [inward, hdot, hup] using h)

theorem not_mem_locationOf {here : Location} {name : String} (hhere : name ∉ here)
    (h : name ∉ steps) : name ∉ locationOf here steps := by
  induction steps generalizing here with
  | nil => exact hhere
  | cons step steps ih =>
    obtain ⟨hne, hsteps⟩ : name ≠ step ∧ name ∉ steps := by simpa using h
    by_cases hdot : step = "."
    · subst hdot
      exact ih hhere hsteps
    by_cases hup : step = ".."
    · subst hup
      exact ih (fun hmem => hhere (List.dropLast_subset _ hmem)) hsteps
    · rw [locationOf_name _ _ hdot hup]
      exact ih (by simp [hhere, hne]) hsteps

theorem inward_of_isBelow {root : String} (hroot : root ∉ rel) (hsteps : root ∉ steps)
    (h : Location.isBelow [root] (locationOf (root :: rel) steps) = true) :
    inward rel.length steps = true := by
  induction steps generalizing rel with
  | nil =>
    obtain ⟨rel', hne, heq⟩ := Location.isBelow_iff.mp h
    obtain rfl : rel = rel' := by simpa [locationOf_nil] using heq
    simpa [inward, List.length_pos_iff] using hne
  | cons name steps ih =>
    rw [List.mem_cons, not_or] at hsteps
    by_cases hdot : name = "."
    · subst hdot
      exact ih hroot hsteps.2 h
    by_cases hup : name = ".."
    · subst hup
      rw [locationOf_up] at h
      obtain rfl | ⟨init, last, rfl⟩ := List.eq_nil_or_concat' rel
      · -- the root is left, and no other name leads back to it
        obtain ⟨rel, -, heq⟩ := Location.isBelow_iff.mp h
        have hmem : root ∈ locationOf [] steps := heq ▸ List.mem_cons_self
        exact absurd hmem (not_mem_locationOf List.not_mem_nil hsteps.2)
      · rw [← List.cons_append, List.dropLast_concat] at h
        have hinit : root ∉ init := fun hmem => hroot (by simp [hmem])
        simpa [inward] using ih hinit hsteps.2 h
    · rw [locationOf_name _ _ hdot hup, List.cons_append] at h
      have hmore : root ∉ rel ++ [name] := by simp [hroot, hsteps.1]
      simpa [inward, hdot, hup] using ih hmore hsteps.2 h

theorem exists_not_mem (names : List String) : ∃ name, name ∉ names := by
  obtain ⟨n, hn⟩ : ∃ n, ∀ name ∈ names, name.length ≤ n := by
    induction names with
    | nil => exact ⟨0, by simp⟩
    | cons name names ih =>
      obtain ⟨n, hn⟩ := ih
      refine ⟨max name.length n, List.forall_mem_cons.mpr ⟨Nat.le_max_left _ _, ?_⟩⟩
      exact fun other hother => Nat.le_trans (hn other hother) (Nat.le_max_right _ _)
  refine ⟨String.ofList (List.replicate (n + 1) 'x'), fun hmem => ?_⟩
  have hle := hn _ hmem
  simp only [String.length_ofList, List.length_replicate] at hle
  omega

theorem isInward_iff {name : String} :
    IsInward name ↔ ∀ top : Location, top.isBelow (destination top name) = true := by
  constructor
  · rintro ⟨hrelative, hinward⟩ top
    rw [destination, Disk.start, hrelative, if_neg Bool.false_ne_true]
    have hbelow : top.isBelow (locationOf (top ++ []) (Path.steps name)) = true :=
      isBelow_of_inward hinward
    rwa [List.append_nil] at hbelow
  · intro h
    obtain ⟨root, hroot⟩ := exists_not_mem (Path.steps name)
    have hbelow := h [root]
    cases habsolute : isAbsolute name with
    | true =>
      obtain ⟨rel, -, heq⟩ := Location.isBelow_iff.mp hbelow
      rw [destination, Disk.start, if_pos habsolute] at heq
      exact absurd (by simp [heq]) (not_mem_locationOf (List.not_mem_nil (a := root)) hroot)
    | false =>
      rw [destination, Disk.start, habsolute, if_neg Bool.false_ne_true] at hbelow
      exact ⟨habsolute, inward_of_isBelow List.not_mem_nil hroot hbelow⟩

end Path

/-! ### Disks without links -/

namespace Disk

def Unlinked (d : Disk) : Prop := ∀ loc target, d.get? loc ≠ some (.link target)

theorem unlinked_empty (home : Location) : (empty home).Unlinked := by
  intro loc target h
  by_cases hloc : loc = []
  · simp [hloc] at h
  · simpa [empty] using mem_of_get? h hloc

def Spot.location : Spot → Location
  | .taken loc _ => loc
  | .free loc => loc

/-- The location that a path leads to, if it leads to any. -/
def locate (d : Disk) (path : String) : Except Fault Location :=
  (d.resolve true path).map Spot.location

variable {d e : Disk} {links : Bool} {path : String} {here next loc : Location} {name : String}
  {steps more : List String} {spot : Spot} {n : Nat}

theorem Step.destination (hd : d.Unlinked) (h : d.Step here name n next more) :
    more = [] ∧ locationOf here (name :: steps) = locationOf next steps := by
  cases h with
  | dot hname =>
    subst hname
    exact ⟨rfl, rfl⟩
  | up hname =>
    subst hname
    exact ⟨rfl, rfl⟩
  | dir hname _ => exact ⟨rfl, locationOf_name _ _ hname.ne_dot hname.ne_up⟩
  | link _ hitem => exact absurd hitem (hd _ _)

theorem location_of_follow {limit : Nat} (hd : d.Unlinked)
    (h : d.follow links limit here steps = .ok spot) : spot.location = locationOf here steps := by
  induction steps generalizing here limit with
  | nil =>
    rw [follow_nil] at h
    obtain rfl := Except.ok.inj h
    rfl
  | cons name steps ih =>
    obtain ⟨c, next, more, hstep, -, -, hrest⟩ | ⟨rfl, hproper, hends⟩ := follow_cons_ok h
    · obtain ⟨rfl, hlocation⟩ := hstep.destination hd
      rw [hlocation]
      exact ih hrest
    · rw [locationOf_name _ _ hproper.ne_dot hproper.ne_up]
      cases hends <;> rfl

theorem location_of_resolve (hd : d.Unlinked) (h : d.resolve links path = .ok spot) :
    spot.location = Path.destination d.home path := by
  rw [resolve_of_valid (valid_of_resolve h)] at h
  exact location_of_follow hd h

theorem eq_destination_of_locate (hd : d.Unlinked) (h : d.locate path = .ok loc) :
    loc = Path.destination d.home path := by
  obtain ⟨spot, hspot, rfl⟩ := map_eq_ok.mp h
  exact location_of_resolve hd hspot

theorem eq_destination_of_writable (hd : d.Unlinked) (h : d.writable path = .ok loc) :
    loc = Path.destination d.home path := by
  obtain ⟨-, spot, hspot, hloc⟩ := writable_eq_ok h
  have hlocation := location_of_resolve hd hspot
  obtain rfl | ⟨item, rfl, -⟩ := hloc <;> exact hlocation

theorem eq_destination_of_directory (hd : d.Unlinked) (h : d.directory path = .ok loc) :
    loc = Path.destination d.home path :=
  location_of_resolve hd (directory_eq_ok_iff_resolve.mp h)

/-! ### Operations -/

theorem get?_of_get?_put {item found : Item} {other : Location}
    (h : (d.put loc item).get? other = some found) :
    found = item ∨ d.get? other = some found := by
  by_cases hother : other = []
  · subst hother
    exact .inr h
  · have hfilter := lookup_filter (fun l => l != loc) other d.items
    by_cases heq : loc = other
    · left
      simpa [get?, put, lookup, hother, heq] using h.symm
    · right
      simpa [get?, put, lookup, hother, heq, hfilter, Ne.symm heq] using h

/-- Paths start where they did, and if there were no links, there are none now. -/
structure KeepsPlaces (d e : Disk) : Prop where
  home : e.home = d.home
  unlinked : d.Unlinked → e.Unlinked

theorem KeepsPlaces.refl (d : Disk) : d.KeepsPlaces d := ⟨rfl, id⟩

theorem KeepsPlaces.trans {d' : Disk} (h : d.KeepsPlaces d') (h' : d'.KeepsPlaces e) :
    d.KeepsPlaces e :=
  ⟨h'.home.trans h.home, h'.unlinked ∘ h.unlinked⟩

theorem keepsPlaces_put {item : Item} (hitem : ∀ target, item ≠ .link target) :
    d.KeepsPlaces (d.put loc item) := by
  refine ⟨rfl, fun hd other target h => ?_⟩
  obtain heq | hold := get?_of_get?_put h
  · exact hitem target heq.symm
  · exact hd other target hold

theorem keepsPlaces_erase (loc : Location) : d.KeepsPlaces (d.erase loc) :=
  ⟨rfl, fun hd _ _ h => hd _ _ (d.get?_of_get?_erase h)⟩

section outcome

variable {ε α β : Type}

theorem keepsPlaces_bind {op : ExceptT ε (StateM Disk) α} {next : α → ExceptT ε (StateM Disk) β}
    (hop : d.KeepsPlaces (outcome op d).2)
    (hnext : ∀ (a : α) (d' : Disk), d'.KeepsPlaces (outcome (next a) d').2) :
    d.KeepsPlaces (outcome (op >>= next) d).2 := by
  rw [outcome_bind]
  rcases hout : outcome op d with ⟨_ | a, d'⟩ <;> rw [hout] at hop
  · exact hop
  · exact hop.trans (hnext a d')

theorem keepsPlaces_tryCatch {op : ExceptT ε (StateM Disk) α}
    {handle : ε → ExceptT ε (StateM Disk) α} (hop : d.KeepsPlaces (outcome op d).2)
    (hhandle : ∀ (fault : ε) (d' : Disk), d'.KeepsPlaces (outcome (handle fault) d').2) :
    d.KeepsPlaces (outcome (tryCatch op handle) d).2 := by
  rw [outcome_tryCatch]
  rcases hout : outcome op d with ⟨fault | _, d'⟩ <;> rw [hout] at hop
  · exact hop.trans (hhandle fault d')
  · exact hop

end outcome

namespace Op

theorem keepsPlaces_ensureDir (path : String) (d : Disk) :
    d.KeepsPlaces (outcome (ensureDir path) d).2 := by
  rw [ensureDir_outcome]
  cases d.vacant path with
  | ok loc => exact keepsPlaces_put (by simp)
  | error fault => exact .refl d

theorem keepsPlaces_makeDirsOf (paths : List String) (d : Disk) :
    d.KeepsPlaces (outcome (makeDirsOf paths) d).2 := by
  induction paths generalizing d with
  | nil => exact .refl d
  | cons path above ih =>
    rw [makeDirsOf]
    split
    · exact .refl d
    · refine keepsPlaces_tryCatch (keepsPlaces_ensureDir path d) fun fault d' => ?_
      split
      · exact keepsPlaces_bind (ih d') fun _ => keepsPlaces_ensureDir path
      · exact .refl d'

theorem keepsPlaces_write (path : String) (bytes : ByteArray) (d : Disk) :
    d.KeepsPlaces (outcome (write path bytes) d).2 := by
  simp only [write, outcome_bind, outcome_get, outcome_liftM]
  cases d.writable path with
  | ok loc => exact keepsPlaces_put (by simp)
  | error fault => exact .refl d

theorem keepsPlaces_remove (find : Disk → String → Except Fault Location) (path : String)
    (d : Disk) : d.KeepsPlaces (outcome (remove find path) d).2 := by
  simp only [remove, outcome_bind, outcome_get, outcome_liftM]
  cases find d path with
  | ok loc => exact keepsPlaces_erase loc
  | error fault => exact .refl d

end Op

end Disk

end CaseSuite
