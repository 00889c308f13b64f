import CaseSuite.Proofs.Collaborator.Watched
/-!
What a file service touches: the files that it writes and the paths that it looks at. On a disk
without links, all of them are where a name leads from the root, which is below the root for names
that lead down only.
-/
set_option autoImplicit false

namespace CaseSuite

/-- The name of the file that a check is about, with its markers. -/
def FileCheck.name : FileCheck → String
  | .presence name _ => name
  | .content name _ _ => name

/-- The name under which a check saves what it reads. -/
def FileCheck.saveTo? : FileCheck → Option String
  | .presence _ _ => none
  | .content _ _ saveTo => saveTo

namespace FileService

variable (s : FileService) (home : Location)

/-- The touch is of the file with this name: its path is put together from the root and the name,
and leads on from the root by the name, below it if the name is inward. -/
structure Touches (name : String) (t : Touch) : Prop where
  path : t.path = Path.join s.root name
  found : ∀ loc ∈ t.found, loc = Path.destination home t.path
  place : Path.destination home t.path = Path.destination (Path.destination home s.root) name
  below : Path.IsInward name →
    (Path.destination home s.root).isBelow (Path.destination home t.path) = true

variable {s home} {allowed : Touch → Prop}

theorem touches_of_find {find : Disk → String → Except Disk.Fault Location} {d : Disk}
    (hfind : ∀ path loc, find d path = .ok loc → loc = Path.destination d.home path)
    (hhome : d.home = home) (name : String) :
    s.Touches home name ⟨Path.join s.root name, (find d (Path.join s.root name)).toOption⟩ where
  path := rfl
  found loc hloc := by
    rw [← hhome]
    refine hfind _ loc ?_
    cases hfound : find d (Path.join s.root name) with
    | ok other => simpa [hfound, Except.toOption] using hloc
    | error fault => simp [hfound, Except.toOption] at hloc
  place := Path.destination_join home s.root name
  below hname := by
    rw [Path.destination_join]
    exact Path.isInward_iff.mp hname _

section storage

variable {name : String} (hallowed : ∀ t, s.Touches home name t → allowed t)

include hallowed

theorem watches_touch {α : Type} {find : Disk → String → Except Disk.Fault Location}
    {watched : StateM WatchedDisk α} {program : StateM Disk α}
    (hfind : ∀ d : Disk, d.Unlinked → ∀ path loc, find d path = .ok loc →
      loc = Path.destination d.home path)
    (h : Watches home allowed watched program) :
    Watches home allowed (WatchedDisk.touch (Path.join s.root name) find >>= fun _ => watched)
      program :=
  .touch (fun d hd hhome => hallowed _ (touches_of_find (hfind d hd) hhome name)) h

theorem watches_write (bytes : ByteArray) :
    Watches home allowed (Storage.write (Path.join s.root name) bytes : StateM WatchedDisk _)
      (Storage.write (Path.join s.root name) bytes : StateM Disk _) :=
  watches_touch hallowed (fun _ hd _ _ => Disk.eq_destination_of_writable hd)
    (.operate (Disk.Op.keepsPlaces_write _ bytes))

theorem watches_isThere :
    Watches home allowed (Storage.isThere (Path.join s.root name) : StateM WatchedDisk _)
      (Storage.isThere (Path.join s.root name) : StateM Disk _) :=
  watches_touch hallowed (fun _ hd _ _ => Disk.eq_destination_of_locate hd)
    (.look fun d => d.isThere _)

theorem watches_read :
    Watches home allowed (Storage.read (Path.join s.root name) : StateM WatchedDisk _)
      (Storage.read (Path.join s.root name) : StateM Disk _) :=
  watches_touch hallowed (fun _ hd _ _ => Disk.eq_destination_of_locate hd)
    (.look fun d => d.read _)

end storage

theorem watches_makeDirs (path : String) :
    Watches home allowed (Storage.makeDirs path : StateM WatchedDisk _)
      (Storage.makeDirs path : StateM Disk _) :=
  .operate (Disk.Op.keepsPlaces_makeDirsOf _)

theorem watches_removeEntry (path : String) (entry : String × Disk.Kind) :
    Watches home allowed (removeEntry path entry).run (removeEntry path entry).run := by
  rcases entry with ⟨name, _ | _ | _⟩ <;>
    exact .operate (Disk.Op.keepsPlaces_remove _ (Path.join path name))

theorem watches_clearDir (path : String) :
    Watches home allowed (clearDir path).run (clearDir path).run := by
  refine .bind (.look fun d => d.entries path) fun d => ?_
  cases ((Storage.entries path : StateM Disk _).run d).1 with
  | ok entries => exact .forM fun entry _ => watches_removeEntry path entry
  | error fault => cases fault <;> exact .pure _

theorem watches_prepare {action : FilePreparation}
    (h : ∀ name content t, action = .write name content → s.Touches home name t → allowed t) :
    Watches home allowed (s.prepare action).run (s.prepare action).run := by
  cases action with
  | clear => exact (watches_clearDir s.root).attempt _
  | write name content =>
    have hwrite := (watches_write (h name content · rfl) content.toUTF8).attempt
      fun fault => s.failed (.notWritten (Path.join s.root name) fault)
    unfold prepare
    cases hparent : Path.parent? (Path.join s.root name) with
    | none =>
      simp only [hparent]
      exact hwrite
    | some above =>
      simp only [hparent]
      exact .exceptT_bind ((watches_makeDirs above).attempt .disk) fun _ => hwrite

theorem exists_of_path {vars : VariableStore} {name path : String}
    (h : s.path vars name = .ok path) :
    ∃ v, interpolate (.str name) vars = .ok v ∧ path = Path.join s.root v.text := by
  obtain ⟨v, hv, hpath⟩ := bind_eq_ok.mp h
  exact ⟨v, hv, (pure_eq_ok.mp hpath).symm⟩

theorem watches_check {c : FileCheck} {known : VariableStore → Prop}
    (hallowed : ∀ vars v t, known vars → interpolate (.str c.name) vars = .ok v →
      s.Touches home v.text t → allowed t)
    (hsaves : ∀ vars key text, known vars → c.saveTo? = some key →
      known (vars.save key (.str text))) :
    WatchesCheck home allowed known (s.check c) (s.check c) := by
  cases c with
  | presence name expected =>
    refine .get_bind fun vars hvars => .lift_bind fun path hpath => ?_
    obtain ⟨v, hv, rfl⟩ := exists_of_path hpath
    refine .bind (.attempt (watches_isThere (hallowed vars v · hvars hv)) .disk) fun actual => ?_
    by_cases hactual : actual != expected
    · simp only [hactual, if_true]
      exact .throw _
    · simp only [hactual]
      exact .pure ()
  | content name expected saveTo =>
    refine .get_bind fun vars hvars => .lift_bind fun path hpath => ?_
    obtain ⟨v, hv, rfl⟩ := exists_of_path hpath
    refine .bind (.attempt (watches_read (hallowed vars v · hvars hv)) _) fun content => ?_
    cases saveTo with
    | none =>
      cases expected with
      | none => exact .pure ()
      | some _ => exact .get_bind fun _ _ => .lift_bind fun _ _ => .lift_bind fun _ _ => .pure ()
    | some key =>
      have hsave (text : String) : WatchesCheck home allowed known
          (modify (·.save key (.str text))) (modify (·.save key (.str text))) :=
        .save fun vars hvars => hsaves vars key text hvars rfl
      cases expected with
      | none => exact hsave _
      | some _ => exact .get_bind fun _ _ => .lift_bind fun _ _ => .lift_bind fun _ _ => hsave _

/-- One of the actions writes the file that the touch is of. -/
def IsWritten (s : FileService) (home : Location) (actions : List FilePreparation) (t : Touch) :
    Prop :=
  ∃ name content, .write name content ∈ actions ∧ s.Touches home name t

/-- The variables, with texts saved by some of the checks. -/
inductive Saves (checks : List FileCheck) (vars : VariableStore) : VariableStore → Prop where
  | nothing : Saves checks vars vars
  | save {c : FileCheck} {vars' : VariableStore} {key : String} (text : String) :
      Saves checks vars vars' → c ∈ checks → c.saveTo? = some key →
        Saves checks vars (vars'.save key (.str text))

theorem Saves.eq_of_none {checks : List FileCheck} {vars vars' : VariableStore}
    (h : Saves checks vars vars') (hnone : ∀ c ∈ checks, c.saveTo? = none) : vars' = vars := by
  cases h with
  | nothing => rfl
  | save text _ hmem hkey => simp [hnone _ hmem] at hkey

/-- One of the checks looks at the file that the touch is of, by the name that its markers make of
what is saved by then. -/
def IsLookedAt (s : FileService) (home : Location) (checks : List FileCheck) (vars : VariableStore)
    (t : Touch) : Prop :=
  ∃ c ∈ checks, ∃ vars' v, Saves checks vars vars' ∧ interpolate (.str c.name) vars' = .ok v ∧
    s.Touches home v.text t

/-- On a disk without links, preparing writes files and checking looks at paths where their names
lead from the root. The names that always lead below it are the inward ones. -/
theorem touches_placed (s : FileService) {d : Disk} (hd : d.Unlinked) (params : Value) :
    (∀ action : Action (StateM Disk) Unit, s.service.preparer params = .ok action →
      ∃ (watched : Action (StateM WatchedDisk) Unit) (actions : List FilePreparation),
        s.service.preparer params = .ok watched ∧ s.preparations params = .ok actions ∧
          Asks d watched.run action.run (s.IsWritten d.home actions)) ∧
    (∀ (check : Check (StateM Disk)) (vars : VariableStore), s.service.checker params = .ok check →
      ∃ (watched : Check (StateM WatchedDisk)) (checks : List FileCheck),
        s.service.checker params = .ok watched ∧ s.checks params = .ok checks ∧
          Asks d (watched.run.run vars) (check.run.run vars) (s.IsLookedAt d.home checks vars)) ∧
    (∀ top, d.directory s.root = .ok top → top = Path.destination d.home s.root) ∧
    ∀ name, Path.IsInward name ↔
      ∀ top : Location, top.isBelow (Path.destination top name) = true := by
  refine ⟨fun action haction => ?_, fun check vars hcheck => ?_,
    fun top htop => Disk.eq_destination_of_directory hd htop, fun name => Path.isInward_iff⟩
  · obtain ⟨actions, hactions, haction⟩ := bind_eq_ok.mp haction
    obtain rfl := pure_eq_ok.mp haction
    refine ⟨_, actions, bind_eq_ok.mpr ⟨actions, hactions, rfl⟩, hactions, ?_⟩
    refine Watches.asks (.forM fun action hmem => watches_prepare ?_) hd
    rintro name content t rfl ht
    exact ⟨name, content, hmem, ht⟩
  · obtain ⟨checks, hchecks, hcheck⟩ := bind_eq_ok.mp hcheck
    obtain rfl := pure_eq_ok.mp hcheck
    refine ⟨_, checks, bind_eq_ok.mpr ⟨checks, hchecks, rfl⟩, hchecks, ?_⟩
    have hwatches : WatchesCheck d.home (s.IsLookedAt d.home checks vars) (Saves checks vars)
        (checks.forM s.check) (checks.forM s.check) := by
      refine .forM fun c hmem => watches_check (fun vars' v t hvars' hv ht => ?_)
        fun vars' key text hvars' hkey => .save text hvars' hmem hkey
      exact ⟨c, hmem, vars', v, hvars', hv, ht⟩
    exact (hwatches.watches vars .nothing).asks hd

/-- Parameters that write a file, whose name goes down and up again on its way. -/
def detourParams : Value :=
  .object [("file", .object [("name", .str "a/../b"), ("content", .str "new")])]

/-- Parameters of a check that looks for a file, whose name is the value of a variable. -/
def soughtParams : Value := .object [("exists", .object [("name", .str "\x7b\x7b k \x7d\x7d")])]

theorem touches_placed_detourParams :
    let files : FileService := ⟨"files", "storage"⟩
    let d := (Disk.empty ["suite"]).put ["suite", "storage"] .dir
    let vars := VariableStore.empty.save "k" (.str "a/./b")
    d.Unlinked ∧
    (∃ watched : Action (StateM WatchedDisk) Unit,
      files.service.preparer detourParams = .ok watched ∧
        (watched.run.run ⟨d, []⟩).2.touches =
          [⟨"storage/a/../b", some ["suite", "storage", "b"]⟩] ∧
        ∀ t ∈ (watched.run.run ⟨d, []⟩).2.touches,
          Location.isBelow ["suite", "storage"] (Path.destination ["suite"] t.path) = true) ∧
    ∃ watched : Check (StateM WatchedDisk), files.service.checker soughtParams = .ok watched ∧
      ((watched.run.run vars).run ⟨d, []⟩).2.touches = [⟨"storage/a/./b", none⟩] ∧
      ∀ t ∈ ((watched.run.run vars).run ⟨d, []⟩).2.touches,
        Location.isBelow ["suite", "storage"] (Path.destination ["suite"] t.path) = true := by
  intro files d vars
  have hd : d.Unlinked := (Disk.keepsPlaces_put (by simp)).unlinked (Disk.unlinked_empty _)
  have hdetour : Path.IsInward "a/../b" := ⟨by decide +kernel, by decide +kernel⟩
  have hstay : Path.IsInward "a/./b" := ⟨by decide +kernel, by decide +kernel⟩
  have hroot : Path.destination ["suite"] "storage" = ["suite", "storage"] := by decide +kernel
  have hplaced := files.touches_placed hd
  obtain ⟨watched, actions, hwatched, hactions, hasks⟩ := (hplaced detourParams).1 _ rfl
  obtain ⟨sought, checks, hsought, hchecks, hlooks⟩ := (hplaced soughtParams).2.1 _ vars rfl
  obtain rfl := Except.ok.inj hwatched
  obtain rfl := Except.ok.inj hsought
  obtain rfl : actions = [.write "a/../b" "new"] := (Except.ok.inj hactions).symm
  obtain rfl : checks = [.presence "\x7b\x7b k \x7d\x7d" true] := (Except.ok.inj hchecks).symm
  refine ⟨hd, ⟨_, hwatched, by decide +kernel, fun t ht => ?_⟩,
    _, hsought, by decide +kernel, fun t ht => ?_⟩
  · obtain ⟨name, content, hmem, ht⟩ := hasks.touches t ht
    obtain ⟨rfl, rfl⟩ : name = "a/../b" ∧ content = "new" := by simpa using hmem
    exact hroot ▸ ht.below hdetour
  · obtain ⟨c, hmem, vars', v, hsaves, hv, ht⟩ := hlooks.touches t ht
    obtain rfl : c = .presence "\x7b\x7b k \x7d\x7d" true := by simpa using hmem
    obtain rfl := hsaves.eq_of_none (by simp [FileCheck.saveTo?])
    obtain rfl : v = .str "a/./b" := (Except.ok.inj (hv.symm.trans rfl))
    exact hroot ▸ ht.below hstay

/-- Parameters that write a file, whose name leads up. -/
def escapingParams : Value :=
  .object [("file", .object [("name", .str "../escaped.txt"), ("content", .str "new")])]

/-- A file whose name leads up is written beside the root, and a check of that name finds it
there. -/
theorem exists_touches_outside :
    let files : FileService := ⟨"files", "storage"⟩
    let d := (Disk.empty ["suite"]).put ["suite", "storage"] .dir
    let vars := VariableStore.empty.save "k" (.str "../escaped.txt")
    d.Unlinked ∧ d.directory "storage" = .ok ["suite", "storage"] ∧
      Location.isBelow ["suite", "storage"] ["suite", "escaped.txt"] = false ∧
      (d.get? ["suite", "escaped.txt"]).isSome = false ∧
      ∃ (action : Action (StateM Disk) Unit) (check : Check (StateM Disk)) (e : Disk),
        files.service.preparer escapingParams = .ok action ∧
        Disk.outcome action d = (.ok (), e) ∧
        (e.get? ["suite", "escaped.txt"]).isSome = true ∧
        files.service.checker soughtParams = .ok check ∧ (checked check vars d).1.1.isOk = false ∧
        (checked check vars e).1.1.isOk = true := by
  intro files d vars
  have hd : d.Unlinked := (Disk.keepsPlaces_put (by simp)).unlinked (Disk.unlinked_empty _)
  have hroot : d.directory "storage" = .ok ["suite", "storage"] :=
    Disk.directory_eq_ok_iff_resolve.mpr rfl
  have hrun : files.Prepares [.write "../escaped.txt" "new"] d _ :=
    prepares_of_isOk (by decide +kernel)
  exact ⟨hd, hroot, by decide +kernel, by decide +kernel, _, _, _, rfl, hrun, by decide +kernel,
    rfl, by decide +kernel, by decide +kernel⟩

end FileService

end CaseSuite
