import CaseSuite.Proofs.Collaborator.Stored
import CaseSuite.Proofs.Disk.Place
/-!
A disk that is watched while a program runs on it, and remembers which files are written and which
paths are looked at. What a program is seen to touch follows from what its parts do.
-/
set_option autoImplicit false

namespace CaseSuite

/-- A path that a disk was asked for, to write a file there or to look at what is there, and the
location that it led to, if it led to any. -/
structure Touch where
  path : String
  found : Option Location
  deriving DecidableEq

/-- A disk that remembers what it was asked for. -/
structure WatchedDisk where
  disk : Disk
  touches : List Touch

namespace WatchedDisk

/-- An operation on the disk that is watched. -/
def operate {α : Type} (op : Disk.Op α) : StateM WatchedDisk (Except Disk.Fault α) := fun w =>
  ((Disk.outcome op w.disk).1, { w with disk := (Disk.outcome op w.disk).2 })

def touch (path : String) (find : Disk → String → Except Disk.Fault Location) :
    StateM WatchedDisk Unit :=
  modify fun w => { w with touches := w.touches ++ [⟨path, (find w.disk path).toOption⟩] }

instance : Storage (StateM WatchedDisk) where
  entries path := do return (← get).disk.entries path
  removeTree path := operate (Disk.Op.removeTree path)
  removeFile path := operate (Disk.Op.removeFile path)
  makeDirs path := operate (Disk.Op.makeDirs path)
  write path bytes := do
    touch path Disk.writable
    operate (Disk.Op.write path bytes)
  isThere path := do
    touch path Disk.locate
    return (← get).disk.isThere path
  read path := do
    touch path Disk.locate
    return (← get).disk.read path

/-- The disk has no links and its paths start at `home`, and all that was asked for is allowed. -/
structure Within (home : Location) (allowed : Touch → Prop) (w : WatchedDisk) : Prop where
  home : w.disk.home = home
  unlinked : w.disk.Unlinked
  touches : ∀ t ∈ w.touches, allowed t

end WatchedDisk

/-- A watched program does what the program does, and asks for nothing but what is allowed. -/
def Watches (home : Location) (allowed : Touch → Prop) {α : Type} (watched : StateM WatchedDisk α)
    (program : StateM Disk α) : Prop :=
  ∀ w : WatchedDisk, w.Within home allowed →
    (watched.run w).1 = (program.run w.disk).1 ∧
      (watched.run w).2.disk = (program.run w.disk).2 ∧ (watched.run w).2.Within home allowed

namespace Watches

variable {home : Location} {allowed : Touch → Prop} {α β : Type}

theorem pure (a : α) : Watches home allowed (Pure.pure a) (Pure.pure a) :=
  fun _ hw => ⟨rfl, rfl, hw⟩

theorem bind {watched : StateM WatchedDisk α} {program : StateM Disk α}
    {watchedNext : α → StateM WatchedDisk β} {next : α → StateM Disk β}
    (h : Watches home allowed watched program)
    (hnext : ∀ d, Watches home allowed (watchedNext (program.run d).1) (next (program.run d).1)) :
    Watches home allowed (watched >>= watchedNext) (program >>= next) := by
  intro w hw
  obtain ⟨hresult, hdisk, hwithin⟩ := h w hw
  have hnext := hnext w.disk
  rw [StateT.run_bind, StateT.run_bind]
  rcases hrun : watched.run w with ⟨a, w'⟩
  rcases hplain : program.run w.disk with ⟨b, d⟩
  simp only [hrun, hplain] at hresult hdisk hwithin hnext
  subst hresult hdisk
  exact hnext w' hwithin

theorem operate {op : Disk.Op α} (hop : ∀ d : Disk, d.KeepsPlaces (Disk.outcome op d).2) :
    Watches home allowed (WatchedDisk.operate op) (modifyGet op.run) := by
  intro w hw
  have hkeeps := hop w.disk
  exact ⟨rfl, rfl, hkeeps.home.trans hw.home, hkeeps.unlinked hw.unlinked, hw.touches⟩

theorem look (f : Disk → α) :
    Watches home allowed (do return f (← get).disk) (do return f (← get)) :=
  fun _ hw => ⟨rfl, rfl, hw⟩

theorem touch {path : String} {find : Disk → String → Except Disk.Fault Location}
    {watched : StateM WatchedDisk α} {program : StateM Disk α}
    (hpath : ∀ d : Disk, d.Unlinked → d.home = home → allowed ⟨path, (find d path).toOption⟩)
    (h : Watches home allowed watched program) :
    Watches home allowed (WatchedDisk.touch path find >>= fun _ => watched) program := by
  intro w hw
  refine h { w with touches := _ } ⟨hw.home, hw.unlinked, fun t ht => ?_⟩
  obtain hold | hnew := List.mem_append.mp ht
  · exact hw.touches t hold
  · exact List.mem_singleton.mp hnew ▸ hpath w.disk hw.unlinked hw.home

theorem attempt {watched : StateM WatchedDisk (Except Disk.Fault α)}
    {program : StateM Disk (Except Disk.Fault α)} (h : Watches home allowed watched program)
    (error : Disk.Fault → Error) :
    Watches home allowed (FileService.attempt watched error).run
      (FileService.attempt program error).run :=
  h.bind fun _ => pure _

theorem exceptT_bind {ε : Type} {watched : ExceptT ε (StateM WatchedDisk) α}
    {program : ExceptT ε (StateM Disk) α} {watchedNext : α → ExceptT ε (StateM WatchedDisk) β}
    {next : α → ExceptT ε (StateM Disk) β}
    (h : Watches home allowed watched.run program.run)
    (hnext : ∀ a, Watches home allowed (watchedNext a).run (next a).run) :
    Watches home allowed (watched >>= watchedNext).run (program >>= next).run := by
  rw [ExceptT.run_bind, ExceptT.run_bind]
  refine h.bind fun d => ?_
  cases (program.run.run d).1 with
  | ok a => exact hnext a
  | error e => exact pure _

theorem forM {ε γ : Type} {watched : γ → ExceptT ε (StateM WatchedDisk) Unit}
    {program : γ → ExceptT ε (StateM Disk) Unit} {steps : List γ}
    (h : ∀ step ∈ steps, Watches home allowed (watched step).run (program step).run) :
    Watches home allowed (steps.forM watched).run (steps.forM program).run := by
  induction steps with
  | nil => exact pure _
  | cons step steps ih =>
    obtain ⟨hstep, hsteps⟩ := List.forall_mem_cons.mp h
    exact exceptT_bind hstep fun _ => ih hsteps

end Watches

/-- What a program asks of a disk while it runs there: its watched version does the same, and is
seen to touch only what is allowed. -/
structure Asks (d : Disk) {α : Type} (watched : StateM WatchedDisk α) (program : StateM Disk α)
    (allowed : Touch → Prop) : Prop where
  result : (watched.run ⟨d, []⟩).1 = (program.run d).1
  disk : (watched.run ⟨d, []⟩).2.disk = (program.run d).2
  touches : ∀ t ∈ (watched.run ⟨d, []⟩).2.touches, allowed t

theorem Watches.asks {α : Type} {allowed : Touch → Prop} {watched : StateM WatchedDisk α}
    {program : StateM Disk α} {d : Disk} (h : Watches d.home allowed watched program)
    (hd : d.Unlinked) : Asks d watched program allowed := by
  obtain ⟨hresult, hdisk, hwithin⟩ := h ⟨d, []⟩ ⟨rfl, hd, by simp⟩
  exact ⟨hresult, hdisk, hwithin.touches⟩

abbrev Checking (m : Type → Type) (α : Type) := ExceptT Error (StateT VariableStore m) α

/-- A watched check does what the check does, whatever the variables are that a check can come upon,
and leaves variables of that kind. -/
structure WatchesCheck (home : Location) (allowed : Touch → Prop) (known : VariableStore → Prop)
    {α : Type} (watched : Checking (StateM WatchedDisk) α) (program : Checking (StateM Disk) α) :
    Prop where
  watches : ∀ vars, known vars → Watches home allowed (watched.run.run vars) (program.run.run vars)
  known : ∀ vars d, known vars → known (checked program vars d).1.2

namespace WatchesCheck

variable {home : Location} {allowed : Touch → Prop} {known : VariableStore → Prop} {α β : Type}

theorem bind {watched : Checking (StateM WatchedDisk) α} {program : Checking (StateM Disk) α}
    {watchedNext : α → Checking (StateM WatchedDisk) β} {next : α → Checking (StateM Disk) β}
    (h : WatchesCheck home allowed known watched program)
    (hnext : ∀ a, WatchesCheck home allowed known (watchedNext a) (next a)) :
    WatchesCheck home allowed known (watched >>= watchedNext) (program >>= next) where
  watches vars hvars := by
    rw [ExceptT.run_bind, StateT.run_bind, ExceptT.run_bind, StateT.run_bind]
    refine (h.watches vars hvars).bind fun d => ?_
    have hknown : known ((program.run.run vars).run d).1.2 := h.known vars d hvars
    revert hknown
    rcases ((program.run.run vars).run d).1 with ⟨e | a, vars'⟩ <;> intro hknown
    · exact .pure _
    · exact (hnext a).watches vars' hknown
  known vars d hvars := by
    have hknown := h.known vars d hvars
    rw [checked_bind]
    revert hknown
    rcases checked program vars d with ⟨⟨e | a, vars'⟩, d'⟩ <;> intro hknown
    · exact hknown
    · exact (hnext a).known vars' d' hknown

theorem pure (a : α) : WatchesCheck home allowed known (Pure.pure a) (Pure.pure a) :=
  ⟨fun _ _ => .pure _, fun _ _ hvars => hvars⟩

theorem get_bind {watchedNext : VariableStore → Checking (StateM WatchedDisk) β}
    {next : VariableStore → Checking (StateM Disk) β}
    (h : ∀ vars, known vars → WatchesCheck home allowed known (watchedNext vars) (next vars)) :
    WatchesCheck home allowed known (get >>= watchedNext) (get >>= next) :=
  ⟨fun vars hvars => (h vars hvars).watches vars hvars,
    fun vars d hvars => (h vars hvars).known vars d hvars⟩

theorem save {key : String} {v : Value} (h : ∀ vars, known vars → known (vars.save key v)) :
    WatchesCheck home allowed known (modify fun vars => vars.save key v)
      (modify fun vars => vars.save key v) :=
  ⟨fun _ _ => .pure _, fun vars _ hvars => h vars hvars⟩

theorem throw (e : Error) :
    WatchesCheck (α := α) home allowed known (MonadExcept.throw e) (MonadExcept.throw e) :=
  ⟨fun _ _ => .pure _, fun _ _ hvars => hvars⟩

theorem lift_bind {x : Except Error α}
    {watchedNext : α → Checking (StateM WatchedDisk) β}
    {next : α → Checking (StateM Disk) β}
    (h : ∀ a, x = .ok a → WatchesCheck home allowed known (watchedNext a) (next a)) :
    WatchesCheck home allowed known (liftExcept x >>= watchedNext) (liftExcept x >>= next) := by
  cases x with
  | ok a => exact h a rfl
  | error e => exact throw e

theorem attempt {watched : StateM WatchedDisk (Except Disk.Fault α)}
    {program : StateM Disk (Except Disk.Fault α)} (h : Watches home allowed watched program)
    (error : Disk.Fault → Error) :
    WatchesCheck home allowed known (FileService.attempt (StateT.lift watched) error)
      (FileService.attempt (StateT.lift program) error) := by
  refine ⟨fun vars _ => ?_, fun _ _ hvars => hvars⟩
  have hrun : Watches home allowed
      (watched >>= fun result => Pure.pure (result.mapError error, vars))
      (program >>= fun result => Pure.pure (result.mapError error, vars)) :=
    h.bind fun _ => .pure (_, vars)
  exact hrun

theorem forM {γ : Type} {watched : γ → Check (StateM WatchedDisk)}
    {program : γ → Check (StateM Disk)} {steps : List γ}
    (h : ∀ step ∈ steps, WatchesCheck home allowed known (watched step) (program step)) :
    WatchesCheck home allowed known (steps.forM watched) (steps.forM program) := by
  induction steps with
  | nil => exact pure ()
  | cons step steps ih =>
    obtain ⟨hstep, hsteps⟩ := List.forall_mem_cons.mp h
    exact bind hstep fun _ => ih hsteps

end WatchesCheck

end CaseSuite
