import CaseSuite.Proofs.Run.Transcript
/-!
A test does nothing but make its calls: what holds of each call, and of two programs one after the
other when it holds of both, holds of the whole test. So a test stays in the worlds that calls can
lead to, it takes the same course in all of them if its own calls are answered alike there, and what
was noted before it does not matter to it.
-/
set_option autoImplicit false

namespace CaseSuite

variable {m : Type → Type} {σ ρ ε α β : Type}

/-- What is true of a program once it is true of its parts. -/
structure Composable (m : Type → Type) [Monad m] (Q : {α : Type} → m α → Prop) : Prop where
  of_pure : ∀ {α : Type} (a : α), Q (pure a : m α)
  of_bind : ∀ {α β : Type} {x : m α} {f : α → m β}, Q x → (∀ a, Q (f a)) → Q (x >>= f)

namespace Composable

section

variable [Monad m] {Q : {α : Type} → m α → Prop} (hQ : Composable m Q)

include hQ

theorem of_except (x : Except ε α) : Q (liftExcept x : ExceptT ε m α).run := by
  cases x <;> exact hQ.of_pure _

theorem exceptT_bind {x : ExceptT ε m α} {f : α → ExceptT ε m β} (hx : Q x.run)
    (hf : ∀ a, Q (f a).run) : Q (x >>= f).run := by
  rw [ExceptT.run_bind]
  refine hQ.of_bind hx fun outcome => ?_
  cases outcome with
  | ok a => exact hf a
  | error e => exact hQ.of_pure _

theorem atStage [LawfulMonad m] {x : ExceptT Error m α} (stage : Stage) (hx : Q x.run) :
    Q (Test.atStage stage x).run := by
  have hrun : (Test.atStage stage x).run = Except.mapError (Failure.mk stage) <$> x.run := rfl
  rw [hrun, map_eq_pure_bind]
  exact hQ.of_bind hx fun _ => hQ.of_pure _

theorem forM_atStage [LawfulMonad m] (stage : Stage) (actions : List (Action m Unit))
    (h : ∀ action ∈ actions, Q action.run) : Q (actions.forM (Test.atStage stage)).run := by
  induction actions with
  | nil => exact hQ.of_pure _
  | cons action actions ih =>
    rw [List.forall_mem_cons] at h
    exact hQ.exceptT_bind (hQ.atStage stage h.1) fun _ => ih h.2

theorem forM_checks (checkers : List (Check m))
    (h : ∀ check ∈ checkers, ∀ vars, Q (check.run.run vars)) (vars : VariableStore) :
    Q ((checkers.forM id).run.run vars) := by
  induction checkers generalizing vars with
  | nil => exact hQ.of_pure _
  | cons check checkers ih =>
    rw [List.forall_mem_cons] at h
    rw [List.forM_eq_forM, List.forM_cons, ExceptT.run_bind, StateT.run_bind]
    refine hQ.of_bind (h.1 vars) fun (answer, left) => ?_
    cases answer with
    | ok _ => exact ih h.2 left
    | error e => exact hQ.of_pure _

theorem test_run [LawfulMonad m] [Requester m ρ] {t : Test m ρ}
    {environment : List (Action m Unit)} (hinit : ∀ action ∈ environment, Q action.run)
    (hprepare : ∀ action ∈ t.preparers, Q action.run) (hsend : Q (Requester.send t.request).run)
    (hchecks : ∀ check ∈ t.checkers, ∀ vars, Q (check.run.run vars)) :
    Q (t.run environment).run := by
  refine hQ.exceptT_bind (hQ.forM_atStage .environment environment hinit) fun _ => ?_
  refine hQ.exceptT_bind (hQ.forM_atStage .preparation t.preparers hprepare) fun _ => ?_
  refine hQ.exceptT_bind (hQ.atStage .request hsend) fun response => ?_
  refine hQ.exceptT_bind (hQ.atStage .response (hQ.of_except _)) fun vars => ?_
  refine hQ.of_bind (hQ.forM_checks t.checkers hchecks vars) fun (outcome, _) => ?_
  cases outcome <;> exact hQ.of_pure _

end

end Composable

/-- The program never leaves these worlds. -/
def Keeps (I : σ → Prop) (x : StateM σ α) : Prop := ∀ w, I w → I (x.run w).2

/-- The program never leaves these worlds, and its answer is the same in all of them. -/
def Settled (I : σ → Prop) (x : StateM σ α) : Prop :=
  Keeps I x ∧ ∃ a, ∀ w, I w → (x.run w).1 = a

/-- The program does not look at what was noted before it, and only adds to it. -/
def Appends (x : Noting (StateM σ) ρ α) : Prop :=
  ∃ y : StateM σ (α × List (Event (StateM σ) ρ)), ∀ log,
    x.run log = do
      let (a, events) ← y
      return (a, log ++ events)

/-- It holds of a noting program, whatever was noted before. -/
def Throughout (Q : {α : Type} → StateM σ α → Prop) (x : Noting (StateM σ) ρ α) : Prop :=
  ∀ log, Q (x.run log)

namespace Composable

theorem keeps (I : σ → Prop) : Composable (StateM σ) (Keeps I) where
  of_pure _ _ hw := hw
  of_bind hx hf w hw := hf _ _ (hx w hw)

theorem settled (I : σ → Prop) : Composable (StateM σ) (Settled I) where
  of_pure a := ⟨fun _ hw => hw, a, fun _ _ => rfl⟩
  of_bind {α β x f} hx hf := by
    obtain ⟨hkeeps, a, ha⟩ := hx
    obtain ⟨_, b, hb⟩ := hf a
    refine ⟨(keeps I).of_bind hkeeps fun a => (hf a).1, b, fun w hw => ?_⟩
    calc ((x >>= f).run w).1
      _ = ((f (x.run w).1).run (x.run w).2).1 := rfl
      _ = ((f a).run (x.run w).2).1 := by rw [ha w hw]
      _ = b := hb _ (hkeeps w hw)

theorem appends : Composable (Noting (StateM σ) ρ) Appends where
  of_pure a := ⟨pure (a, []), fun log => by simp⟩
  of_bind {α β x f} hx hf := by
    obtain ⟨y, hy⟩ := hx
    choose z hz using hf
    refine ⟨do let (a, events) ← y; let (b, more) ← z a; return (b, events ++ more), fun log => ?_⟩
    simp [hy, hz]

theorem throughout {Q : {α : Type} → StateM σ α → Prop} (hQ : Composable (StateM σ) Q) :
    Composable (Noting (StateM σ) ρ) (Throughout Q) where
  of_pure a log := hQ.of_pure _
  of_bind hx hf log := by
    rw [StateT.run_bind]
    exact hQ.of_bind (hx log) fun (a, log') => hf a log'

end Composable

theorem Action.appends_noted (note : Except Error α → Event (StateM σ) ρ)
    (action : Action (StateM σ) α) : Appends (action.noted note).run :=
  ⟨do let answer ← action.run; return (answer, [note answer]), fun _ => rfl⟩

theorem Check.appends_noted (check : Check (StateM σ)) (vars : VariableStore) :
    Appends (check.noted.run.run vars : Noting (StateM σ) ρ _) :=
  ⟨do let out ← check.run.run vars
      return (out, [.checked check vars out.2 out.1]), fun _ => rfl⟩

section

variable {Q : {α : Type} → StateM σ α → Prop} (hQ : Composable (StateM σ) Q)

include hQ

theorem Composable.action_noted (note : Except Error α → Event (StateM σ) ρ)
    {action : Action (StateM σ) α} (h : Q action.run) : Throughout Q (action.noted note).run := by
  intro log
  have hrun : (action.noted note).run.run log = do
      let answer ← action.run
      return (answer, log ++ [note answer]) := rfl
  rw [hrun]
  exact hQ.of_bind h fun _ => hQ.of_pure _

theorem Composable.check_noted {check : Check (StateM σ)} {vars : VariableStore}
    (h : Q (check.run.run vars)) :
    Throughout Q (check.noted.run.run vars : Noting (StateM σ) ρ _) := by
  intro log
  have hrun : (check.noted.run.run vars).run log = do
      let out ← check.run.run vars
      return (out, log ++ [.checked check vars out.2 out.1]) := rfl
  rw [hrun]
  exact hQ.of_bind h fun _ => hQ.of_pure _

end

/-- Something holds of the program behind a call; of a check, with any variables. -/
def Call.Has [Requester (StateM σ) ρ] (Q : {α : Type} → StateM σ α → Prop) :
    Call (StateM σ) ρ → Prop
  | .init action | .prepare action => Q action.run
  | .send request => Q (Requester.send (m := StateM σ) request).run
  | .check c => ∀ vars, Q (c.run.run vars)

variable [Requester (StateM σ) ρ]

theorem Composable.transcript {Q : {α : Type} → StateM σ α → Prop}
    (hQ : Composable (StateM σ) Q) {t : Test (StateM σ) ρ}
    {environment : List (Action (StateM σ) Unit)}
    (h : ∀ call ∈ t.plan environment, call.Has Q) : Q (t.transcript environment) := by
  simp only [Test.plan, List.forall_mem_append, List.forall_mem_map, List.forall_mem_cons] at h
  obtain ⟨hinit, hprepare, hsend, hchecks⟩ := h
  have hnoted : Throughout Q (t.noted.run (environment.map fun action =>
      action.noted (.initialized action))).run := by
    refine hQ.throughout.test_run ?_ ?_ (hQ.action_noted _ hsend) ?_
    · rw [List.forall_mem_map]
      exact fun action ha => hQ.action_noted _ (hinit action ha)
    · rw [Test.noted, List.forall_mem_map]
      exact fun action ha => hQ.action_noted _ (hprepare action ha)
    · rw [Test.noted, List.forall_mem_map]
      exact fun check hc vars => hQ.check_noted (hchecks check hc vars)
  exact hnoted []

theorem Test.run_noted (t : Test (StateM σ) ρ) (environment : List (Action (StateM σ) Unit))
    (log : List (Event (StateM σ) ρ)) :
    (t.noted.run (environment.map fun action => action.noted (.initialized action))).run.run log =
      do
        let (outcome, events) ← t.transcript environment
        return (outcome, log ++ events) := by
  have happends : Appends (t.noted.run (environment.map fun action =>
      action.noted (.initialized action))).run := by
    refine Composable.appends.test_run ?_ ?_ (Action.appends_noted _ _) ?_
    · rw [List.forall_mem_map]
      exact fun action _ => action.appends_noted _
    · rw [Test.noted, List.forall_mem_map]
      exact fun action _ => action.appends_noted _
    · rw [Test.noted, List.forall_mem_map]
      exact fun check _ vars => check.appends_noted vars
  obtain ⟨y, hy⟩ := happends
  have hstart : t.transcript environment = y := (hy []).trans (by simp)
  rw [hstart]
  exact hy log

/-- Makes a call; a check is given these variables. -/
def Call.perform (vars : VariableStore) : Call (StateM σ) ρ → StateM σ (Event (StateM σ) ρ)
  | .init action => return .initialized action (← action.run)
  | .prepare action => return .prepared action (← action.run)
  | .send request => return .sent request (← (Requester.send request).run)
  | .check c => do
    let (answer, left) ← c.run.run vars
    return .checked c vars left answer

/-- The worlds that calls can lead to, in whatever order they are made. -/
inductive Reached (calls : List (Call (StateM σ) ρ)) (start : σ) : σ → Prop
  | start : Reached calls start start
  | call {call : Call (StateM σ) ρ} {w : σ} (vars : VariableStore) : Reached calls start w →
      call ∈ calls → Reached calls start ((call.perform vars).run w).2

/-- The call is answered as at the start in every world that calls can lead to. -/
def Call.Steady (calls : List (Call (StateM σ) ρ)) (start : σ) (call : Call (StateM σ) ρ) : Prop :=
  ∀ vars w, Reached calls start w →
    ((call.perform vars).run w).1 = ((call.perform vars).run start).1

variable {calls : List (Call (StateM σ) ρ)} {start : σ} {call : Call (StateM σ) ρ}

theorem Call.has_keeps (h : call ∈ calls) : call.Has (Keeps (Reached calls start)) := by
  cases call with
  | init action => exact fun w hw => hw.call .empty h
  | prepare action => exact fun w hw => hw.call .empty h
  | send request => exact fun w hw => hw.call .empty h
  | check c => exact fun vars w hw => hw.call vars h

theorem Call.Steady.has_settled (h : call ∈ calls) (hsteady : call.Steady calls start) :
    call.Has (Settled (Reached calls start)) := by
  have hkeeps : call.Has (Keeps (Reached calls start)) := Call.has_keeps h
  -- an event tells its answer, so that equal events have equal answers
  cases call with
  | init action => exact ⟨hkeeps, _, fun w hw => by injection hsteady .empty w hw⟩
  | prepare action => exact ⟨hkeeps, _, fun w hw => by injection hsteady .empty w hw⟩
  | send request => exact ⟨hkeeps, _, fun w hw => by injection hsteady .empty w hw⟩
  | check c =>
    refine fun vars => ⟨hkeeps vars, ((c.run.run vars).run start).1, fun w hw => ?_⟩
    injection hsteady vars w hw with _ _ hleft hanswer
    exact Prod.ext hanswer hleft

end CaseSuite
