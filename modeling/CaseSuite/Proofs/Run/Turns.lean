import CaseSuite.Proofs.Run.Alone
import CaseSuite.Proofs.Run.Course
import CaseSuite.Proofs.Run.Printed
/-!
The runs of a suite's tests, one after the other. A test gets from those before it nothing but the
world that they leave, and if that makes no difference to the answers of its collaborators, its run
is the one that it would have alone.
-/
set_option autoImplicit false

namespace CaseSuite

variable {σ ρ : Type}

/-- A test that has been run, with its outcome and the calls that were made for it. -/
structure TestRun (σ ρ : Type) where
  test : Test (StateM σ) ρ
  outcome : Except Failure VariableStore
  events : List (Event (StateM σ) ρ)

namespace TestRun

def message? (run : TestRun σ ρ) : Option String :=
  match run.outcome with
  | .ok _ => none
  | .error failure => some failure.message

/-- A result tells the test, whether it passed, and the text of its failure if not. -/
structure Tells (run : TestRun σ ρ) (result : TestResult) : Prop where
  name : result.name = run.test.name
  passed : result.passed = true ↔ ∃ vars, run.outcome = .ok vars
  error : ∀ text, result.error = some text ↔
    ∃ failure, run.outcome = .error failure ∧ failure.message = text

def result (run : TestRun σ ρ) : TestResult := Test.resultOf run.test.name run.outcome

def lines (run : TestRun σ ρ) : List ReportLine := Test.linesOf run.test.name run.outcome

theorem tells_result (run : TestRun σ ρ) : run.Tells run.result := by
  obtain ⟨test, outcome, events⟩ := run
  cases outcome with
  | ok vars => exact ⟨rfl, by simp [result, Test.resultOf], by simp [result, Test.resultOf]⟩
  | error failure => exact ⟨rfl, by simp [result, Test.resultOf], by simp [result, Test.resultOf]⟩

theorem message?_eq_none {run : TestRun σ ρ} :
    run.message? = none ↔ ∃ vars, run.outcome = .ok vars := by
  cases h : run.outcome <;> simp [message?, h]

theorem failed_iff {run : TestRun σ ρ} :
    (∃ failure, run.outcome = .error failure) ↔ ¬ ∃ vars, run.outcome = .ok vars := by
  cases run.outcome <;> simp

variable [Requester (StateM σ) ρ]

/-- The run takes place in one world and leaves another. -/
structure Leads (run : TestRun σ ρ) (environment : List (Action (StateM σ) Unit)) (w w' : σ) :
    Prop where
  outcome : (run.test.run environment).run.run w = (run.outcome, w')
  events : (run.test.transcript environment).run w = ((run.outcome, run.events), w')

end TestRun

variable [Requester (StateM σ) ρ]

/-- Runs that follow each other: each takes place in the world that the one before it left. -/
inductive InTurn (environment : List (Action (StateM σ) Unit)) : σ → List (TestRun σ ρ) → σ → Prop
  | nil (w : σ) : InTurn environment w [] w
  | cons {run : TestRun σ ρ} {runs : List (TestRun σ ρ)} {w w' w'' : σ} :
      run.Leads environment w w' → InTurn environment w' runs w'' →
      InTurn environment w (run :: runs) w''

namespace Suite

omit [Requester (StateM σ) ρ] in
def noted (s : Suite (StateM σ) ρ) : Suite (Noting (StateM σ) ρ) ρ :=
  ⟨s.tests.map Test.noted, s.environment.map fun action => action.noted (.initialized action)⟩

/-- What the run of a suite gives and prints, and all calls that were made in it. -/
def transcript (colors : Bool) (s : Suite (StateM σ) ρ) :
    StateM σ ((Summary × String) × List (Event (StateM σ) ρ)) :=
  ((s.noted.run colors).run "").run []

end Suite

theorem Test.exists_leads (t : Test (StateM σ) ρ) (environment : List (Action (StateM σ) Unit))
    (w : σ) : ∃ (run : TestRun σ ρ) (w' : σ), run.test = t ∧ run.Leads environment w w' := by
  obtain ⟨outcome, events, w', hplain, hnoted, _⟩ := t.notes_run environment [] w
  exact ⟨⟨t, outcome, events⟩, w', rfl, hplain, hnoted⟩

namespace TestRun.Leads

variable {run : TestRun σ ρ} {environment : List (Action (StateM σ) Unit)} {w w' : σ}

theorem run_result (h : run.Leads environment w w') (colors : Bool) (out : String) :
    ((run.test.result colors environment).run out).run w =
      ((run.result, out ++ printed colors run.lines), w') := by
  rw [Test.run_result, StateT.run_bind, h.outcome]
  rfl

/-- In a suite that notes its calls, a test adds its own to those of the tests before it. -/
theorem run_result_noted (h : run.Leads environment w w') (colors : Bool) (out : String)
    (log : List (Event (StateM σ) ρ)) :
    (((run.test.noted.result colors (environment.map fun action =>
      action.noted (.initialized action))).run out).run log).run w =
        (((run.result, out ++ printed colors run.lines), log ++ run.events), w') := by
  rw [Test.run_result, StateT.run_bind, run.test.run_noted, StateT.run_bind, StateT.run_bind,
    h.events]
  rfl

end TestRun.Leads

/-- Induction on the tests, for every world that they may start from. Whatever was printed and noted
before them stays in front of what they add. -/
theorem exists_inTurn (environment : List (Action (StateM σ) Unit)) :
    (tests : List (Test (StateM σ) ρ)) → (w : σ) →
    ∃ runs w', runs.map TestRun.test = tests ∧ InTurn environment w runs w' ∧
      ∀ colors out,
        ((tests.mapM (Test.result colors environment)).run out).run w =
          ((runs.map TestRun.result, out ++ printed colors (runs.flatMap TestRun.lines)), w') ∧
        ∀ log, ((((tests.map Test.noted).mapM (Test.result colors (environment.map fun action =>
          action.noted (.initialized action)))).run out).run log).run w =
            (((runs.map TestRun.result, out ++ printed colors (runs.flatMap TestRun.lines)),
              log ++ runs.flatMap TestRun.events), w')
  | [], w => by
    refine ⟨[], w, rfl, .nil w, fun colors out => ?_⟩
    simp only [List.flatMap_nil, List.append_nil, printed_nil, String.append_empty]
    exact ⟨rfl, fun _ => rfl⟩
  | t :: tests, w => by
    obtain ⟨run, w', rfl, hleads⟩ := t.exists_leads environment w
    obtain ⟨runs, w'', htests, hturns, hruns⟩ := exists_inTurn environment tests w'
    refine ⟨run :: runs, w'', by rw [List.map_cons, htests], .cons hleads hturns,
      fun colors out => ?_⟩
    obtain ⟨hplain, hnoted⟩ := hruns colors (out ++ printed colors run.lines)
    simp only [List.flatMap_cons, printed_append, ← String.append_assoc]
    refine ⟨?_, fun log => ?_⟩
    · rw [List.mapM_cons, StateT.run_bind, StateT.run_bind, hleads.run_result]
      exact congrArg (fun p => ((run.result :: p.1.1, p.1.2), p.2)) hplain
    · rw [List.map_cons, List.mapM_cons, StateT.run_bind, StateT.run_bind, StateT.run_bind,
        hleads.run_result_noted, ← List.append_assoc]
      exact congrArg (fun p => (((run.result :: p.1.1.1, p.1.1.2), p.1.2), p.2))
        (hnoted (log ++ run.events))

namespace Suite

/-- All calls that tests of the suite would make if nothing failed. -/
def calls (s : Suite (StateM σ) ρ) : List (Call (StateM σ) ρ) :=
  s.tests.flatMap (·.plan s.environment)

/-- Whatever is called before, in this suite, the calls of the test are answered alike. -/
def Steady (s : Suite (StateM σ) ρ) (start : σ) (t : Test (StateM σ) ρ) : Prop :=
  ∀ call ∈ t.plan s.environment, call.Steady s.calls start

end Suite

theorem TestRun.Leads.reached {s : Suite (StateM σ) ρ} {run : TestRun σ ρ} {start w w' : σ}
    (h : run.Leads s.environment w w') (hmem : run.test ∈ s.tests)
    (hw : Reached s.calls start w) : Reached s.calls start w' := by
  have hkeeps : Keeps (Reached s.calls start) (run.test.transcript s.environment) :=
    (Composable.keeps _).transcript fun call hcall =>
      Call.has_keeps (List.mem_flatMap.mpr ⟨run.test, hmem, hcall⟩)
  have hw' := hkeeps w hw
  rwa [h.events] at hw'

/-- A test with steady collaborators takes the course that it would take alone. -/
theorem TestRun.Leads.alone {s : Suite (StateM σ) ρ} {run : TestRun σ ρ} {start w w' : σ}
    (h : run.Leads s.environment w w') (hmem : run.test ∈ s.tests)
    (hw : Reached s.calls start w) (hsteady : s.Steady start run.test) :
    ∃ w'', run.Leads s.environment start w'' := by
  have hsettled : Settled (Reached s.calls start) (run.test.transcript s.environment) :=
    (Composable.settled _).transcript fun call hcall =>
      (hsteady call hcall).has_settled (List.mem_flatMap.mpr ⟨run.test, hmem, hcall⟩)
  obtain ⟨_, record, hrecord⟩ := hsettled
  obtain ⟨other, w'', htest, hleads⟩ := run.test.exists_leads s.environment start
  -- both worlds are among those that calls can lead to, where there is one record only
  have hhere := hrecord w hw
  have halone := hrecord start .start
  rw [h.events] at hhere
  rw [← htest, hleads.events, ← hhere] at halone
  obtain ⟨test, outcome, events⟩ := run
  obtain ⟨_, outcome', events'⟩ := other
  simp only [Prod.mk.injEq] at htest halone
  obtain ⟨rfl, rfl⟩ := halone
  subst htest
  exact ⟨w'', hleads⟩

theorem InTurn.alone {s : Suite (StateM σ) ρ} {start : σ} {runs : List (TestRun σ ρ)} {w w' : σ}
    (h : InTurn s.environment w runs w') (hmem : ∀ run ∈ runs, run.test ∈ s.tests)
    (hw : Reached s.calls start w) :
    ∀ run ∈ runs, s.Steady start run.test → ∃ w'', run.Leads s.environment start w'' := by
  induction h with
  | nil => simp
  | cons hleads _ ih =>
    rw [List.forall_mem_cons] at hmem
    rw [List.forall_mem_cons]
    exact ⟨hleads.alone hmem.1 hw, ih hmem.2 (hleads.reached hmem.1 hw)⟩

end CaseSuite
