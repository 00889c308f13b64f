import CaseSuite.Command.Basic
import CaseSuite.Proofs.Run.Report
import CaseSuite.Proofs.Suite.Alike
/-!
Listing a suite and running it agree: both take the same way to the suite, so that they stop at the
same error or both have it, and what is listed is what is run.
-/
set_option autoImplicit false

namespace CaseSuite

/-- The test that the line announces. -/
def ReportLine.testName? : ReportLine → Option String
  | .test name => some name
  | _ => none

theorem TestRun.names_lines {σ ρ : Type} (run : TestRun σ ρ) :
    run.lines.filterMap ReportLine.testName? = [run.test.name] := by
  cases h : run.outcome <;> simp [TestRun.lines, Test.linesOf, h, ReportLine.testName?]

theorem names_closingLines {σ ρ : Type} (runs : List (TestRun σ ρ)) :
    (closingLines runs).filterMap ReportLine.testName? = [] := by
  rw [closingLines]
  cases failedTests runs with
  | nil => rfl
  | cons f failed =>
    refine List.filterMap_eq_nil_iff.mpr fun line hline => ?_
    simp only [List.mem_cons, List.mem_flatMap, List.not_mem_nil, or_false] at hline
    obtain rfl | ⟨_, _, rfl | rfl⟩ := hline <;> rfl

theorem names_reportLines {σ ρ : Type} (runs : List (TestRun σ ρ)) :
    (reportLines runs).filterMap ReportLine.testName? = runs.map (·.test.name) := by
  have hlines : (runs.flatMap TestRun.lines).filterMap ReportLine.testName? =
      runs.map (·.test.name) := by
    induction runs with
    | nil => rfl
    | cons run runs ih => simp [run.names_lines, ih]
  cases runs with
  | nil => rfl
  | cons run runs => simp only [reportLines, List.filterMap_append, hlines, names_closingLines,
      List.append_nil]

theorem Suite.length_environment {m : Type → Type} {ρ : Type} [Joinable ρ] {c : Config}
    {r : Registry m ρ} {suite : Suite m ρ} (h : ofConfig c r = .ok suite) :
    suite.environment.length = c.environment.length := by
  obtain ⟨_, _, henvironment, _⟩ := ofConfig_eq_ok.mp h
  exact (mapM_eq_ok.mp henvironment).length_eq.symm

namespace Command

/-- What is said of some runs of tests, by a list of the tests and by the report of the runs. -/
structure Consistent {σ : Type} (config : Config) (colors : Bool)
    (runs : List (TestRun σ GraphqlRequest)) (listed ran : Outcome) : Prop where
  report : ran.output = printed colors (reportLines runs)
  announced : (reportLines runs).filterMap ReportLine.testName? = runs.map (·.test.name)
  nothing : runs = [] → listed.exitCode = 3 ∧ ran.exitCode = 3
  list : runs ≠ [] → listed.exitCode = 0 ∧
    listed.output = String.join (runs.map (·.test.name ++ "\n")) ++
      s!"\n{runs.length} test(s), {config.environment.length} environment initializer(s)\n"
  run : runs ≠ [] → ran.exitCode = 0 ∨ ran.exitCode = 2
  passed : runs ≠ [] → (ran.exitCode = 0 ↔ ∀ run ∈ runs, ∃ vars, run.outcome = .ok vars)

variable {σ : Type} [Storage (StateM σ)]

theorem consistent {config : Config} {s : Suite (StateM σ) GraphqlRequest}
    {runs : List (TestRun σ GraphqlRequest)}
    (hs : Suite.ofConfig config (Registry.builtin id) = .ok s)
    (htests : runs.map TestRun.test = s.tests) (colors : Bool) :
    Consistent config colors runs (listSuite s)
      ⟨(summaryOf runs).exitCode, printed colors (reportLines runs), ""⟩ where
  report := rfl
  announced := names_reportLines runs
  nothing hruns := by
    rw [exitCode_summaryOf, if_pos hruns, listSuite, ← htests, hruns]
    exact ⟨rfl, rfl⟩
  list hruns := by
    have htests' : s.tests.isEmpty = false := by simpa [← htests] using hruns
    rw [listSuite, htests', ← Suite.length_environment hs, Suite.names, ← htests]
    simp [Function.comp_def]
  run hruns := by
    rw [exitCode_summaryOf, if_neg hruns]
    split_ifs <;> simp
  passed hruns := by
    rw [exitCode_summaryOf, if_neg hruns, ← failedTests_eq_nil]
    split_ifs <;> simp_all

variable [Http.Transport (StateM σ)]

/-- Listing a suite and running it end in the same error, with nothing done and nothing said, or
both have the suite: what is listed are the tests that are run, in their order. -/
theorem execute_list_run (colors : Bool) (d : Disk) (path : String) (verbose : Bool) (w : σ) :
    (∃ e, (Outcome.ofError e).output = "" ∧
      (execute colors d (.list path) : StateM σ _).run w = (.error e, w) ∧
      (execute colors d (.run path verbose) : StateM σ _).run w = (.error e, w)) ∨
    ∃ config s listed ran runs w', Config.load d path = .ok config ∧
      Suite.ofConfig config (Registry.builtin (m := StateM σ) id) = .ok s ∧
      (execute colors d (.list path) : StateM σ _).run w = (.ok listed, w) ∧
      (execute colors d (.run path verbose) : StateM σ _).run w = (.ok ran, w') ∧
      runs.map TestRun.test = s.tests ∧ InTurn s.environment w runs w' ∧
      Consistent config colors runs listed ran := by
  cases hsuite : suite (m := StateM σ) d path with
  | error e =>
    left
    refine ⟨e, rfl, ?_, ?_⟩
    · unfold execute
      simp only [hsuite]
      rfl
    · unfold execute
      simp only [hsuite]
      rfl
  | ok s =>
    right
    obtain ⟨config, hload, hs⟩ := bind_eq_ok.mp hsuite
    obtain ⟨runs, w', htests, hturns, hruns⟩ := s.exists_runs w
    obtain ⟨hrun, -⟩ := hruns colors
    refine ⟨config, s, listSuite s, _, runs, w', hload, hs, ?_, ?_, htests, hturns,
      consistent hs htests colors⟩
    · unfold execute
      simp only [hsuite]
      rfl
    · unfold execute
      simp only [hsuite, runSuite, StateT.run_map, StateT.run_bind, hrun]
      rfl

end Command

end CaseSuite
