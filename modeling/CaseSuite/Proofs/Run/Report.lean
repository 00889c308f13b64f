import CaseSuite.Proofs.Run.Turns
/-!
What a whole run amounts to: its results, its code and its report are three views of the same runs
of tests, which follow each other and are otherwise independent.
-/
set_option autoImplicit false

namespace CaseSuite

variable {σ ρ : Type}

/-- The tests that failed, in the order of the run, each with the text of its failure. -/
def failedTests (runs : List (TestRun σ ρ)) : List (String × String) :=
  runs.filterMap fun run => run.message?.map (run.test.name, ·)

def closingLines (runs : List (TestRun σ ρ)) : List ReportLine :=
  match failedTests runs with
  | [] => [.allPassed runs.length]
  | failed => .failures failed.length ::
      failed.flatMap fun (name, failure) => [.failedTest name, .cause failure]

def reportLines : List (TestRun σ ρ) → List ReportLine
  | [] => [.nothingToRun]
  | runs => runs.flatMap TestRun.lines ++ closingLines runs

def summaryOf (runs : List (TestRun σ ρ)) : Summary := ⟨runs.map TestRun.result⟩

theorem failed_summaryOf (runs : List (TestRun σ ρ)) :
    (summaryOf runs).failed =
      (failedTests runs).map fun (name, failure) => ⟨name, false, some failure⟩ := by
  induction runs with
  | nil => rfl
  | cons run runs ih =>
    simp only [Summary.failed, summaryOf, failedTests] at ih ⊢
    cases h : run.outcome <;>
      simpa [TestRun.result, TestRun.message?, Test.resultOf, h] using ih

theorem failedTests_eq_nil {runs : List (TestRun σ ρ)} :
    failedTests runs = [] ↔ ∀ run ∈ runs, ∃ vars, run.outcome = .ok vars := by
  simp only [failedTests, List.filterMap_eq_nil_iff, Option.map_eq_none_iff,
    TestRun.message?_eq_none]

theorem passedCount_summaryOf {runs : List (TestRun σ ρ)} (h : failedTests runs = []) :
    (summaryOf runs).passedCount = runs.length := by
  rw [failedTests_eq_nil] at h
  rw [Summary.passedCount, summaryOf, List.filter_eq_self.mpr, List.length_map]
  rw [List.forall_mem_map]
  exact fun run hrun => run.tells_result.passed.mpr (h run hrun)

theorem closing_summaryOf (runs : List (TestRun σ ρ)) :
    (summaryOf runs).closing = closingLines runs := by
  rw [Summary.closing, failed_summaryOf, closingLines]
  cases h : failedTests runs with
  | nil => simp [passedCount_summaryOf h]
  | cons f failed => simp [TestResult.closing, List.flatMap_map]

theorem exitCode_summaryOf (runs : List (TestRun σ ρ)) :
    (summaryOf runs).exitCode =
      if runs = [] then 3 else if failedTests runs = [] then 0 else 2 := by
  rw [Summary.exitCode, failed_summaryOf]
  simp [summaryOf, Summary.codeNothingRun, Summary.codeAllPassed, Summary.codeFailures]

variable [Requester (StateM σ) ρ]

/-- A run of a suite in a world, put together from runs of its tests. -/
structure Suite.Composed (s : Suite (StateM σ) ρ) (w : σ) (runs : List (TestRun σ ρ))
    (summary : Summary) (w' : σ) : Prop where
  tests : runs.map TestRun.test = s.tests
  turns : InTurn s.environment w runs w'
  results : List.Forall₂ TestRun.Tells runs summary.results
  alone : ∀ run ∈ runs, s.Steady w run.test → ∃ w'', run.Leads s.environment w w''
  nothingRun : summary.exitCode = 3 ↔ s.tests = []
  failures : summary.exitCode = 2 ↔ ∃ run ∈ runs, ∃ failure, run.outcome = .error failure
  allPassed : summary.exitCode = 0 ↔
    s.tests ≠ [] ∧ ∀ run ∈ runs, ∃ vars, run.outcome = .ok vars

theorem InTurn.composed {s : Suite (StateM σ) ρ} {w w' : σ} {runs : List (TestRun σ ρ)}
    (htests : runs.map TestRun.test = s.tests) (h : InTurn s.environment w runs w') :
    s.Composed w runs (summaryOf runs) w' where
  tests := htests
  turns := h
  results := by
    rw [summaryOf, List.forall₂_map_right_iff, List.forall₂_same]
    exact fun run _ => run.tells_result
  alone := by
    refine h.alone (fun run hrun => ?_) .start
    rw [← htests]
    exact List.mem_map_of_mem hrun
  nothingRun := by
    rw [exitCode_summaryOf, ← htests, List.map_eq_nil_iff]
    split_ifs <;> simp_all
  failures := by
    have hfailed : (∃ run ∈ runs, ∃ failure, run.outcome = .error failure) ↔
        failedTests runs ≠ [] := by
      simp only [TestRun.failed_iff, ne_eq, failedTests_eq_nil, not_forall, exists_prop]
    rw [hfailed, exitCode_summaryOf]
    split_ifs <;> simp_all [failedTests]
  allPassed := by
    rw [exitCode_summaryOf, ← htests, ← failedTests_eq_nil, ne_eq, List.map_eq_nil_iff]
    split_ifs <;> simp_all

/-- A suite's run is the runs of its tests in turn: it gives their results and prints what they
amount to, and the calls made in it are theirs. -/
theorem Suite.exists_runs (s : Suite (StateM σ) ρ) (w : σ) :
    ∃ runs w', runs.map TestRun.test = s.tests ∧ InTurn s.environment w runs w' ∧
      ∀ colors,
        ((s.run colors).run "").run w =
          ((summaryOf runs, printed colors (reportLines runs)), w') ∧
        (s.transcript colors).run w = (((summaryOf runs, printed colors (reportLines runs)),
          runs.flatMap TestRun.events), w') := by
  obtain ⟨runs, w', htests, hturns, hruns⟩ := exists_inTurn s.environment s.tests w
  refine ⟨runs, w', htests, hturns, fun colors => ?_⟩
  obtain ⟨hplain, hnoted⟩ := hruns colors ""
  rw [transcript, Suite.run_run, Suite.run_run, noted]
  cases runs with
  | nil =>
    obtain rfl : w = w' := by cases hturns; rfl
    have hnone : s.tests = [] := htests.symm
    rw [if_pos hnone, if_pos (by simp [hnone]), String.empty_append, reportLines, printed_cons,
      printed_nil, String.append_empty]
    exact ⟨rfl, rfl⟩
  | cons run runs =>
    have hne : s.tests ≠ [] := by simp [← htests]
    have hout : "" ++ printed colors ((run :: runs).flatMap TestRun.lines) ++
        printed colors (summaryOf (run :: runs)).closing =
          printed colors (reportLines (run :: runs)) := by
      rw [closing_summaryOf, String.empty_append, reportLines, printed_append]
      simp
    rw [if_neg hne, if_neg (by simpa using hne), StateT.run_bind, StateT.run_bind, StateT.run_bind,
      hplain, hnoted, ← hout]
    exact ⟨rfl, rfl⟩

/-- Running a suite runs its tests in turn: each gives one result, which tells its outcome, and the
code and what is printed follow from these. A test whose collaborators answer alike whatever was
called before takes the course that it would take alone. -/
theorem Suite.run_inTurn (s : Suite (StateM σ) ρ) (w : σ) :
    ∃ runs summary w', s.Composed w runs summary w' ∧ ∀ colors,
      ((s.run colors).run "").run w = ((summary, printed colors (reportLines runs)), w') ∧
      (s.transcript colors).run w =
        (((summary, printed colors (reportLines runs)), runs.flatMap TestRun.events), w') := by
  obtain ⟨runs, w', htests, hturns, hruns⟩ := s.exists_runs w
  exact ⟨runs, summaryOf runs, w', hturns.composed htests, hruns⟩

/-- A request whose answer is there before it is sent. -/
structure CannedRequest where
  answer : Except Error Response

/-- The world counts the requests that were sent. -/
instance : Requester (StateM Nat) CannedRequest where
  join _ other := .ok other
  send request := ExceptT.mk do
    modify (· + 1)
    return request.answer

def cannedTest (name : String) (answer : Except Error Response) : Test (StateM Nat) CannedRequest :=
  ⟨name, [], [], ⟨answer⟩, .absent, some 200, none⟩

/-- A test that fails before one that passes. -/
def cannedSuite : Suite (StateM Nat) CannedRequest :=
  ⟨[cannedTest "users list" (.error (.request .noUrl)), cannedTest "users add" (.ok ⟨200, .empty⟩)],
    []⟩

theorem steady_cannedSuite (t : Test (StateM Nat) CannedRequest) (h : t ∈ cannedSuite.tests) :
    cannedSuite.Steady 0 t := by
  have hplan : t.plan cannedSuite.environment = [.send t.request] := by
    simp only [cannedSuite, List.mem_cons, List.not_mem_nil, or_false] at h
    obtain rfl | rfl := h <;> rfl
  rw [Suite.Steady, hplan, List.forall_mem_singleton]
  intro vars w _
  rfl

theorem run_inTurn_cannedSuite : ∃ runs summary output w',
    ((cannedSuite.run false).run "").run 0 = ((summary, output), w') ∧
    cannedSuite.Composed 0 runs summary w' ∧ output = printed false (reportLines runs) ∧
    summary.exitCode = 2 ∧ ∀ run ∈ runs, ∃ w'', run.Leads cannedSuite.environment 0 w'' := by
  obtain ⟨runs, summary, w', hcomposed, hruns⟩ := cannedSuite.run_inTurn 0
  obtain ⟨hrun, -⟩ := hruns false
  refine ⟨runs, summary, _, w', hrun, hcomposed, rfl, ?_, fun run hmem => ?_⟩
  · have hcode : (((cannedSuite.run false).run "").run 0).1.1.exitCode = 2 := by rfl
    rwa [hrun] at hcode
  · refine hcomposed.alone run hmem (steady_cannedSuite _ ?_)
    rw [← hcomposed.tests]
    exact List.mem_map_of_mem hmem

/-- A suite without tests is told apart in the report: neither closing is printed for it. -/
theorem report_without_tests : ∃ summary output w',
    (((Suite.mk [] [] : Suite (StateM Nat) CannedRequest).run false).run "").run 0 =
        ((summary, output), w') ∧
      (∀ n, output ≠ (ReportLine.allPassed n).text false) ∧
      ∀ n rest, output ≠ (ReportLine.failures n).text false ++ rest := by
  refine ⟨⟨[]⟩, ReportLine.nothingToRun.text false, 0, rfl, fun n h => ?_, fun n rest h => ?_⟩
  · have hchar := congrArg (fun s => s.toList[5]?) h
    simp [ReportLine.text, Tone.apply] at hchar
  · have hchar := congrArg (fun s => s.toList[0]?) h
    simp [ReportLine.text, Tone.apply] at hchar

end CaseSuite
