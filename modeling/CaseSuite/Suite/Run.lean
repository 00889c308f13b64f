import CaseSuite.Suite.Report
import CaseSuite.Suite.Verdict
/-!
Running a whole suite, test after test. What happens is printed as it happens: the name of a test
before it runs, what came out of it after that, and a closing at the end. A failing test is
recorded, and the run goes on.
-/
set_option autoImplicit false

namespace CaseSuite

variable {m : Type → Type} {ρ : Type} [Monad m] (colors : Bool)

/-- Prints a line after what has been printed so far. -/
def ReportLine.print (line : ReportLine) : StateT String m Unit :=
  modify (· ++ line.text colors)

variable [Requester m ρ]

def Test.result (environment : List (Action m Unit)) (t : Test m ρ) :
    StateT String m TestResult := do
  (ReportLine.test t.name).print colors
  match ← StateT.lift (t.run environment).run with
  | .ok _ =>
    ReportLine.passed.print colors
    return ⟨t.name, true, none⟩
  | .error failure =>
    (ReportLine.failed failure.message).print colors
    return ⟨t.name, false, some failure.message⟩

def Suite.run (s : Suite m ρ) : StateT String m Summary := do
  if s.tests.isEmpty then
    ReportLine.nothingToRun.print colors
    return ⟨[]⟩
  let summary := Summary.mk (← s.tests.mapM (Test.result colors s.environment))
  summary.closing.forM (ReportLine.print colors)
  return summary

end CaseSuite
