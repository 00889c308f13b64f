import CaseSuite.Suite.Run
import Mathlib.Control.Lawful
/-!
What is printed while tests run. A line is put after what stands there already, so that the output
of a run is its lines one after the other.
-/
set_option autoImplicit false

namespace CaseSuite

@[simp] theorem printed_nil (colors : Bool) : printed colors [] = "" := rfl

@[simp] theorem printed_cons (colors : Bool) (line : ReportLine) (lines : List ReportLine) :
    printed colors (line :: lines) = line.text colors ++ printed colors lines := by
  simp [printed]

@[simp] theorem printed_append (colors : Bool) (lines more : List ReportLine) :
    printed colors (lines ++ more) = printed colors lines ++ printed colors more := by
  simp [printed]

def Test.resultOf (name : String) : Except Failure VariableStore → TestResult
  | .ok _ => ⟨name, true, none⟩
  | .error failure => ⟨name, false, some failure.message⟩

def Test.linesOf (name : String) : Except Failure VariableStore → List ReportLine
  | .ok _ => [.test name, .passed]
  | .error failure => [.test name, .failed failure.message]

section

variable {m : Type → Type} {ρ : Type} [Monad m] (colors : Bool) (out : String)

@[simp] theorem ReportLine.run_print (line : ReportLine) :
    (line.print colors : StateT String m Unit).run out = pure ((), out ++ line.text colors) := rfl

variable [LawfulMonad m]

theorem run_forM_print (lines : List ReportLine) :
    (forM lines (ReportLine.print colors) : StateT String m Unit).run out =
      pure ((), out ++ printed colors lines) := by
  induction lines generalizing out with
  | nil => simp
  | cons line lines ih =>
    rw [List.forM_cons, StateT.run_bind, line.run_print, pure_bind, ih, printed_cons,
      String.append_assoc]

variable [Requester m ρ]

theorem Test.run_result (t : Test m ρ) (environment : List (Action m Unit)) :
    (t.result colors environment).run out = do
      let outcome ← (t.run environment).run
      return (resultOf t.name outcome, out ++ printed colors (linesOf t.name outcome)) := by
  simp only [result, StateT.run_bind, ReportLine.run_print, pure_bind, StateT.run_lift, bind_assoc]
  congr 1
  funext outcome
  cases outcome with
  | ok vars => simp [resultOf, linesOf, String.append_assoc]
  | error failure => simp [resultOf, linesOf, String.append_assoc]

theorem Suite.run_run (s : Suite m ρ) :
    (s.run colors).run out =
      if s.tests = [] then pure (⟨[]⟩, out ++ ReportLine.nothingToRun.text colors)
      else do
        let (results, out) ← (s.tests.mapM (Test.result colors s.environment)).run out
        return (⟨results⟩, out ++ printed colors (Summary.closing ⟨results⟩)) := by
  by_cases hempty : s.tests = []
  · simp [run, hempty]
  · simp only [run, hempty, List.isEmpty_iff, if_false, StateT.run_bind, pure_bind,
      List.forM_eq_forM, run_forM_print, StateT.run_pure]

end

end CaseSuite
