import CaseSuite.Suite.Summary
import CaseSuite.Text.Quoted
/-!
The lines that are printed about a run: two for each test, and at the end how many passed, or which
failed and why. Terminals can show them in colours.
-/
set_option autoImplicit false

namespace CaseSuite

/-- How a piece of the report stands out. -/
inductive Tone where
  | faint
  | strong
  | good
  | bad
  | caution
  | title
  | veryGood
  | veryBad

namespace Tone

/-- What starts a tone on a terminal. -/
def start : Tone → String
  | .faint => "\x1b[2m"
  | .strong => "\x1b[1m"
  | .good => "\x1b[32m"
  | .bad => "\x1b[31m"
  | .caution => "\x1b[33m"
  | .title => "\x1b[36m"
  | .veryGood => "\x1b[1;32m"
  | .veryBad => "\x1b[1;31m"

def stop : String := "\x1b[0m"

/-- The text in a tone; where the text itself ends tones, the tone starts again. -/
def apply (colors : Bool) (tone : Tone) (text : String) : String :=
  if colors then tone.start ++ text.replace stop (stop ++ tone.start) ++ stop else text

end Tone

inductive ReportLine where
  | test (name : String)
  | passed
  | failed (failure : String)
  | allPassed (count : Nat)
  | failures (count : Nat)
  | failedTest (name : String)
  | cause (failure : String)
  | nothingToRun

def ReportLine.text (colors : Bool) : ReportLine → String
  | .test name => Tone.faint.apply colors "----" ++ " " ++ Tone.strong.apply colors name ++ "\n"
  | .passed => Tone.good.apply colors "====> test passed" ++ "\n"
  | .failed failure => Tone.bad.apply colors "====> test failed:" ++ " " ++ failure ++ "\n"
  | .allPassed count =>
    Tone.veryGood.apply colors "==== all tests passed" ++ s!" ({count} passed)\n"
  | .failures count => "\n" ++ Tone.veryBad.apply colors s!"{count} test(s) failed" ++ "\n"
  | .failedTest name => Tone.bad.apply colors ("==== #" ++ Text.quoted name) ++ "\n"
  | .cause failure => failure ++ "\n"
  | .nothingToRun => Tone.caution.apply colors "==== no tests to run" ++ "\n"

def printed (colors : Bool) (lines : List ReportLine) : String :=
  String.join (lines.map (ReportLine.text colors))

/-- The lines at the end about a test that failed. -/
def TestResult.closing (r : TestResult) : List ReportLine :=
  .failedTest r.name :: (r.error.map ReportLine.cause).toList

/-- The lines after those about single tests. -/
def Summary.closing (s : Summary) : List ReportLine :=
  if s.failed.isEmpty then [.allPassed s.passedCount]
  else .failures s.failed.length :: s.failed.flatMap TestResult.closing

end CaseSuite
