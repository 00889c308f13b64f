/-!
The results of a run, and the code that the program ends with after it.
-/
set_option autoImplicit false

namespace CaseSuite

/-- What came out of a test; the error is the text of its failure. -/
structure TestResult where
  name : String
  passed : Bool
  error : Option String
  deriving DecidableEq, Repr

/-- The results of a run, in its order. -/
structure Summary where
  results : List TestResult
  deriving DecidableEq, Repr

namespace Summary

variable (s : Summary)

def failed : List TestResult := s.results.filter (!·.passed)

def passedCount : Nat := (s.results.filter TestResult.passed).length

def codeAllPassed : Nat := 0

def codeFailures : Nat := 2

def codeNothingRun : Nat := 3

def exitCode : Nat :=
  if s.results.isEmpty then codeNothingRun
  else if s.failed.isEmpty then codeAllPassed
  else codeFailures

end Summary

end CaseSuite
