import CaseSuite.Collaborator.Basic
/-!
Suites that are ready to run: a flat list of tests, each with everything that it works with, and
the initializers that come before every test.
-/
set_option autoImplicit false

namespace CaseSuite

structure Test (m : Type → Type) (ρ : Type) where
  /-- The names on the way to the case. -/
  name : String
  /-- Steps before the request; those of outer cases come first. -/
  preparers : List (Action m Unit)
  /-- Steps after the response; those of outer cases come first. -/
  checkers : List (Check m)
  request : ρ
  expectedResponse : ExpectedResponse
  expectedCode : Option Nat
  saveResponseTo : Option String

structure Suite (m : Type → Type) (ρ : Type) where
  tests : List (Test m ρ)
  environment : List (Action m Unit)

def Suite.names {m : Type → Type} {ρ : Type} (s : Suite m ρ) : List String :=
  s.tests.map Test.name

end CaseSuite
