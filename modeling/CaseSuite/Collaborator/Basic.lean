import CaseSuite.Config.Basic
import CaseSuite.Variables
/-!
What a test works with: requesters that ask the application, services that are prepared before the
request and checked after it, and initializers of the environment. They act in some monad.
-/
set_option autoImplicit false

namespace CaseSuite

structure Response where
  status : Nat
  body : ByteArray

/-- Acts on the world outside the suite and may fail. -/
abbrev Action (m : Type → Type) (α : Type) := ExceptT Error m α

/-- Holds the world outside against what is expected, and may save variables on the way. What was
saved stays when the check fails. -/
abbrev Check (m : Type → Type) := ExceptT Error (StateT VariableStore m) Unit

/-- Requests that can be laid over each other. -/
class Joinable (ρ : Type) where
  /-- The first request with everything that the second one sets. -/
  join : ρ → ρ → Except Error ρ

class Requester (m : Type → Type) (ρ : Type) extends Joinable ρ where
  send : ρ → Action m Response

/-- Builds the steps of a service from what a case says about it. -/
structure Service (m : Type → Type) where
  preparer : Value → Except Error (Action m Unit)
  checker : Value → Except Error (Check m)

/-- Where a service is declared: its name, and where its relative paths start. -/
structure ServiceContext where
  name : String
  baseDir : String

/-- The entries of a list; anything else but null is one entry. -/
def paramItems : Value → List Value
  | .list items => items
  | .null => []
  | single => [single]

end CaseSuite
