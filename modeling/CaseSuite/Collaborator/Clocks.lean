import CaseSuite.Error
import CaseSuite.Value
/-!
The pinned clock: the instant that the application under test is meant to see.
-/
set_option autoImplicit false

namespace CaseSuite

structure PinnedClock where
  time : Instant

/-- The clock that a text in the layout of instants pins. -/
def PinnedClock.read (params : Value) : Except Error PinnedClock :=
  match params with
  | .str s =>
    if s.isEmpty then .error (.config (.clocksNotText params.display))
    else match Instant.read s with
      | some t => .ok ⟨t⟩
      | none => .error (.config (.clocksLayout s))
  | params => .error (.config (.clocksNotText params.display))

end CaseSuite
