import CaseSuite.Entries
/-!
JSON documents. Numbers are 64-bit integers or floats; an object lists its members in rising order
of their keys.
-/
set_option autoImplicit false

namespace CaseSuite

inductive Json where
  | null
  | bool (b : Bool)
  | int (n : Int64)
  | float (x : Float)
  | str (s : String)
  | list (items : List Json)
  | object (members : List (String × Json))

end CaseSuite
