/-!
Places inside a value: the keys and indices that lead there, and their text in messages.
-/
set_option autoImplicit false

namespace CaseSuite

inductive Step where
  | key (name : String)
  | index (i : Nat)
  deriving DecidableEq, Repr

/-- The steps from the root to a place. -/
abbrev Place := List Step

namespace Place

/-- The text of a place one step further. -/
def extend (text : String) : Step → String
  | .key name => if text.isEmpty then name else s!"{text}.{name}"
  | .index i => s!"{text}[{i}]"

def text (p : Place) : String := p.foldl extend ""

/-- The text of a place; a place without text, such as the root, is a dollar sign. -/
def shown (p : Place) : String := if p.text.isEmpty then "$" else p.text

end Place

end CaseSuite
