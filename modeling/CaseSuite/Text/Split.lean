/-!
Texts as parts between separators. A text has one part more than it has separators.
-/
set_option autoImplicit false

namespace CaseSuite.Text

def split (separator : Char) : List Char → List (List Char)
  | [] => [[]]
  | c :: cs =>
    if c == separator then [] :: split separator cs
    else match split separator cs with
      | part :: parts => (c :: part) :: parts
      | [] => [[c]]

def join (separator : Char) : List (List Char) → List Char
  | [] => []
  | [part] => part
  | part :: parts => part ++ separator :: join separator parts

end CaseSuite.Text
