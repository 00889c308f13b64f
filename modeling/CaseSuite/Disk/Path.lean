import CaseSuite.Text.Split
/-!
Paths as texts: names with slashes between them. An absolute path starts with a slash, and one that
ends with a slash stands for a directory.
-/
set_option autoImplicit false

namespace CaseSuite.Path

def isAbsolute (path : String) : Bool := path.toList.head? == some '/'

def endsWithSlash (path : String) : Bool := path.toList.getLast? == some '/'

/-- The path that another one leads to from a base; an absolute one leads to itself. -/
def join (base path : String) : String :=
  if isAbsolute path then path
  else if base.isEmpty || endsWithSlash base then base ++ path
  else s!"{base}/{path}"

/-- Segments that lead nowhere: what is between two slashes, and a dot. -/
def isIdle (segment : List Char) : Bool := segment.isEmpty || segment == ['.']

def dropIdleEnd (segments : List (List Char)) : List (List Char) :=
  (segments.reverse.dropWhile isIdle).reverse

/-- The path without its last name and the idle segments around that; none if it has no name. -/
def parent? (path : String) : Option String :=
  let segments := Text.split '/' path.toList
  let start := (segments.take 1).filter isIdle
  match dropIdleEnd (segments.drop start.length) with
  | [] => if start == [['.']] then some "" else none
  | body =>
    let body := dropIdleEnd body.dropLast
    if start == [[]] && body.isEmpty then some "/"
    else some (String.ofList (Text.join '/' (start ++ body)))

/-- The path and the paths above it, at most as many as `limit`. -/
def upward : (limit : Nat) → String → List String
  | 0, _ => []
  | limit + 1, path =>
    path :: match parent? path with
      | some above => upward limit above
      | none => []

def selfAndAbove (path : String) : List String := upward (path.length + 1) path

/-- The names that a path goes through; a last slash is one more step, onto a directory itself. -/
def steps (path : String) : List String :=
  let names := ((Text.split '/' path.toList).filter (!·.isEmpty)).map String.ofList
  if endsWithSlash path then names ++ ["."] else names

/-- What follows the last dot of a name, unless the dot starts the name. -/
def extension? (name : String) : Option String :=
  match (Text.split '.' name.toList).reverse with
  | [] | [_] | [_, []] => none
  | after :: _ => some (String.ofList after)

end CaseSuite.Path
