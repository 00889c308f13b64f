import CaseSuite.Text.Class
/-!
Markers in text: two opening braces, the path of a variable, a helper after a bar if one is wanted,
and two closing braces, with blanks between them. A text is cut into its markers and the characters
around them, from left to right.
-/
set_option autoImplicit false

namespace CaseSuite

structure Marker where
  path : String
  helper : Option String
  deriving DecidableEq, Repr

namespace Marker

def isPathChar (c : Char) : Bool := Text.isWord c || c == '.'

/-- A non-empty run of characters of a class, and what comes after it. -/
def readRun (p : Char → Bool) (cs : List Char) : Option (List Char × List Char) :=
  let run := cs.takeWhile p
  if run.isEmpty then none else some (run, cs.dropWhile p)

def skipBlanks (cs : List Char) : List Char := cs.dropWhile Text.isBlank

/-- A bar and the name of a helper; without a bar there is none. -/
def readHelper : List Char → Option (Option String × List Char)
  | '|' :: cs =>
    (readRun Text.isWord (skipBlanks cs)).map fun (name, rest) =>
      (some (String.ofList name), skipBlanks rest)
  | cs => some (none, cs)

def readEnd : List Char → Option (List Char)
  | '\x7d' :: '\x7d' :: rest => some rest
  | _ => none

/-- A marker at the start of a text, and what comes after it. -/
def read : List Char → Option (Marker × List Char)
  | '\x7b' :: '\x7b' :: cs => do
    let (path, cs) ← readRun isPathChar (skipBlanks cs)
    let (helper, cs) ← readHelper (skipBlanks cs)
    let rest ← readEnd cs
    return (⟨String.ofList path, helper⟩, rest)
  | _ => none

end Marker

inductive Piece where
  | char (c : Char)
  | marker (m : Marker)
  deriving DecidableEq, Repr

/-- The pieces of a text after `skip` more characters of a marker that is already read. -/
def piecesAfter : (skip : Nat) → List Char → List Piece
  | _, [] => []
  | skip + 1, _ :: cs => piecesAfter skip cs
  | 0, c :: cs =>
    match Marker.read (c :: cs) with
    | some (m, rest) => .marker m :: piecesAfter (cs.length - rest.length) cs
    | none => .char c :: piecesAfter 0 cs

/-- The pieces of a text: its leftmost markers that do not overlap, and all else by character. -/
def pieces (s : String) : List Piece := piecesAfter 0 s.toList

end CaseSuite
