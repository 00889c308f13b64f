/-!
A place in a YAML stream: what is left, and where it starts. Line ends are normalised before; the
two Unicode separators also end a line.
-/
set_option autoImplicit false

namespace CaseSuite.Yaml

/-- Characters that a stream may hold. -/
def isAllowed (c : Char) : Bool :=
  let n := c.toNat
  n == 0x9 || n == 0xa || n == 0xd || (0x20 ≤ n && n ≤ 0x7e) || n == 0x85 ||
    (0xa0 ≤ n && n ≤ 0xd7ff) || (0xe000 ≤ n && n ≤ 0xfffd) || 0x10000 ≤ n

/-- Every way to end a line, as a line feed. -/
def normalLines : List Char → List Char
  | '\r' :: '\n' :: cs => '\n' :: normalLines cs
  | '\r' :: cs => '\n' :: normalLines cs
  | '\u0085' :: cs => '\n' :: normalLines cs
  | c :: cs => c :: normalLines cs
  | [] => []

def isBreak (c : Char) : Bool := c == '\n' || c == '\u2028' || c == '\u2029'

def isSpace (c : Char) : Bool := c == ' ' || c == '\t'

def isNameChar (c : Char) : Bool := c.isAlphanum || c == '_' || c == '-'

def isFlowEnd (c : Char) : Bool :=
  c == ',' || c == '[' || c == ']' || c == '\x7b' || c == '\x7d'

/-- The end of the stream, of the line, or a space. -/
def isGap : Option Char → Bool
  | none => true
  | some c => isSpace c || isBreak c

structure Cursor where
  rest : List Char
  index : Nat
  line : Nat
  column : Nat
  deriving Repr

namespace Cursor

def start (cs : List Char) : Cursor := ⟨cs, 0, 0, 0⟩

def step (c : Cursor) : Cursor :=
  match c.rest with
  | [] => c
  | ch :: rest =>
    if isBreak ch then ⟨rest, c.index + 1, c.line + 1, 0⟩
    else ⟨rest, c.index + 1, c.line, c.column + 1⟩

def skip : Nat → Cursor → Cursor
  | 0, c => c
  | n + 1, c => skip n c.step

def skipWhile (p : Char → Bool) (c : Cursor) : Cursor := c.skip (c.rest.takeWhile p).length

/-- The place where only `rest` is left. -/
def upTo (c : Cursor) (rest : List Char) : Cursor := c.skip (c.rest.length - rest.length)

def peek (c : Cursor) : Option Char := c.rest.head?

def peekAt (c : Cursor) (n : Nat) : Option Char := c.rest[n]?

def at? (c : Cursor) (ch : Char) : Bool := c.peek == some ch

end Cursor

/-- Three of the mark and a gap: the line begins or ends a document. -/
def isMarkLine (mark : Char) : List Char → Bool
  | a :: b :: c :: rest => a == mark && b == mark && c == mark && isGap rest.head?
  | _ => false

def isDocumentLine (cs : List Char) : Bool := isMarkLine '-' cs || isMarkLine '.' cs

end CaseSuite.Yaml
