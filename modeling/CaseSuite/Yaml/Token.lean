import CaseSuite.Yaml.Lexeme
/-!
Tokens of a YAML stream. Blocks open and close by indentation, and a token that a colon turns into
a key gets its key token before it, so a token is handed on only when no colon can reach it any
more. A fault in the stream loses the tokens that were still waiting.
-/
set_option autoImplicit false

namespace CaseSuite.Yaml

inductive Style where
  | plain
  | singleQuoted
  | doubleQuoted
  | literal
  | folded
  deriving DecidableEq, Repr

inductive Token where
  | streamEnd
  | directive (d : Directive)
  | documentStart
  | documentEnd
  | blockSequence
  | blockMapping
  | blockEnd
  | flowSequence
  | flowSequenceEnd
  | flowMapping
  | flowMappingEnd
  | entry
  | comma
  | key
  | value
  | alias (name : String)
  | anchor (name : String)
  | tag (t : TagName)
  | scalar (text : String) (style : Style)
  deriving DecidableEq, Repr

/-- A place where a key may turn out to have begun: the number of its first token and the place.
A required one must be followed by its colon. -/
structure KeyPlace where
  token : Nat
  required : Bool
  index : Nat
  line : Nat
  column : Nat

/-- The scanner: tokens before `taken` are handed on, `waiting` come next. `keys` holds one place
for every open flow collection and one for the block around them, innermost first; `indents` the
indentations of the open blocks, innermost first. -/
structure Scanner where
  cursor : Cursor
  taken : Nat
  waiting : List Token
  keys : List (Option KeyPlace)
  indents : List Int
  keyAllowed : Bool
  ended : Bool

namespace Scanner

def start (cs : List Char) : Scanner := ⟨.start cs, 0, [], [none], [], true, false⟩

def flow (s : Scanner) : Bool := 1 < s.keys.length

/-- The indentation of the innermost block; outside all blocks it is -1. -/
def indent (s : Scanner) : Int := s.indents.head?.getD (-1)

def push (s : Scanner) (t : Token) : Scanner := { s with waiting := s.waiting ++ [t] }

def insertAt (s : Scanner) (number : Nat) (t : Token) : Scanner :=
  let n := number - s.taken
  { s with waiting := s.waiting.take n ++ t :: s.waiting.drop n }

def skip (n : Nat) (s : Scanner) : Scanner := { s with cursor := s.cursor.skip n }

def allowKey (allowed : Bool) (s : Scanner) : Scanner := { s with keyAllowed := allowed }

/-- Whether a key that began there can no longer be one: it must end on its line and within 1024
characters. -/
def isStale (s : Scanner) (k : KeyPlace) : Bool :=
  k.line < s.cursor.line || k.index + 1024 < s.cursor.index

/-- Drops the places where no key can be any more; none of them may be required. -/
def dropStale (s : Scanner) : Option Scanner := do
  let keys ← s.keys.mapM fun key =>
    match key with
    | some k => if s.isStale k then (if k.required then none else some none) else some key
    | none => some none
  return { s with keys }

/-- Drops the innermost place; it must not be required. -/
def dropKey (s : Scanner) : Option Scanner :=
  match s.keys with
  | some k :: keys => if k.required then none else some { s with keys := none :: keys }
  | _ => some s

/-- Notes that a key may begin here. -/
def saveKey (s : Scanner) : Option Scanner :=
  if s.keyAllowed then do
    let required := !s.flow && s.indent == s.cursor.column
    let s ← s.dropKey
    let place : KeyPlace :=
      ⟨s.taken + s.waiting.length, required, s.cursor.index, s.cursor.line, s.cursor.column⟩
    return { s with keys := some place :: s.keys.drop 1 }
  else some s

/-- Opens a block at a column if it lies deeper; its token goes to the end of the queue or before
the token with the given number. -/
def openBlock (s : Scanner) (column : Nat) (before : Option Nat) (t : Token) : Scanner :=
  if !s.flow && s.indent < column then
    let s := { s with indents := (column : Int) :: s.indents }
    match before with
    | none => s.push t
    | some n => s.insertAt n t
  else s

/-- Closes the blocks that are deeper than the column. -/
def closeBlocks (column : Int) (s : Scanner) : Scanner :=
  if s.flow then s
  else
    let deeper := s.indents.takeWhile fun i => column < i
    { s with
      indents := s.indents.dropWhile fun i => column < i
      waiting := s.waiting ++ deeper.map fun _ => .blockEnd }

/-- Past blanks, comments and line ends. `lines` bounds the line ends by what is left. -/
def toNext : (lines : Nat) → Scanner → Scanner
  | 0, s => s
  | lines + 1, s =>
    let c := if s.cursor.column == 0 && s.cursor.at? '\ufeff' then s.cursor.step else s.cursor
    let c := c.skipWhile fun ch => ch == ' ' || (ch == '\t' && (s.flow || !s.keyAllowed))
    let c := if c.at? '#' then c.skipWhile fun ch => !isBreak ch else c
    match c.peek with
    | some ch =>
      if isBreak ch then
        toNext lines { s with cursor := c.step, keyAllowed := s.keyAllowed || !s.flow }
      else { s with cursor := c }
    | none => { s with cursor := c }

def endStream (s : Scanner) : Option Scanner := do
  let c := s.cursor
  let c := if c.column == 0 then c else { c with line := c.line + 1, column := 0 }
  let s ← ({ s with cursor := c }.closeBlocks (-1)).dropKey
  return ({ s with ended := true }.allowKey false).push .streamEnd

def fetchDirective (s : Scanner) : Option Scanner := do
  let s ← (s.closeBlocks (-1)).dropKey
  let (d, c) ← readDirective s.cursor
  return ({ s with cursor := c }.allowKey false).push (.directive d)

def fetchDocumentMark (t : Token) (s : Scanner) : Option Scanner := do
  let s ← (s.closeBlocks (-1)).dropKey
  return ((s.allowKey false).skip 3).push t

def openFlow (t : Token) (s : Scanner) : Option Scanner := do
  let s ← s.saveKey
  return (({ s with keys := none :: s.keys }.allowKey true).skip 1).push t

def closeFlow (t : Token) (s : Scanner) : Option Scanner := do
  let s ← s.dropKey
  let s := if s.flow then { s with keys := s.keys.drop 1 } else s
  return ((s.allowKey false).skip 1).push t

def fetchComma (s : Scanner) : Option Scanner := do
  let s ← s.dropKey
  return ((s.allowKey true).skip 1).push .comma

def fetchEntry (s : Scanner) : Option Scanner := do
  if !s.flow && !s.keyAllowed then none
  else
    let s := s.openBlock s.cursor.column none .blockSequence
    let s ← s.dropKey
    return ((s.allowKey true).skip 1).push .entry

def fetchKey (s : Scanner) : Option Scanner := do
  if !s.flow && !s.keyAllowed then none
  else
    let s := s.openBlock s.cursor.column none .blockMapping
    let s ← s.dropKey
    return ((s.allowKey (!s.flow)).skip 1).push .key

def fetchValue (s : Scanner) : Option Scanner :=
  match s.keys with
  | some k :: keys =>
    let s := s.insertAt k.token .key
    let s := s.openBlock k.column (some k.token) .blockMapping
    some ((({ s with keys := none :: keys }.allowKey false).skip 1).push .value)
  | _ =>
    if !s.flow && !s.keyAllowed then none
    else
      let s := s.openBlock s.cursor.column none .blockMapping
      some (((s.allowKey (!s.flow)).skip 1).push .value)

/-- A lexeme at which a key may begin. -/
def fetchLexeme {α : Type} (read : Scanner → Option (α × Cursor)) (token : α → Token)
    (s : Scanner) : Option Scanner := do
  let s ← s.saveKey
  let (a, c) ← read s
  return ({ s with cursor := c }.allowKey false).push (token a)

def fetchPlain (s : Scanner) : Option Scanner := do
  let s ← s.saveKey
  let ((text, broken), c) ← readPlain s.flow (s.indent + 1) s.cursor
  return ({ s with cursor := c }.allowKey broken).push (.scalar (String.ofList text) .plain)

def fetchBlockScalar (literal : Bool) (s : Scanner) : Option Scanner := do
  let s ← s.dropKey
  let (text, c) ← readBlock literal s.indent s.cursor
  return ({ s with cursor := c }.allowKey true).push
    (.scalar (String.ofList text) (if literal then .literal else .folded))

/-- Indicators that no plain scalar starts with. -/
def isIndicator (c : Char) : Bool :=
  ['-', '?', ':', ',', '[', ']', '\x7b', '\x7d', '#', '&', '*', '!', '|', '>', '\'', '"', '%', '@',
    '\x60'].contains c

/-- The next token or tokens of the stream. -/
def fetch (s : Scanner) : Option Scanner := do
  let s ← (s.toNext (s.cursor.rest.length + 1)).dropStale
  let s := s.closeBlocks s.cursor.column
  let next := s.cursor.peekAt 1
  match s.cursor.peek with
  | none => s.endStream
  | some c =>
    if s.cursor.column == 0 && c == '%' then s.fetchDirective
    else if s.cursor.column == 0 && isMarkLine '-' s.cursor.rest then
      s.fetchDocumentMark .documentStart
    else if s.cursor.column == 0 && isMarkLine '.' s.cursor.rest then
      s.fetchDocumentMark .documentEnd
    else if c == '[' then s.openFlow .flowSequence
    else if c == '\x7b' then s.openFlow .flowMapping
    else if c == ']' then s.closeFlow .flowSequenceEnd
    else if c == '\x7d' then s.closeFlow .flowMappingEnd
    else if c == ',' then s.fetchComma
    else if c == '-' && isGap next then s.fetchEntry
    else if c == '?' && (s.flow || isGap next) then s.fetchKey
    else if c == ':' && (s.flow || isGap next) then s.fetchValue
    else if c == '*' then s.fetchLexeme (fun s => readAnchor s.cursor) .alias
    else if c == '&' then s.fetchLexeme (fun s => readAnchor s.cursor) .anchor
    else if c == '!' then s.fetchLexeme (fun s => readTag s.flow s.cursor) .tag
    else if c == '|' && !s.flow then s.fetchBlockScalar true
    else if c == '>' && !s.flow then s.fetchBlockScalar false
    else if c == '\'' then
      s.fetchLexeme (fun s => readQuoted true s.cursor)
        fun text => .scalar (String.ofList text) .singleQuoted
    else if c == '"' then
      s.fetchLexeme (fun s => readQuoted false s.cursor)
        fun text => .scalar (String.ofList text) .doubleQuoted
    else if !(isSpace c || isBreak c || isIndicator c) ||
        (c == '-' && !(next.map isSpace).getD false) ||
        (!s.flow && (c == '?' || c == ':') && !isGap next) then
      s.fetchPlain
    else none

/-- Whether a colon may still turn the first waiting token into a key. -/
def isHeld (s : Scanner) : Bool :=
  s.keys.any fun key => match key with
    | some k => k.token == s.taken
    | none => false

/-- Hands on the tokens that nothing can come before any more; nothing if a fault shows. -/
def release (s : Scanner) : (waiting : List Token) → List Token × Option Scanner
  | [] => ([], some { s with waiting := [] })
  | t :: waiting =>
    match ({ s with waiting := t :: waiting }).dropStale with
    | none => ([], none)
    | some s =>
      if s.isHeld then ([], some { s with waiting := t :: waiting })
      else
        let (out, s) := release { s with taken := s.taken + 1 } waiting
        (t :: out, s)

/-- All tokens that come before the end or a fault. `steps` bounds the fetches by the characters. -/
def run : (steps : Nat) → Scanner → List Token
  | 0, _ => []
  | steps + 1, s =>
    match s.fetch with
    | none => []
    | some s =>
      let (out, s) := s.release s.waiting
      out ++ match s with
        | none => []
        | some s => if s.ended then [] else run steps s

end Scanner

/-- The tokens of a stream, up to its end or its first fault. Without a fault the last one is the
end of the stream. -/
def Token.scan (text : String) : List Token :=
  if text.toList.all isAllowed then
    let cs := text.toList
    let cs := match cs with
      | '\ufeff' :: rest => rest
      | _ => cs
    (Scanner.start (normalLines cs)).run (cs.length + 2)
  else []

end CaseSuite.Yaml
