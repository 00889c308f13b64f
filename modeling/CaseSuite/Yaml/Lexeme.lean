import CaseSuite.Yaml.Cursor
import CaseSuite.Decimal.Read
/-!
The lexemes of YAML that hold text: scalars of every style, anchors, tags and directives. Each
reader starts at its lexeme and answers with its content and the place after it, or with nothing
where the lexeme is malformed.
-/
set_option autoImplicit false

namespace CaseSuite.Yaml

/-- Blanks and line ends met inside a scalar and not yet known to belong to it. `lead` is the first
line end; inside double quotes it may be escaped and then leaves no text. -/
structure Gap where
  spaces : List Char
  lead : Option (Option Char)
  more : List Char

namespace Gap

def none : Gap := ⟨[], .none, []⟩

def isBroken (g : Gap) : Bool := g.lead.isSome

/-- With one more blank; blanks after a line end are dropped. -/
def addSpace (g : Gap) (c : Char) : Gap :=
  if g.isBroken then g else { g with spaces := g.spaces ++ [c] }

def addBreak (g : Gap) (c : Char) : Gap :=
  match g.lead with
  | .none => ⟨[], some (some c), g.more⟩
  | some _ => { g with more := g.more ++ [c] }

/-- The text that the gap stands for between two words: a single line end is a space. -/
def text (g : Gap) : List Char :=
  match g.lead with
  | .none => g.spaces
  | some (some '\n') => if g.more.isEmpty then [' '] else g.more
  | some (some c) => c :: g.more
  | some .none => g.more

end Gap

/-- Whether a plain scalar stops before this character. -/
def endsPlain (flow : Bool) (c : Char) (next : Option Char) : Bool :=
  (c == ':' && isGap next) || (flow && isFlowEnd c)

/-- Whether a colon in flow style stands where it can neither belong to a scalar nor end it. -/
def isStrayColon (flow : Bool) (c : Char) (next : Option Char) : Bool :=
  flow && c == ':' && match next with
    | some n => isFlowEnd n || n == '?'
    | none => false

/-- A plain scalar from here on. `fresh` tells that blanks or the start are just before, `gap` holds
those blanks. Answers the text, last character first, whether a line end came after it, and the
rest. -/
def plainText (flow : Bool) (indent : Int) (column : Nat) (fresh first : Bool) (gap : Gap)
    (out : List Char) : List Char → Option (List Char × Bool × List Char)
  | [] => some (out, gap.isBroken, [])
  | c :: rest =>
    if isBreak c then plainText flow indent 0 true false (gap.addBreak c) out rest
    else if isSpace c then
      if gap.isBroken && column < indent && c == '\t' then none
      else plainText flow indent (column + 1) true false (gap.addSpace c) out rest
    else if fresh && ((!first && !flow && column < indent) ||
        (column == 0 && isDocumentLine (c :: rest)) || c == '#') then
      some (out, gap.isBroken, c :: rest)
    else if isStrayColon flow c rest.head? then none
    else if endsPlain flow c rest.head? then some (out, gap.isBroken, c :: rest)
    else plainText flow indent (column + 1) false false .none (c :: (gap.text.reverse ++ out)) rest

/-- A plain scalar, and whether a line end came after it. -/
def readPlain (flow : Bool) (indent : Int) (c : Cursor) : Option ((List Char × Bool) × Cursor) :=
  (plainText flow indent c.column true true .none [] c.rest).map fun (out, broken, rest) =>
    ((out.reverse, broken), c.upTo rest)

/-- What the next characters of a quoted scalar are read as. -/
inductive QuoteMode where
  | text
  | escape
  | hex (left value : Nat)
  /-- A single quote was met; the next one would double it. -/
  | quote

/-- The character that a letter after a backslash stands for. -/
def escaped (c : Char) : Option Char :=
  match c with
  | '0' => some '\x00'
  | 'a' => some '\x07'
  | 'b' => some '\x08'
  | 't' | '\t' => some '\t'
  | 'n' => some '\n'
  | 'v' => some '\x0b'
  | 'f' => some '\x0c'
  | 'r' => some '\r'
  | 'e' => some '\x1b'
  | ' ' => some ' '
  | '"' => some '"'
  | '/' => some '/'
  | '\\' => some '\\'
  | 'N' => some '\u0085'
  | '_' => some '\u00a0'
  | 'L' => some '\u2028'
  | 'P' => some '\u2029'
  | _ => none

def hexLength (c : Char) : Option Nat :=
  if c == 'x' then some 2 else if c == 'u' then some 4 else if c == 'U' then some 8 else none

def isScalarValue (n : Nat) : Bool := n < 0xd800 || (0xdfff < n && n ≤ 0x10ffff)

/-- A quoted scalar after its opening quote; the text comes last character first. -/
def quotedText (single : Bool) (column : Nat) (mode : QuoteMode) (gap : Gap) (out : List Char) :
    List Char → Option (List Char × List Char)
  | [] =>
    match mode with
    | .quote => some (out, [])
    | _ => none
  | c :: rest =>
    match mode with
    | .quote =>
      if c == '\'' then quotedText single (column + 1) .text .none ('\'' :: out) rest
      else some (out, c :: rest)
    | .escape =>
      if isBreak c then quotedText single 0 .text ⟨[], some .none, []⟩ out rest
      else match escaped c, hexLength c with
        | some e, _ => quotedText single (column + 1) .text .none (e :: out) rest
        | none, some n => quotedText single (column + 1) (.hex n 0) .none out rest
        | none, none => none
    | .hex left value =>
      match Number.digitValue c with
      | some d =>
        if 16 ≤ d then none
        else
          let value := value * 16 + d
          if 1 < left then quotedText single (column + 1) (.hex (left - 1) value) .none out rest
          else if isScalarValue value then
            quotedText single (column + 1) .text .none (Char.ofNat value :: out) rest
          else none
      | none => none
    | .text =>
      if isBreak c then quotedText single 0 .text (gap.addBreak c) out rest
      else if isSpace c then quotedText single (column + 1) .text (gap.addSpace c) out rest
      else if column == 0 && isDocumentLine (c :: rest) then none
      else
        let out := gap.text.reverse ++ out
        if single then
          if c == '\'' then quotedText single (column + 1) .quote .none out rest
          else quotedText single (column + 1) .text .none (c :: out) rest
        else if c == '"' then some (out, rest)
        else if c == '\\' then quotedText single (column + 1) .escape .none out rest
        else quotedText single (column + 1) .text .none (c :: out) rest

def readQuoted (single : Bool) (c : Cursor) : Option (List Char × Cursor) :=
  (quotedText single (c.column + 1) .text .none [] c.step.rest).map fun (out, rest) =>
    (out.reverse, c.upTo rest)

/-- What happens to the line ends after a block scalar. -/
inductive Chomp where
  | strip
  | clip
  | keep
  deriving DecidableEq

def readChomp (c : Cursor) : Option Chomp × Cursor :=
  if c.at? '+' then (some .keep, c.step)
  else if c.at? '-' then (some .strip, c.step)
  else (none, c)

/-- An indentation digit, if there is one; zero is refused. -/
def readIncrement (c : Cursor) : Option (Option Nat × Cursor) :=
  match c.peek with
  | some d =>
    if d == '0' then none
    else if d.isDigit then some (some (d.toNat - '0'.toNat), c.step)
    else some (none, c)
  | none => some (none, c)

/-- The two indicators of a block scalar in either order. -/
def readBlockHeader (c : Cursor) : Option ((Chomp × Option Nat) × Cursor) :=
  match readChomp c with
  | (some chomp, c) => (readIncrement c).map fun (n, c) => ((chomp, n), c)
  | (none, c) =>
    match readIncrement c with
    | none => none
    | some (none, c) => some ((.clip, none), c)
    | some (some n, c) =>
      let (chomp, c) := readChomp c
      some ((chomp.getD .clip, some n), c)

/-- Blanks, a comment, and then nothing but the end of the line. -/
def readLineEnd (c : Cursor) : Option Cursor :=
  let c := c.skipWhile isSpace
  let c := if c.at? '#' then c.skipWhile fun ch => !isBreak ch else c
  match c.peek with
  | none => some c
  | some ch => if isBreak ch then some c.step else none

/-- Indentation and empty lines before a line of a block scalar. `indent` is zero while it is not
known. Answers the line ends, the widest indentation seen, the column and the rest. -/
def blockBreaks (indent column widest : Nat) (breaks : List Char) :
    List Char → Option (List Char × Nat × Nat × List Char)
  | [] => some (breaks, max widest column, column, [])
  | c :: rest =>
    let within := indent == 0 || column < indent
    if c == ' ' && within then blockBreaks indent (column + 1) widest breaks rest
    else if c == '\t' && within then none
    else if isBreak c then blockBreaks indent 0 (max widest column) (breaks ++ [c]) rest
    else some (breaks, max widest column, column, c :: rest)

/-- The text that joins two lines of a block scalar: in folded style a line feed between two lines
that do not start with a blank is a space, or nothing before empty lines. -/
def blockJoin (literal : Bool) (lead : Option Char) (breaks : List Char)
    (afterBlank beforeBlank : Bool) : List Char :=
  if !literal && lead == some '\n' && !afterBlank && !beforeBlank then
    if breaks.isEmpty then [' '] else breaks
  else lead.toList ++ breaks

/-- The lines of a block scalar; `lines` bounds their number by what is left. -/
def blockLines (literal : Bool) (indent : Nat) (chomp : Chomp) : (lines column : Nat) →
    (lead : Option Char) → (breaks : List Char) → (afterBlank : Bool) → (out : List Char) →
    List Char → Option (List Char × List Char)
  | lines + 1, column, lead, breaks, afterBlank, out, c :: rest =>
    if column == indent then
      let content := (c :: rest).takeWhile fun ch => !isBreak ch
      let out := out ++ blockJoin literal lead breaks afterBlank (isSpace c) ++ content
      match (c :: rest).dropWhile fun ch => !isBreak ch with
      | [] =>
        some (out, [])
      | b :: rest =>
        match blockBreaks indent 0 0 [] rest with
        | none => none
        | some (breaks, _, column, rest) =>
          blockLines literal indent chomp lines column (some b) breaks (isSpace c) out rest
    else some (out ++ chompText chomp lead breaks, c :: rest)
  | _, _, lead, breaks, _, out, rest => some (out ++ chompText chomp lead breaks, rest)
where
  chompText (chomp : Chomp) (lead : Option Char) (breaks : List Char) : List Char :=
    match chomp with
    | .strip => []
    | .clip => lead.toList
    | .keep => lead.toList ++ breaks

/-- A block scalar from its indicator, inside a block of the given indentation. -/
def readBlock (literal : Bool) (parent : Int) (c : Cursor) : Option (List Char × Cursor) := do
  let ((chomp, increment), c) ← readBlockHeader c.step
  let c ← readLineEnd c
  let given := match increment with
    | some n => if 0 ≤ parent then parent.toNat + n else n
    | none => 0
  let (breaks, widest, column, rest) ← blockBreaks given c.column 0 [] c.rest
  let indent := if given == 0 then max (max widest (parent + 1).toNat) 1 else given
  let (out, rest) ←
    blockLines literal indent chomp (rest.length + 1) column none breaks false [] rest
  return (out, c.upTo rest)

/-- The name after an anchor's or an alias's indicator. -/
def readAnchor (c : Cursor) : Option (String × Cursor) :=
  let c := c.step
  let name := c.rest.takeWhile isNameChar
  let c := c.skip name.length
  let ends := match c.peek with
    | some ch => isGap (some ch) || ['?', ':', ',', ']', '\x7d', '%', '@', '\x60'].contains ch
    | none => true
  if name.isEmpty || !ends then none else some (String.ofList name, c)

/-- A tag as written: the handle that names its start, and the rest of it. -/
structure TagName where
  handle : String
  suffix : String
  deriving DecidableEq, Repr

def isTagChar (verbatim : Bool) (c : Char) : Bool :=
  isNameChar c || [';', '/', '?', ':', '@', '&', '=', '+', '$', '.', '!', '~', '*', '\'', '(', ')',
    '%'].contains c || (verbatim && [',', '[', ']'].contains c)

/-- How many bytes the character has that starts with this byte. -/
def leadWidth (b : Nat) : Option Nat :=
  if b < 0x80 then some 1
  else if 0xc0 ≤ b && b < 0xe0 then some 2
  else if 0xe0 ≤ b && b < 0xf0 then some 3
  else if 0xf0 ≤ b && b < 0xf8 then some 4
  else none

/-- The characters of a tag; a percent sign and two digits stand for a byte of UTF-8. `owed` is how
many bytes of a character are still to come. -/
def tagBytes (verbatim : Bool) (owed : Nat) (out : List UInt8) :
    List Char → Option (List UInt8 × List Char)
  | '%' :: a :: b :: rest =>
    match Number.readNat 16 [a, b] with
    | none => none
    | some n =>
      if owed == 0 then
        match leadWidth n with
        | some width => tagBytes verbatim (width - 1) (out ++ [UInt8.ofNat n]) rest
        | none => none
      else if 0x80 ≤ n && n < 0xc0 then tagBytes verbatim (owed - 1) (out ++ [UInt8.ofNat n]) rest
      else none
  | c :: rest =>
    if c == '%' then none
    else if owed != 0 then none
    else if isTagChar verbatim c then
      tagBytes verbatim 0 (out ++ (String.singleton c).toUTF8.data.toList) rest
    else some (out, c :: rest)
  | [] => if owed == 0 then some (out, []) else none

/-- The characters of a tag after what is already known of it; there must be some. -/
def readTagText (verbatim : Bool) (known : List Char) (c : Cursor) : Option (String × Cursor) :=
  match tagBytes verbatim 0 [] c.rest with
  | none => none
  | some (bytes, rest) =>
    if known.isEmpty && bytes.isEmpty then none
    else
      let text := String.ofList (known.drop 1) ++ ((String.fromUTF8? bytes.toByteArray).getD "")
      some (text, c.upTo rest)

/-- An exclamation mark, a name, and a second mark if there is one. -/
def readHandle (c : Cursor) : Option (List Char × Cursor) :=
  if c.at? '!' then
    let name := c.step.rest.takeWhile isNameChar
    let c := c.step.skip name.length
    if c.at? '!' then some ('!' :: name ++ ['!'], c.step) else some ('!' :: name, c)
  else none

def readTag (flow : Bool) (c : Cursor) : Option (TagName × Cursor) := do
  let (tag, c) ←
    if c.peekAt 1 == some '<' then do
      let (suffix, c) ← readTagText true [] c.step.step
      if c.at? '>' then some ((⟨"", suffix⟩ : TagName), c.step) else none
    else do
      let (handle, c) ← readHandle c
      if 1 < handle.length && handle.getLast? == some '!' then do
        let (suffix, c) ← readTagText false [] c
        some (⟨String.ofList handle, suffix⟩, c)
      else do
        let (suffix, c) ← readTagText false handle c
        some (if suffix.isEmpty then ⟨"", "!"⟩ else ⟨"!", suffix⟩, c)
  if (flow && c.at? ',') || isGap c.peek then some (tag, c) else none

inductive Directive where
  | version (major minor : Nat)
  | tag (handle start : String)
  deriving DecidableEq, Repr

/-- A number of at most nine digits. -/
def readVersionPart (c : Cursor) : Option (Nat × Cursor) :=
  let digits := c.rest.takeWhile Char.isDigit
  if digits.isEmpty || 9 < digits.length then none
  else some (Number.digitsOf digits, c.skip digits.length)

/-- A directive from its percent sign to the end of its line. -/
def readDirective (c : Cursor) : Option (Directive × Cursor) := do
  let name := c.step.rest.takeWhile isNameChar
  let c := c.step.skip name.length
  if name.isEmpty || !isGap c.peek then none
  else
    let c := c.skipWhile isSpace
    let (directive, c) ←
      if name == ['Y', 'A', 'M', 'L'] then do
        let (major, c) ← readVersionPart c
        if !c.at? '.' then none
        else
          let (minor, c) ← readVersionPart c.step
          some (Directive.version major minor, c)
      else if name == ['T', 'A', 'G'] then do
        let (handle, c) ← readHandle c
        if handle != ['!'] && handle.getLast? != some '!' then none
        else if !(c.peek.map isSpace).getD false then none
        else
          let (start, c) ← readTagText true [] (c.skipWhile isSpace)
          if isGap c.peek then some (.tag (String.ofList handle) start, c) else none
      else none
    let c ← readLineEnd c
    return (directive, c)

end CaseSuite.Yaml
