import CaseSuite.Regex.Property
import CaseSuite.Decimal.Read
/-!
Reading regular expressions. Flags hold from where they are set to the end of their group. An
expression is refused when it is not well-formed, could match half of a character, nests too deeply
or grows too large once its repetitions are written out.
-/
set_option autoImplicit false

namespace CaseSuite.Regex

structure Flags where
  ignoreCase : Bool
  multiLine : Bool
  dotAll : Bool
  unicode : Bool
  crlf : Bool
  verbose : Bool

def Flags.standard : Flags := ⟨false, false, false, true, false, false⟩

/-- What is left of the source, the flags that hold there, and the group names seen so far. -/
structure Scan where
  rest : List Char
  flags : Flags
  names : List (List Char)

namespace Scan

/-- Past blanks and comments, which run to the end of their line. -/
def skipBlanks (comment : Bool) : List Char → List Char
  | [] => []
  | c :: cs =>
    if comment then skipBlanks (c != '\n') cs
    else if Text.isBlank c then skipBlanks false cs
    else if c == '#' then skipBlanks true cs
    else c :: cs

/-- In verbose mode blanks and comments do not count. -/
def skip (s : Scan) : Scan :=
  if s.flags.verbose then { s with rest := skipBlanks false s.rest } else s

def drop (s : Scan) (n : Nat) : Scan := { s with rest := s.rest.drop n }

/-- Past one character and what does not count after it. -/
def next (s : Scan) : Scan := (s.drop 1).skip

/-- The same, where the source must go on. -/
def next? (s : Scan) : Option Scan := if s.next.rest.isEmpty then none else some s.next

def peek (s : Scan) : Option Char := s.rest.head?

/-- The second character from here on that counts. -/
def peekNext (s : Scan) : Option Char := s.next.peek

end Scan

/-! ### Repetitions -/

/-- Digits onto `n`, with how many there were. -/
def takeDigits : (fuel : Nat) → (n count : Nat) → Scan → Nat × Nat × Scan
  | 0, n, count, s => (n, count, s)
  | fuel + 1, n, count, s =>
    match s.peek with
    | some c =>
      if c.isDigit then takeDigits fuel (n * 10 + (c.toNat - '0'.toNat)) (count + 1) s.next
      else (n, count, s)
    | none => (n, count, s)

/-- A number of 32 bits between blanks. -/
def readCount (s : Scan) : Option Nat × Scan :=
  let blanks (s : Scan) : Scan := { s with rest := s.rest.dropWhile Text.isBlank }
  let s := blanks s
  let (n, count, s) := takeDigits s.rest.length 0 0 s
  (if count == 0 || UInt32.size ≤ n then none else some n, (blanks s).skip)

/-- The bounds of a repetition, from its opening brace. -/
def readBounds (s : Scan) : Option ((Nat × Option Nat) × Scan) := do
  let s ← s.next?
  let (least, s) := readCount s
  match s.peek with
  | none => none
  | some ',' =>
    let s ← s.next?
    let least ← least
    if s.peek == some '\x7d' then some ((least, none), s.next)
    else
      let (most, s) := readCount s
      let most ← most
      if s.peek == some '\x7d' && least ≤ most then some ((least, some most), s.next) else none
  | some c =>
    let least ← least
    if c == '\x7d' then some ((least, some least), s.next) else none

/-- A question mark after a repetition makes it reluctant, which changes nothing here. -/
def dropReluctance (s : Scan) : Scan := if s.peek == some '?' then s.drop 1 else s

/-! ### Escapes -/

/-- What one escape or character stands for; `byte` tells that a character was written as a byte. -/
inductive Atom where
  | char (c : Char) (byte : Bool)
  | set (s : CharSet)
  | look (l : Look)

def isMeta (c : Char) : Bool :=
  ['\\', '.', '+', '*', '?', '(', ')', '|', '[', ']', '\x7b', '\x7d', '^', '$', '#', '&', '-',
    '~'].contains c

/-- Characters that a backslash may stand before without need. -/
def isEscapable (c : Char) : Bool :=
  isMeta c || (c.toNat < 0x80 && !c.isAlphanum && c != '<' && c != '>')

def hexValue (cs : List Char) : Option Char :=
  match Number.readNat 16 cs with
  | some n => if n < 0xd800 || (0xdfff < n && n ≤ 0x10ffff) then some (Char.ofNat n) else none
  | none => none

def isHexDigit (c : Char) : Bool := (Number.digitValue c).any (· < 16)

/-- A fixed count of hexadecimal digits, the first of which is next. -/
def takeHex : (count : Nat) → Scan → Option (List Char × Scan)
  | 0, s => some ([], s)
  | count + 1, s =>
    match s.peek with
    | some c =>
      if !isHexDigit c then none
      else if count == 0 then some ([c], s.next)
      else do
        let (cs, s) ← takeHex count (← s.next?)
        return (c :: cs, s)
    | none => none

/-- Characters up to a closing brace; the scan is at what comes before them. -/
def takeBraced : (fuel : Nat) → Scan → Option (List Char × Scan)
  | 0, _ => none
  | fuel + 1, s => do
    let s ← s.next?
    match s.peek with
    | some '\x7d' => some ([], s)
    | some c => do
      let (cs, s) ← takeBraced fuel s
      return (c :: cs, s)
    | none => none

/-- A character by its code point, from the letter that announces it. -/
def readHex (width : Nat) (s : Scan) : Option (Char × Scan) := do
  let s ← s.next?
  if s.peek == some '\x7b' then
    let (cs, s) ← takeBraced s.rest.length s
    if cs.all isHexDigit then return (← hexValue cs, s.next) else none
  else
    let (cs, s) ← takeHex width s
    return (← hexValue cs, s)

/-- Splits at the first occurrence of a character. -/
def splitAt (c : Char) (cs : List Char) : Option (List Char × List Char) :=
  if cs.contains c then some (cs.takeWhile (· != c), (cs.dropWhile (· != c)).drop 1) else none

/-- The set of a property between braces; a kind may stand before its name. -/
def propertySet (cs : List Char) : Option CharSet :=
  let negated := (List.range cs.length).find? fun i => (cs.drop i).take 2 == ['!', '=']
  match negated with
  | some i => (CharSet.ofKind? (cs.take i) (cs.drop (i + 2))).map .compl
  | none =>
    match splitAt ':' cs, splitAt '=' cs with
    | some (kind, name), _ | none, some (kind, name) => CharSet.ofKind? kind name
    | none, none => CharSet.named? cs

def foldSet (flags : Flags) (s : CharSet) : CharSet :=
  if !flags.ignoreCase then s else if flags.unicode then .folded s else .foldedAscii s

def negateSet (negated : Bool) (s : CharSet) : CharSet := if negated then .compl s else s

/-- Without Unicode a set must hold ASCII characters only. -/
def checkSet (flags : Flags) (s : CharSet) : Option CharSet :=
  if flags.unicode || (List.range 128).all fun i => !s.has (128 + i) then some s else none

/-- The set that a letter or a name in braces after it stands for. -/
def readProperty (s : Scan) : Option (CharSet × Scan) := do
  let negated := s.peek == some 'P'
  let s ← s.next?
  let (found, s) ←
    match s.peek with
    | some '\x7b' => do
      let (cs, s) ← takeBraced s.rest.length s
      some (propertySet cs, s.drop 1)
    | some '\\' => none
    | some c => some (CharSet.named? [c], s.next)
    | none => none
  if !s.flags.unicode then none
  else return (negateSet negated (foldSet s.flags (← found)), s)

def classSet (flags : Flags) (c : Char) : Option CharSet :=
  let pick (full narrow : CharSet) : CharSet := if flags.unicode then full else narrow
  match c with
  | 'd' => some (pick .digit (.ranges [(0x30, 0x39)]))
  | 's' => some (pick .blank (.ranges [(0x9, 0xd), (0x20, 0x20)]))
  | 'w' => some (pick .word (.ranges CharSet.word.asciiWord))
  | _ => none

/-- The kind of word boundary that a name in braces picks, if that is what the braces hold. -/
def readBoundary (s : Scan) : Option (Look × Scan) :=
  let unicode := s.flags.unicode
  let plain : Option (Look × Scan) := some (.wordBoundary unicode, s)
  let isNameChar (c : Char) : Bool := c.isAlpha || c == '-'
  if s.peek != some '\x7b' then plain
  else if !(s.peekNext.map isNameChar).getD false then
    if s.next.rest.isEmpty then none else plain
  else
    match takeBraced s.rest.length s with
    | none => none
    | some (name, s) =>
      match String.ofList name with
      | "start" => some (.wordStart unicode, s.drop 1)
      | "end" => some (.wordEnd unicode, s.drop 1)
      | "start-half" => some (.wordStartHalf unicode, s.drop 1)
      | "end-half" => some (.wordEndHalf unicode, s.drop 1)
      | _ => none

/-- An escape, from its backslash. -/
def readEscape (s : Scan) : Option (Atom × Scan) := do
  let s := s.drop 1
  let c ← s.peek
  let after := s.drop 1
  let char (c : Char) : Option (Atom × Scan) := some (.char c false, after)
  match c with
  | 'x' =>
    let fixed := s.peekNext != some '\x7b'
    let (c, s) ← readHex 2 s
    return (.char c fixed, s)
  | 'u' => do
    let (c, s) ← readHex 4 s
    return (.char c false, s)
  | 'U' => do
    let (c, s) ← readHex 8 s
    return (.char c false, s)
  | 'p' | 'P' => do
    let (set, s) ← readProperty s
    return (.set set, s)
  | 'd' | 's' | 'w' | 'D' | 'S' | 'W' => do
    let set ← classSet s.flags c.toLower
    return (.set (← checkSet s.flags (negateSet c.isUpper set)), after)
  | 'a' => char '\x07'
  | 'f' => char '\x0c'
  | 't' => char '\t'
  | 'n' => char '\n'
  | 'r' => char '\r'
  | 'v' => char '\x0b'
  | 'A' => return (.look .textStart, after)
  | 'z' => return (.look .textEnd, after)
  | 'b' => do
    let (l, s) ← readBoundary after
    return (.look l, s)
  | 'B' => return (.look (.noWordBoundary s.flags.unicode), after)
  | '<' => return (.look (.wordStart s.flags.unicode), after)
  | '>' => return (.look (.wordEnd s.flags.unicode), after)
  | c => if isEscapable c then char c else none

/-! ### Sets in brackets -/

/-- A set and how deeply it nests. -/
abbrev Nested := CharSet × Nat

inductive SetOp where
  | intersection
  | difference
  | symmetricDifference

/-- The set of several items; two or more nest one level deeper. -/
def unionOf : List Nested → Nested
  | [] => (.none, 0)
  | [item] => item
  | items =>
    (items.foldr (fun item s => .union item.1 s) .none,
      (items.foldl (fun depth item => max depth item.2) 0) + 1)

/-- A set after the operator that may stand before it. -/
def applyOp (flags : Flags) (left : Option (SetOp × Nested)) (right : Nested) : Nested :=
  match left with
  | none => right
  | some (op, s) =>
    let a := foldSet flags s.1
    let b := foldSet flags right.1
    let depth := max s.2 right.2 + 1
    match op with
    | .intersection => (.inter a b, depth)
    | .difference => (a.diff b, depth)
    | .symmetricDifference => (a.symmDiff b, depth)

/-- An ASCII class between colons, from its bracket. -/
def readAsciiClass (s : Scan) : Option (CharSet × Scan) :=
  match s.rest with
  | '[' :: ':' :: rest =>
    let (negated, rest) := match rest with
      | '^' :: rest => (true, rest)
      | _ => (false, rest)
    let name := rest.takeWhile (· != ':')
    match rest.dropWhile (· != ':') with
    | ':' :: ']' :: rest =>
      (CharSet.ascii? (String.ofList name)).map fun set =>
        (negateSet negated (foldSet s.flags set), { s with rest })
    | _ => none
  | _ => none

/-- The code point of a character in a set; without Unicode only a byte may be past ASCII. -/
def pointIn (flags : Flags) (c : Char) (byte : Bool) : Option Nat :=
  if flags.unicode || c.toNat < 0x80 || byte then some c.toNat else none

def readSetAtom (s : Scan) : Option (Atom × Scan) :=
  match s.peek with
  | some '\\' => readEscape s
  | some c => some (.char c false, s.drop 1)
  | none => none

/-- One character, a range of them, or a class. -/
def readSetItem (s : Scan) : Option (Nested × Scan) := do
  let (first, s) ← readSetAtom s
  let s := s.skip
  let c ← s.peek
  if c != '-' || s.peekNext == some ']' || s.peekNext == some '-' then
    match first with
    | .char c byte => do
      let n ← pointIn s.flags c byte
      return ((.ranges [(n, n)], 0), s)
    | .set set => return ((set, 0), s)
    | .look _ => none
  else
    let (second, s) ← readSetAtom (← s.next?)
    match first, second with
    | .char low lowByte, .char high highByte => do
      let low ← pointIn s.flags low lowByte
      let high ← pointIn s.flags high highByte
      if low ≤ high then return ((.ranges [(low, high)], 0), s) else none
    | _, _ => none

/-- Dashes at the start of a set stand for themselves. -/
def leadingDashes : (fuel : Nat) → Scan → Option (List Nested × Scan)
  | 0, s => some ([], s)
  | fuel + 1, s =>
    if s.peek == some '-' then do
      let (items, s) ← leadingDashes fuel (← s.next?)
      return ((CharSet.single '-', 0) :: items, s)
    else some ([], s)

mutual

/-- A set from its opening bracket to behind its closing one. -/
def readSet : (fuel : Nat) → Scan → Option (Nested × Scan)
  | 0, _ => none
  | fuel + 1, s => do
    let s ← s.next?
    let (negated, s) ← if s.peek == some '^' then (s.next?).map fun s => (true, s)
      else some (false, s)
    let (dashes, s) ← leadingDashes s.rest.length s
    let (items, s) ← if dashes.isEmpty && s.peek == some ']' then
        (s.next?).map fun s => ([((CharSet.single ']', 0) : Nested)], s)
      else some (dashes, s)
    let ((set, depth), s) ← readSetItems fuel none items s
    let set ← checkSet s.flags (negateSet negated (foldSet s.flags set))
    return ((set, depth + 1), s)

/-- The items of a set after those already read; `left` is what stands before the last operator. -/
def readSetItems : (fuel : Nat) → (left : Option (SetOp × Nested)) → (items : List Nested) → Scan →
    Option (Nested × Scan)
  | 0, _, _, _ => none
  | fuel + 1, left, items, s =>
    let s := s.skip
    let operator (op : SetOp) : Option (Nested × Scan) :=
      readSetItems fuel (some (op, applyOp s.flags left (unionOf items))) [] (s.drop 2)
    match s.rest with
    | [] => none
    | ']' :: _ => some (applyOp s.flags left (unionOf items), s.drop 1)
    | '&' :: '&' :: _ => operator .intersection
    | '-' :: '-' :: _ => operator .difference
    | '~' :: '~' :: _ => operator .symmetricDifference
    | '[' :: _ =>
      match readAsciiClass s with
      | some (set, s) => readSetItems fuel left (items ++ [(set, 0)]) s
      | none => do
        let (item, s) ← readSet fuel s
        readSetItems fuel left (items ++ [item]) s
    | _ => do
      let (item, s) ← readSetItem s
      readSetItems fuel left (items ++ [item]) s

end

/-! ### Groups -/

/-- What the start of a group opens. -/
inductive Opening where
  /-- Flags for the rest of the group around. -/
  | flags (f : Flags)
  | group (captures : Bool) (s : Scan)

def setFlag (f : Flags) (c : Char) (on : Bool) : Option Flags :=
  match c with
  | 'i' => some { f with ignoreCase := on }
  | 'm' => some { f with multiLine := on }
  | 's' => some { f with dotAll := on }
  | 'u' => some { f with unicode := on }
  | 'R' => some { f with crlf := on }
  | 'x' => some { f with verbose := on }
  | 'U' => some f
  | _ => none

/-- Flags up to a colon or a parenthesis, each at most once; after a dash they are cleared. -/
def readFlags (f : Flags) (seen : List Char) : List Char → Option (Flags × List Char × List Char)
  | [] => none
  | c :: cs =>
    if c == ':' || c == ')' then
      if seen.head? == some '-' then none else some (f, seen, c :: cs)
    else if seen.contains c then none
    else if c == '-' then readFlags f ('-' :: seen) cs
    else match setFlag f c (!seen.contains '-') with
      | some f => readFlags f (c :: seen) cs
      | none => none

def isNameChar (first : Bool) (c : Char) : Bool :=
  let has (name : String) : Bool := ((CharSet.named? name.toList).map (·.has c.toNat)).getD false
  c == '_' || has "alphabetic" ||
    (!first && (c == '.' || c == '[' || c == ']' || has "n"))

/-- The name of a group and what comes after it; a name may be given once. -/
def readName (s : Scan) : Option Scan :=
  match splitAt '>' s.rest with
  | none => none
  | some (name, rest) =>
    if name.isEmpty || s.names.contains name || !(name.take 1).all (isNameChar true) ||
        !(name.drop 1).all (isNameChar false) then none
    else some { s with rest, names := name :: s.names }

/-- The start of a group, from its parenthesis. -/
def readOpening (s : Scan) : Option (Opening × Scan) :=
  let s := s.next
  match s.rest with
  | '?' :: '=' :: _ | '?' :: '!' :: _ | '?' :: '<' :: '=' :: _ | '?' :: '<' :: '!' :: _ => none
  | '?' :: 'P' :: '<' :: _ => (readName (s.drop 3)).map fun s => (.group true s, s)
  | '?' :: '<' :: _ => (readName (s.drop 2)).map fun s => (.group true s, s)
  | '?' :: rest =>
    match readFlags s.flags [] rest with
    | some (f, seen, ')' :: rest) =>
      if seen.isEmpty then none else some (.flags f, { s with rest })
    | some (f, _, ':' :: rest) =>
      let s := { s with rest, flags := f }
      some (.group false s, s)
    | _ => none
  | _ => some (.group true s, s)

/-! ### Expressions -/

def ofItems : List Regex → Regex
  | [] => .empty
  | [r] => r
  | rs => .concat rs

def ofBranches : List Regex → Regex
  | [r] => r
  | rs => .choice rs

/-- A character outside brackets. Without Unicode a byte past ASCII is only half of one. -/
def charItem (flags : Flags) (c : Char) (byte : Bool) : Option Regex :=
  if !flags.unicode && byte && 0x80 ≤ c.toNat then none
  else some (.one (foldSet flags (.single c)) 0)

def atomItem (flags : Flags) : Atom → Option Regex
  | .char c byte => charItem flags c byte
  | .set s => some (.one s 0)
  | .look l => some (.look l)

/-- A dot matches any character, or any that does not end a line. -/
def dotItem (flags : Flags) : Option Regex :=
  if !flags.unicode then none
  else if flags.dotAll then some (.one (.compl .none) 0)
  else if flags.crlf then some (.one (.compl (.ranges [(0xa, 0xa), (0xd, 0xd)])) 0)
  else some (.one (.compl (.ranges [(0xa, 0xa)])) 0)

/-- One item that is neither a group nor a set in brackets. -/
def readItem (s : Scan) : Option (Regex × Scan) := do
  match ← s.peek with
  | '\\' => do
    let (a, s) ← readEscape s
    return (← atomItem s.flags a, s)
  | '.' => return (← dotItem s.flags, s.drop 1)
  | '^' =>
    return (.look (if s.flags.multiLine then .lineStart s.flags.crlf else .textStart), s.drop 1)
  | '$' => return (.look (if s.flags.multiLine then .lineEnd s.flags.crlf else .textEnd), s.drop 1)
  | c => return (← charItem s.flags c false, s.drop 1)

/-- Repeats the last item; there must be one, and flags are none. -/
def repeatLast (least : Nat) (most : Option Nat) (items : List Regex) : Option (List Regex) :=
  match items.getLast? with
  | none | some .empty => none
  | some r => some (items.dropLast ++ [.times r least most])

/-- An expression up to the end of its group. `branches` and `items` are what was read of it. -/
def readBody : (fuel : Nat) → (branches items : List Regex) → Scan → Option (Regex × Scan)
  | 0, _, _, _ => none
  | fuel + 1, branches, items, s =>
    let s := s.skip
    let simple (least : Nat) (most : Option Nat) : Option (Regex × Scan) := do
      readBody fuel branches (← repeatLast least most items) (dropReluctance (s.drop 1))
    match s.peek with
    | none | some ')' => some (ofBranches (branches ++ [ofItems items]), s)
    | some '|' => readBody fuel (branches ++ [ofItems items]) [] (s.drop 1)
    | some '?' => simple 0 (some 1)
    | some '*' => simple 0 none
    | some '+' => simple 1 none
    | some '\x7b' => do
      if items.isEmpty then none
      else
        let ((least, most), s) ← readBounds s
        readBody fuel branches (← repeatLast least most items) (dropReluctance s)
    | some '[' => do
      let ((set, depth), s) ← readSet fuel s
      readBody fuel branches (items ++ [.one set depth]) s
    | some '(' => do
      match ← readOpening s with
      | (.flags f, s) => readBody fuel branches (items ++ [.empty]) { s with flags := f }
      | (.group captures _, inner) =>
        let (r, after) ← readBody fuel [] [] inner
        if after.peek == some ')' then
          readBody fuel branches (items ++ [.group captures r])
            { after.drop 1 with flags := s.flags }
        else none
    | some _ => do
      let (r, s) ← readItem s
      readBody fuel branches (items ++ [r]) s

/-! ### Limits -/

mutual

def depth : Regex → Nat
  | .empty | .look _ => 0
  | .one _ depth => depth
  | .concat rs | .choice rs => depthOfAll rs + 1
  | .times r _ _ | .group _ r => r.depth + 1

def depthOfAll : List Regex → Nat
  | [] => 0
  | r :: rs => max r.depth (depthOfAll rs)

end

def depthLimit : Nat := 250

/-- Roughly the size of a set: more for characters of several bytes. -/
def setSize : CharSet → Nat
  | .ranges [(a, b)] => if a == b && a < 0x80 then 32 else if b < 0x80 then 72 else 128
  | .ranges rs => rs.foldl (fun n r => n + if r.2 < 0x80 then 8 else 60) 64
  | .compl s => 900 + setSize s
  | .union s t | .inter s t => setSize s + setSize t
  | .folded s => setSize s + 48
  | .foldedAscii s => setSize s + 48

mutual

/-- Roughly the size of the expression with its repetitions written out. -/
def size : Regex → Nat
  | .empty | .look _ => 32
  | .one s _ => setSize s
  | .concat rs => sizeOfAll rs
  | .choice rs => 64 + 4 * rs.length + sizeOfAll rs
  | .times r least none => max least 1 * r.size + 40
  | .times r least (some most) => least * r.size + (most - least) * (r.size + 40) + 32
  | .group captures r => r.size + if captures then 64 else 0

def sizeOfAll : List Regex → Nat
  | [] => 0
  | r :: rs => r.size + sizeOfAll rs

end

def sizeLimit : Nat := 10 * (1 <<< 20)

def read (source : String) : Option Regex := do
  let cs := source.toList
  let (r, s) ← readBody (cs.length + 1) [] [] ⟨cs, .standard, []⟩
  if s.rest.isEmpty && r.depth ≤ depthLimit && r.size ≤ sizeLimit then some r else none

end CaseSuite.Regex
