import CaseSuite.Json.Basic
import CaseSuite.Text.Utf8
/-!
Reading JSON from bytes. A reader takes what is left of the document and returns what it read with
what is left then; a fault comes with what was left where it was found, and its line and column are
counted from there at the end.
-/
set_option autoImplicit false

namespace CaseSuite.Json

/-- Why a document cannot be read. -/
inductive Fault where
  | endInList
  | endInObject
  | endInString
  | endInValue
  | expectedColon
  | expectedListEnd
  | expectedObjectEnd
  | expectedName
  | expectedValue
  | invalidEscape
  | invalidNumber
  | numberOutOfRange
  | invalidCodePoint
  | controlCharacter
  | keyNotString
  | loneSurrogate
  | trailingComma
  | trailingCharacters
  | unfinishedSurrogate
  | nestedTooDeep
  deriving DecidableEq, Repr

def Fault.text : Fault → String
  | .endInList => "EOF while parsing a list"
  | .endInObject => "EOF while parsing an object"
  | .endInString => "EOF while parsing a string"
  | .endInValue => "EOF while parsing a value"
  | .expectedColon => "expected `:`"
  | .expectedListEnd => "expected `,` or `]`"
  | .expectedObjectEnd => "expected `,` or `\x7d`"
  | .expectedName => "expected ident"
  | .expectedValue => "expected value"
  | .invalidEscape => "invalid escape"
  | .invalidNumber => "invalid number"
  | .numberOutOfRange => "number out of range"
  | .invalidCodePoint => "invalid unicode code point"
  | .controlCharacter => "control character (\\u0000-\\u001F) found while parsing a string"
  | .keyNotString => "key must be a string"
  | .loneSurrogate => "lone leading surrogate in hex escape"
  | .trailingComma => "trailing comma"
  | .trailingCharacters => "trailing characters"
  | .unfinishedSurrogate => "unexpected end of hex escape"
  | .nestedTooDeep => "recursion limit exceeded"

/-- A fault and the place after the byte that shows it. -/
structure Error where
  fault : Fault
  line : Nat
  column : Nat
  deriving DecidableEq, Repr

def Error.message (e : Error) : String :=
  s!"{e.fault.text} at line {e.line} column {e.column}"

abbrev Bytes := List UInt8

/-- A reader's answer: what it read and what is left, or a fault and what was left there. -/
abbrev Reading (α : Type) := Except (Fault × Bytes) (α × Bytes)

/-- A fault shown by the next byte, or by the end of the document. -/
def peeked {α : Type} (fault : Fault) (rest : Bytes) : Reading α := .error (fault, rest.drop 1)

def isBlank (b : UInt8) : Bool := b == 0x20 || b == 0xa || b == 0x9 || b == 0xd

def skipBlanks (rest : Bytes) : Bytes := rest.dropWhile isBlank

/-- The letters of a name after its first one. -/
def readName : List Char → Bytes → Reading Unit
  | [], rest => .ok ((), rest)
  | _ :: _, [] => .error (.endInValue, [])
  | c :: cs, b :: rest =>
    if b.toNat == c.toNat then readName cs rest else .error (.expectedName, rest)

/-! ### Numbers -/

def isDigit (b : UInt8) : Bool := 0x30 ≤ b && b ≤ 0x39

def digit (b : UInt8) : Nat := b.toNat - 0x30

/-- Digits onto `n` while it fits in 64 bits; counts them. -/
def takeDigits (n count : Nat) : Bytes → Nat × Nat × Bytes
  | [] => (n, count, [])
  | b :: rest =>
    if isDigit b && n * 10 + digit b < UInt64.size then
      takeDigits (n * 10 + digit b) (count + 1) rest
    else (n, count, b :: rest)

def skipDigits (count : Nat) : Bytes → Nat × Bytes
  | [] => (count, [])
  | b :: rest => if isDigit b then skipDigits (count + 1) rest else (count, b :: rest)

def tenTo (n : Nat) : Float := Float.ofScientific 1 false n

/-- `x · 10 ^ e` in floats, by one operation while the power is a float, otherwise in steps. Three
steps bring any 64-bit number to zero. -/
def scale : (steps : Nat) → (x : Float) → (e : Int) → Option Float
  | steps, x, e =>
    if e.natAbs ≤ 308 then
      if e < 0 then some (x / tenTo e.natAbs)
      else
        let y := x * tenTo e.natAbs
        if y.isInf then none else some y
    else if x == 0 then some x
    else if 0 < e then none
    else match steps with
      | 0 => some x
      | steps + 1 => scale steps (x / tenTo 308) (e + 308)

def finishFloat (negative : Bool) (n : Nat) (e : Int) (rest : Bytes) : Reading Json :=
  match scale 4 (UInt64.ofNat n).toFloat e with
  | some x => .ok (.float (if negative then -x else x), rest)
  | none => .error (.numberOutOfRange, rest)

/-- Digits of an exponent onto `e`; `none` with what is left once it is past 31 bits. -/
def takeExponent (e : Nat) : Bytes → Option Nat × Bytes
  | [] => (some e, [])
  | b :: rest =>
    if isDigit b then
      if e * 10 + digit b < 0x8000_0000 then takeExponent (e * 10 + digit b) rest
      else (none, rest)
    else (some e, b :: rest)

/-- What follows the letter of an exponent. -/
def readExponent (negative : Bool) (n : Nat) (before : Int) (rest : Bytes) : Reading Json :=
  let (down, rest) := match rest with
    | 0x2b :: rest => (false, rest)
    | 0x2d :: rest => (true, rest)
    | rest => (false, rest)
  match rest with
  | [] => .error (.endInValue, [])
  | b :: rest =>
    if isDigit b then
      match takeExponent (digit b) rest with
      | (some e, rest) => finishFloat negative n (if down then before - e else before + e) rest
      | (none, rest) =>
        if n != 0 && !down then .error (.numberOutOfRange, rest)
        else .ok (.float (if negative then -0.0 else 0.0), (skipDigits 0 rest).2)
    else .error (.invalidNumber, rest)

/-- What may follow the digits of a float. -/
def readPower (negative : Bool) (n : Nat) (e : Int) (rest : Bytes) : Reading Json :=
  match rest with
  | b :: after =>
    if b == 0x65 || b == 0x45 then readExponent negative n e after
    else finishFloat negative n e rest
  | [] => finishFloat negative n e rest

/-- What follows the decimal point. -/
def readFraction (negative : Bool) (n : Nat) (e : Int) (rest : Bytes) : Reading Json :=
  match rest with
  | [] => .error (.endInValue, [])
  | b :: _ =>
    if isDigit b then
      let (n, count, rest) := takeDigits n 0 rest
      readPower negative n (e - count) (skipDigits 0 rest).2
    else peeked .invalidNumber rest

def finishInteger (negative : Bool) (n : Nat) (rest : Bytes) : Reading Json :=
  if negative then
    if n == 0 || 0x8000_0000_0000_0000 < n then .ok (.float (-(UInt64.ofNat n).toFloat), rest)
    else .ok (.int (Int64.ofInt (-n)), rest)
  else if n < 0x8000_0000_0000_0000 then .ok (.int (Int64.ofInt n), rest)
  else .ok (.float (UInt64.ofNat n).toFloat, rest)

/-- What follows the whole part, of which the last `dropped` digits did not fit. -/
def readTail (negative : Bool) (n dropped : Nat) (rest : Bytes) : Reading Json :=
  match rest with
  | b :: after =>
    if b == 0x2e then readFraction negative n dropped after
    else if b == 0x65 || b == 0x45 then readExponent negative n dropped after
    else if dropped == 0 then finishInteger negative n rest
    else finishFloat negative n dropped rest
  | [] =>
    if dropped == 0 then finishInteger negative n rest else finishFloat negative n dropped rest

def readNumber (negative : Bool) : Bytes → Reading Json
  | [] => .error (.endInValue, [])
  | b :: rest =>
    if b == 0x30 then
      match rest with
      | c :: _ => if isDigit c then peeked .invalidNumber rest else readTail negative 0 0 rest
      | [] => readTail negative 0 0 rest
    else if isDigit b then
      let (n, _, rest) := takeDigits (digit b) 1 rest
      let (dropped, rest) := skipDigits 0 rest
      readTail negative n dropped rest
    else .error (.invalidNumber, rest)

/-! ### Strings -/

/-- What the bytes of a string are read as. -/
inductive Mode where
  | text
  | escape
  /-- Digits of a code unit; `high` is the first half of a pair, a bad digit loses `value`. -/
  | hex (high : Option Nat) (left : Nat) (value : Option Nat)
  | pairEscape (high : Nat)
  | pairLetter (high : Nat)

def hexValue (b : UInt8) : Option Nat :=
  if 0x30 ≤ b && b ≤ 0x39 then some (b.toNat - 0x30)
  else if 0x61 ≤ b && b ≤ 0x66 then some (b.toNat - 0x57)
  else if 0x41 ≤ b && b ≤ 0x46 then some (b.toNat - 0x37)
  else none

/-- The character that one letter after a backslash stands for. -/
def escapeChar (b : UInt8) : Option Char :=
  if b == 0x22 then some '"'
  else if b == 0x5c then some '\\'
  else if b == 0x2f then some '/'
  else if b == 0x62 then some '\x08'
  else if b == 0x66 then some '\x0c'
  else if b == 0x6e then some '\n'
  else if b == 0x72 then some '\r'
  else if b == 0x74 then some '\t'
  else none

/-- A string after its opening quote. `start` is what was left where the run of plain bytes in
`run` began, last byte first; `out` is the text before it. -/
def readString (mode : Mode) (start run : Bytes) (out : String) : Bytes → Reading String
  | [] => .error (.endInString, [])
  | b :: rest =>
    match mode with
    | .text =>
      if b == 0x22 || b == 0x5c then
        match String.fromUTF8? run.reverse.toByteArray with
        | some s =>
          if b == 0x22 then .ok (out ++ s, rest) else readString .escape rest [] (out ++ s) rest
        | none =>
          .error (.invalidCodePoint, start.drop ((Utf8.faultAt run.reverse).getD 0 + 1))
      else if b < 0x20 then .error (.controlCharacter, rest)
      else readString .text start (b :: run) out rest
    | .escape =>
      if b == 0x75 then readString (.hex none 4 (some 0)) rest [] out rest
      else match escapeChar b with
        | some c => readString .text rest [] (out.push c) rest
        | none => .error (.invalidEscape, rest)
    | .hex high left value =>
      let value := match value, hexValue b with
        | some n, some d => some (n * 16 + d)
        | _, _ => none
      if 1 < left then readString (.hex high (left - 1) value) rest [] out rest
      else match value, high with
        | none, _ => .error (.invalidEscape, rest)
        | some n, none =>
          if 0xdc00 ≤ n && n ≤ 0xdfff then .error (.loneSurrogate, rest)
          else if 0xd800 ≤ n && n ≤ 0xdbff then readString (.pairEscape n) rest [] out rest
          else readString .text rest [] (out.push (Char.ofNat n)) rest
        | some n, some high =>
          if 0xdc00 ≤ n && n ≤ 0xdfff then
            let c := Char.ofNat ((high - 0xd800) * 0x400 + (n - 0xdc00) + 0x10000)
            readString .text rest [] (out.push c) rest
          else .error (.loneSurrogate, rest)
    | .pairEscape high =>
      if b == 0x5c then readString (.pairLetter high) rest [] out rest
      else .error (.unfinishedSurrogate, rest)
    | .pairLetter high =>
      if b == 0x75 then readString (.hex (some high) 4 (some 0)) rest [] out rest
      else .error (.unfinishedSurrogate, rest)

/-- The end of a four-digit group is missing, however short it is: the document ends there. -/
def readText (rest : Bytes) : Reading String := readString .text rest [] "" rest

/-! ### Values -/

/-- How deep lists and objects may nest, the outermost included. -/
def depthLimit : Nat := 127

mutual

/-- A value at the start of `rest`, after blanks. `fuel` bounds the calls that are still needed and
is never short when it starts at twice the bytes that are left. -/
def readValue : (fuel depth : Nat) → Bytes → Reading Json
  | 0, _, rest => .error (.nestedTooDeep, rest)
  | fuel + 1, depth, rest =>
    match skipBlanks rest with
    | [] => .error (.endInValue, [])
    | b :: after =>
      if b == 0x6e then (readName ['u', 'l', 'l'] after).map fun r => (.null, r.2)
      else if b == 0x74 then (readName ['r', 'u', 'e'] after).map fun r => (.bool true, r.2)
      else if b == 0x66 then (readName ['a', 'l', 's', 'e'] after).map fun r => (.bool false, r.2)
      else if b == 0x2d then readNumber true after
      else if isDigit b then readNumber false (b :: after)
      else if b == 0x22 then (readText after).map fun r => (.str r.1, r.2)
      else if b == 0x5b then
        match depth with
        | 0 => .error (.nestedTooDeep, after)
        | depth + 1 =>
          match skipBlanks after with
          | [] => .error (.endInList, [])
          | c :: after' =>
            if c == 0x5d then .ok (.list [], after')
            else (readItems fuel depth after).map fun r => (.list r.1, r.2)
      else if b == 0x7b then
        match depth with
        | 0 => .error (.nestedTooDeep, after)
        | depth + 1 =>
          match skipBlanks after with
          | [] => .error (.endInObject, [])
          | c :: after' =>
            if c == 0x7d then .ok (.object [], after')
            else (readMembers fuel depth after).map fun r => (.object (Entries.sort r.1), r.2)
      else .error (.expectedValue, after)

/-- One item or more, and the closing bracket. -/
def readItems : (fuel depth : Nat) → Bytes → Except (Fault × Bytes) (List Json × Bytes)
  | 0, _, rest => .error (.nestedTooDeep, rest)
  | fuel + 1, depth, rest => do
    let (item, rest) ← readValue fuel depth rest
    match skipBlanks rest with
    | [] => .error (.endInList, [])
    | b :: after =>
      if b == 0x5d then .ok ([item], after)
      else if b == 0x2c then
        match skipBlanks after with
        | [] => .error (.endInValue, [])
        | c :: after' =>
          if c == 0x5d then .error (.trailingComma, after')
          else (readItems fuel depth after).map fun r => (item :: r.1, r.2)
      else .error (.expectedListEnd, after)

/-- One member or more, and the closing brace. -/
def readMembers : (fuel depth : Nat) → Bytes →
    Except (Fault × Bytes) (List (String × Json) × Bytes)
  | 0, _, rest => .error (.nestedTooDeep, rest)
  | fuel + 1, depth, rest =>
    match skipBlanks rest with
    | [] => .error (.endInValue, [])
    | q :: afterQuote =>
      if q != 0x22 then .error (.keyNotString, afterQuote)
      else do
        let (key, rest) ← readText afterQuote
        match skipBlanks rest with
        | [] => .error (.endInObject, [])
        | b :: after =>
          if b != 0x3a then .error (.expectedColon, after)
          else do
            let (item, rest) ← readValue fuel depth after
            match skipBlanks rest with
            | [] => .error (.endInObject, [])
            | b :: after =>
              if b == 0x7d then .ok ([(key, item)], after)
              else if b == 0x2c then
                match skipBlanks after with
                | [] => .error (.endInValue, [])
                | c :: after' =>
                  if c == 0x7d then .error (.trailingComma, after')
                  else (readMembers fuel depth after).map fun r => ((key, item) :: r.1, r.2)
              else .error (.expectedObjectEnd, after)

end

/-- A whole document: one value with only blanks around it. -/
def readDocument (bytes : Bytes) : Except (Fault × Bytes) Json := do
  let (value, rest) ← readValue (2 * bytes.length + 2) depthLimit bytes
  match skipBlanks rest with
  | [] => .ok value
  | _ :: after => .error (.trailingCharacters, after)

/-- Line and column of the place after these bytes. -/
def placeAfter (bytes : Bytes) : Nat × Nat :=
  bytes.foldl (fun p b => if b == 0xa then (p.1 + 1, 0) else (p.1, p.2 + 1)) ((1, 0) : Nat × Nat)

def read (bytes : ByteArray) : Except Error Json :=
  let all := bytes.data.toList
  match readDocument all with
  | .ok value => .ok value
  | .error (fault, rest) =>
    let (line, column) := placeAfter (all.take (all.length - rest.length))
    .error ⟨fault, line, column⟩

end CaseSuite.Json
