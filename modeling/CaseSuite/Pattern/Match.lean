import CaseSuite.Pattern.Compile
/-!
Holding values against patterns. The pattern leads: what a value has beyond it does not matter, and
the first difference in the pattern's order is the one that is reported.
-/
set_option autoImplicit false

namespace CaseSuite

namespace Pattern

def differs (place : Place) (actual : Value) (p : Pattern) : Error :=
  .mismatch place actual.display p.text

/-- Equality of two values as floats, where both are numbers. -/
def sameNumber (a b : Value) : Bool :=
  match a.asFloat?, b.asFloat? with
  | some x, some y => x == y
  | _, _ => false

/-- Whether a text writes a number: integers are compared exactly if the text is one too. -/
def numberHolds (s : String) (actual : Value) : Bool :=
  let cs := Text.trim s.toList
  match Number.readInt64 cs, actual with
  | some n, .int m => n == m
  | _, _ =>
    match Number.readFloat cs, actual.asFloat? with
    | some x, some y => x == y
    | _, _ => false

/-- Whether a value is what a literal expects: numbers by value, and texts also against instants,
numbers and bytes. A text that is held against an instant must be one. -/
def literalHolds (place : Place) (expected actual : Value) : Except Error Bool :=
  match expected, actual with
  | .null, .bytes b => .ok (b.size == 0)
  | .int n, .int m => .ok (n == m)
  | .int _, _ | .float _, _ => .ok (sameNumber expected actual)
  | .str s, .time t =>
    match Instant.read s with
    | some u => .ok (u == t)
    | none => .error (.pattern place (.timeLayout s))
  | .time t, .str s => .ok (Instant.read s == some t)
  | .str s, .int _ | .str s, .float _ => .ok (numberHolds s actual)
  | .str s, .bytes b => .ok (s.toUTF8 == b)
  | _, _ => .ok (expected.same actual)

/-- The value that bytes or a text of JSON hold. -/
def decode (place : Place) (bytes : ByteArray) : Except Error Value :=
  (Value.readJson bytes).mapError fun e => .assertion (.valueNotJson place e)

/-- The JSON text that a value holds, where it is a text or bytes. -/
def jsonText? : Value → Option ByteArray
  | .str s => some s.toUTF8
  | .bytes b => some b
  | _ => none

def regexpHolds (r : Regex) : Value → Bool
  | .str s => r.isMatch s
  | .bytes b => r.isMatch (Utf8.text b)
  | _ => false

mutual

def checkAt (place : Place) (p : Pattern) (actual : Value) : Except Error Unit :=
  match p with
  | .literal expected => do
    if ← literalHolds place expected actual then return ()
    else throw (.mismatch place actual.display expected.display)
  | .list items =>
    match actual.asList? with
    | none => .error (differs place actual (.list items))
    | some values =>
      if values.length != items.length then
        .error (.mismatch place s!"{values.length} items" s!"{items.length} items")
      else checkItems place 0 items values
  | .object fields =>
    match actual.asObject?, jsonText? actual with
    | some es, _ => checkFields place fields es
    | none, some bytes => do
      match (← decode place bytes).asObject? with
      | some es => checkFields place fields es
      | none => throw (differs place actual (.object fields))
    | none, none => .error (differs place actual (.object fields))
  | .present expected =>
    if actual.isNull == expected then .error (differs place actual (.present expected)) else .ok ()
  | .json inner =>
    match actual.asObject?, jsonText? actual with
    | some _, _ => checkAt place inner actual
    | none, some bytes => do checkAt place inner (← decode place bytes)
    | none, none => .error (differs place actual (.json inner))
  | .regexp source r =>
    if regexpHolds r actual then .ok () else .error (differs place actual (.regexp source r))

/-- Holds values against patterns one by one; the first has the given index. -/
def checkItems (place : Place) (index : Nat) : List Pattern → List Value → Except Error Unit
  | p :: ps, v :: vs => do
    checkAt (place ++ [.index index]) p v
    checkItems place (index + 1) ps vs
  | _, _ => .ok ()

/-- Holds the entries of an object against the fields of a pattern. -/
def checkFields (place : Place) : List (String × Pattern) → Entries Value → Except Error Unit
  | [], _ => .ok ()
  | (key, p) :: fields, es =>
    match es.find? key with
    | some v => do
      checkAt (place ++ [.key key]) p v
      checkFields place fields es
    | none =>
      if p.allowsMissing then checkFields place fields es
      else .error (.missingKey (place ++ [.key key]) p.text)

end

/-- Holds a value against a pattern; the error is the first difference. -/
def check (p : Pattern) (actual : Value) : Except Error Unit := p.checkAt [] actual

end Pattern

def checkEqual (actual expected : Value) : Except Error Unit := do
  (← Pattern.compile expected).check actual

end CaseSuite
