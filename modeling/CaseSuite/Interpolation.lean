import CaseSuite.Marker
import CaseSuite.Variables
/-!
Replacing markers inside values. A text that is one marker becomes the variable's value as it is;
markers among other text, and all markers in keys, become text. What is put in is not read again.
-/
set_option autoImplicit false

namespace CaseSuite

/-- Makes a value of the one that a marker names. -/
abbrev Helper := Value → Except Error Value

/-- Replaces markers with the help of named helpers. -/
structure Interpolator where
  helpers : Entries Helper

namespace Interpolator

/-- The text as a JSON string. -/
def quote (v : Value) : Value := .str (String.ofList (Json.stringChars v.text))

/-- The text between single quotes, with a backslash before each quote in it. -/
def singleQuote (v : Value) : Value :=
  let body := v.text.toList.flatMap fun c => if c == '\'' then ['\\', '\''] else [c]
  .str (String.ofList ('\'' :: body ++ ['\'']))

def standard : Interpolator :=
  ⟨[("string", fun v => .ok (.str v.text)), ("quote", fun v => .ok (quote v)),
    ("singlequote", fun v => .ok (singleQuote v))]⟩

/-- Adds a helper, or replaces the one of that name. -/
def withHelper (i : Interpolator) (name : String) (h : Helper) : Interpolator :=
  ⟨i.helpers.insert name h⟩

variable (i : Interpolator) (vars : VariableStore)

def resolve (m : Marker) : Except Error Value := do
  let v ← vars.lookup m.path
  match m.helper with
  | none => return v
  | some name =>
    match i.helpers.find? name with
    | some helper => helper v
    | none => throw (.interpolation m.path (.unknownHelper name))

/-- The text of pieces with every marker replaced. -/
def join : List Piece → Except Error (List Char)
  | [] => .ok []
  | .char c :: ps => do return c :: (← join ps)
  | .marker m :: ps => do
    let v ← i.resolve vars m
    return v.text.toList ++ (← join ps)

def text (s : String) : Except Error String := String.ofList <$> i.join vars (pieces s)

/-- What a text becomes as a value. -/
def string (s : String) : Except Error Value :=
  match pieces s with
  | [.marker m] => i.resolve vars m
  | ps => (fun cs => .str (String.ofList cs)) <$> i.join vars ps

mutual

/-- A value with every marker in it replaced; the first that cannot be is the error. -/
def interpolate : Value → Except Error Value
  | .str s => i.string vars s
  | .list items => .list <$> interpolateItems items
  | .object es => .object <$> interpolateEntries [] es
  | v => .ok v

def interpolateItems : List Value → Except Error (List Value)
  | [] => .ok []
  | item :: items => do
    let item ← interpolate item
    return item :: (← interpolateItems items)

/-- Entries onto those already made; keys that become the same share one entry. -/
def interpolateEntries (known : Entries Value) :
    List (String × Value) → Except Error (Entries Value)
  | [] => .ok known
  | (key, v) :: es => do
    let key ← i.text vars key
    let v ← interpolate v
    interpolateEntries (known.insert key v) es

end

end Interpolator

/-- A value with every marker replaced, by the standard helpers. -/
def interpolate (v : Value) (vars : VariableStore) : Except Error Value :=
  Interpolator.standard.interpolate vars v

end CaseSuite
