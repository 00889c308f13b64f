import CaseSuite.Pattern.Basic
/-!
Compiling values to patterns. The first marker key of an object decides what it stands for, and each
kind of marker says what may stand beside it.
-/
set_option autoImplicit false

namespace CaseSuite

/-- A marker: its key, what it asks for, and its value. -/
structure MarkerEntry where
  key : String
  name : String
  value : Value

/-- The first entry of an object whose key is a marker. -/
def firstMarker? : List (String × Value) → Option MarkerEntry
  | [] => none
  | (key, v) :: es =>
    match markerName? key with
    | some name => some ⟨key, name, v⟩
    | none => firstMarker? es

namespace Pattern

/-- A marker that replaces its whole object must stand alone. -/
def aloneIn (place : Place) (m : MarkerEntry) (es : List (String × Value)) : Except Error Unit :=
  if 1 < es.length then .error (.pattern place (.notAlone m.key)) else .ok ()

def compileExists (place : Place) (m : MarkerEntry) (es : List (String × Value)) :
    Except Error Pattern := do
  aloneIn place m es
  match m.value.asBool? with
  | some expected => return .present expected
  | none => throw (.pattern place (.notBool m.key m.value.display))

def compileRegexp (place : Place) (m : MarkerEntry) (es : List (String × Value)) :
    Except Error Pattern := do
  aloneIn place m es
  match m.value.asStr? with
  | none => throw (.pattern place (.regexpNotText m.key m.value.display))
  | some source =>
    match Regex.read source with
    | some r => return .regexp source r
    | none => throw (.pattern place (.regexp source))

/-- The format to convert to; it is JSON, with no other marker beside it. -/
def checkFormat (place : Place) (m : MarkerEntry) (es : List (String × Value)) :
    Except Error Unit :=
  match m.value.asStr? with
  | none => .error (.pattern place (.formatNotText m.value.display))
  | some format =>
    if format != "json" then .error (.pattern place (.unknownFormat format))
    else match (es.map Prod.fst).find? fun key => key != m.key && isMarkerKey key with
      | some other => .error (.pattern place (.notTogether m.key other))
      | none => .ok ()

mutual

def compileAt (place : Place) : Value → Except Error Pattern
  | .list items => .list <$> compileItems place 0 items
  | .object es =>
    match firstMarker? es with
    | none => .object <$> compileFields place none es
    | some m =>
      match m.name with
      | "exist" | "exists" => compileExists place m es
      | "regexp" => compileRegexp place m es
      | "convert" => do
        checkFormat place m es
        return .json (.object (← compileFields place (some m.key) es))
      | name => .error (.pattern place (.unknownMarker name))
  | v => .ok (.literal v)

/-- The patterns of items, the first of which has the given index. -/
def compileItems (place : Place) (index : Nat) : List Value → Except Error (List Pattern)
  | [] => .ok []
  | item :: items => do
    let p ← compileAt (place ++ [.index index]) item
    return p :: (← compileItems place (index + 1) items)

/-- The patterns of fields, without the one under the skipped key. -/
def compileFields (place : Place) (skipped : Option String) :
    List (String × Value) → Except Error (List (String × Pattern))
  | [] => .ok []
  | (key, v) :: es =>
    if skipped == some key then compileFields place skipped es
    else do
      let p ← compileAt (place ++ [.key key]) v
      return (key, p) :: (← compileFields place skipped es)

end

def compile (v : Value) : Except Error Pattern := compileAt [] v

end Pattern

end CaseSuite
