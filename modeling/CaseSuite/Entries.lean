/-!
Ordered entries: a list of names with what stands under them, each name once. Writing under a name
keeps its place; a new name goes to the end.
-/
set_option autoImplicit false

namespace CaseSuite

abbrev Entries (α : Type) := List (String × α)

namespace Entries

variable {α β : Type}

def names (es : Entries α) : List String := es.map Prod.fst

def find? (name : String) : Entries α → Option α
  | [] => none
  | (key, a) :: es => if key == name then some a else find? name es

def has (name : String) (es : Entries α) : Bool := (es.find? name).isSome

/-- Writes under a name, in its place if it has one. -/
def insert (es : Entries α) (name : String) (a : α) : Entries α :=
  match es with
  | [] => [(name, a)]
  | (key, b) :: es => if key == name then (name, a) :: es else (key, b) :: insert es name a

/-- Writes all entries of the second list onto the first. -/
def insertAll (es fs : Entries α) : Entries α := fs.foldl (fun es f => es.insert f.1 f.2) es

/-- The entries of a list whose names may repeat: first place, last value. -/
def ofList (es : List (String × α)) : Entries α := insertAll [] es

def mapValues (f : α → β) (es : Entries α) : Entries β := es.map fun e => (e.1, f e.2)

/-- Writes under a name and keeps the names in rising order. -/
def insertSorted (es : Entries α) (name : String) (a : α) : Entries α :=
  match es with
  | [] => [(name, a)]
  | (key, b) :: es =>
    if name < key then (name, a) :: (key, b) :: es
    else if key == name then (name, a) :: es
    else (key, b) :: insertSorted es name a

/-- The entries in rising order of their names; a repeated name takes its last value. -/
def sort (es : Entries α) : Entries α := es.foldl (fun es e => es.insertSorted e.1 e.2) []

end Entries

end CaseSuite
