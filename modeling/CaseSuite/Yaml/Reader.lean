import CaseSuite.Yaml.Scalar
import CaseSuite.Yaml.Data
/-!
Readers of a YAML document. They go through it in its order and report the first fault. An alias is
read as the node it stands for; how often that happens is bounded by the document's size, and how
deeply collections nest by a limit, so documents that contain themselves are faults too.
-/
set_option autoImplicit false

namespace CaseSuite.Yaml

/-- A reader counts the aliases it has followed. -/
abbrev Reader (α : Type) := StateT Nat (Except Fault) α

def depthLimit : Nat := 128

/-- How many aliases may be followed for each event of the document. -/
def aliasLimit : Nat := 100

def Node.mismatch (expected : String) : Node → Fault
  | .scalar tag style s =>
    match Scalar.read tag style s with
    | .ok content => .wrongType content.found expected
    | .error fault => fault
  | .list _ _ => .wrongType .list expected
  | .map _ _ => .wrongType .map expected
  | .alias _ | .cut => .malformed

def Node.isUnwritten : Node → Bool
  | .scalar _ style s => style == .plain && s.isEmpty
  | _ => false

/-- A tag of the document's own, without its mark unless that is all. -/
def Node.ownTag? : Node → Option String
  | .scalar tag .. | .list tag .. | .map tag .. =>
    match (tag.getD "").toList with
    | ['!'] => some "!"
    | '!' :: name => some (String.ofList name)
    | _ => none
  | .alias _ | .cut => none

namespace Document

variable {α : Type} (d : Document)

def follow : Node → Reader Node
  | .alias anchor => do
    let followed : Nat ← get
    if aliasLimit * d.root.size ≤ followed then throw .malformed
    else
      set (followed + 1)
      match d.target? anchor with
      | some node => return node
      | none => throw .malformed
  | node => return node

def items (expected : String) (depth : Nat) (node : Node) : Reader (List Node × Nat) := do
  let node ← d.follow node
  match node, depth with
  | .list _ items, depth + 1 => return (items, depth)
  | .list _ _, 0 => throw .malformed
  | node, _ => if node.isUnwritten then return ([], depth) else throw (node.mismatch expected)

def entries (expected : String) (depth : Nat) (node : Node) :
    Reader (List (Node × Node) × Nat) := do
  let node ← d.follow node
  match node, depth with
  | .map _ entries, depth + 1 => return (entries, depth)
  | .map _ _, 0 => throw .malformed
  | node, _ => if node.isUnwritten then return ([], depth) else throw (node.mismatch expected)

def text (expected : String) (node : Node) : Reader String := do
  match ← d.follow node with
  | .scalar _ _ s => return s
  | node => throw (node.mismatch expected)

/-- The text of a scalar that may stand for a number or a truth value. -/
def bareText? (tag : String) : Node → Option String
  | .scalar _ .plain s => some s
  | .scalar (some t) .literal s => if t == Scalar.coreTag tag then some s else none
  | _ => none

def bool (node : Node) : Reader Bool := do
  let node ← d.follow node
  match (bareText? "bool" node).bind Scalar.readBool with
  | some b => return b
  | none => throw (node.mismatch "a boolean")

/-- A whole number below the bound that the expectation names. -/
def natural (bound : Nat) (expected : String) (node : Node) : Reader Nat := do
  let node ← d.follow node
  let unsigned (s : String) : Option Nat :=
    match s.toList with
    | '+' :: cs | cs => (Scalar.readUnsigned cs).filter (· < UInt64.size)
  match (bareText? "int" node).bind unsigned with
  | some n => if n < bound then return n else throw (.wrongValue (.int n) expected)
  | none => throw (node.mismatch expected)

/-- Whether nothing is written, or null. -/
def isAbsent : Node → Except Fault Bool
  | .scalar none .plain s => .ok (s.isEmpty || Scalar.isNull s)
  | .scalar (some tag) .plain s =>
    if tag == Scalar.coreTag "null" then
      if Scalar.isNull s then .ok true else .error (.wrongValue (.text s) "null")
    else .ok false
  | _ => .ok false

/-- Nothing for a node that is absent. -/
def optional (read : Node → Reader α) (node : Node) : Reader (Option α) := do
  let node ← d.follow node
  if ← isAbsent node then return none else some <$> read node

def list (read : (depth : Nat) → Node → Reader α) (depth : Nat) (node : Node) :
    Reader (List α) := do
  let (items, depth) ← d.items "a sequence" depth node
  items.mapM (read depth)

/-- Entries under their names, onto those already read. -/
def readNamed (read : Node → Reader α) (known : Entries α) : List (Node × Node) →
    Reader (Entries α)
  | [] => return known
  | (key, value) :: entries => do
    let name ← d.text "a string" key
    let a ← read value
    readNamed read (known.insert name a) entries

def named (read : (depth : Nat) → Node → Reader α) (depth : Nat) (node : Node) :
    Reader (Entries α) := do
  let (entries, depth) ← d.entries "a map" depth node
  d.readNamed (read depth) [] entries

/-- The fields of a record, each at most once; also answers which ones were there. -/
def readFields (names : List String) (read : String → Node → α → Reader α) (seen : List String)
    (a : α) : List (Node × Node) → Reader (α × List String)
  | [] => return (a, seen)
  | (key, value) :: entries => do
    let name ← d.text "field identifier" key
    if !names.contains name then throw (.unknownField name names)
    else if seen.contains name then throw (.repeatedField name)
    else
      let a ← read name value a
      readFields names read (seen ++ [name]) a entries

/-- A record: `read` takes a field into what is known; the required ones must be there. -/
def record (title : String) (names required : List String) (blank : α)
    (read : (depth : Nat) → String → Node → α → Reader α) (depth : Nat) (node : Node) :
    Reader α := do
  let (entries, depth) ← d.entries ("struct " ++ title) depth node
  let (a, seen) ← d.readFields names (read depth) [] blank entries
  match required.find? fun name => !seen.contains name with
  | some name => throw (.missingField name)
  | none => return a

/-- How data are read: at once, or set aside until it is known what they are for. What is set aside
takes no tags of the document's own, and its repeated keys are not yet refused. -/
inductive Intake where
  | direct
  | aside
  deriving DecidableEq

def Intake.expected : Intake → String
  | .direct => "any YAML value"
  | .aside => "any value"

def scalarData (intake : Intake) : Scalar → Reader Data
  | .null => return .null
  | .bool b => return .bool b
  | .int n =>
    if -0x8000_0000_0000_0000 ≤ n && n < 0x1_0000_0000_0000_0000 then return .int n
    else throw (.wrongType (.int n) intake.expected)
  | .float x => return .float x
  | .text s => return .text s

def dataEntries (intake : Intake) (read : Node → Reader Data) (known : List (Data × Data)) :
    List (Node × Node) → Reader (List (Data × Data))
  | [] => return known
  | (key, value) :: entries => do
    let key ← read key
    match if intake == .direct then Data.findKey? key known else none with
    | some (first, _) => throw (.repeatedKey first.asRepeatedKey)
    | none =>
      let value ← read value
      dataEntries intake read (known ++ [(key, value)]) entries

/-- The content of a node apart from its own tag; `below` reads what it contains. -/
def content (intake : Intake) (below : Option (Node → Reader Data)) (bare : Bool) (node : Node) :
    Reader Data := do
  match node, below with
  | .scalar tag style s, _ =>
    scalarData intake (← Scalar.read (if bare then none else tag) style s)
  | .list _ items, some read => return .list (← items.mapM read)
  | .map _ entries, some read => return .map (← dataEntries intake read [] entries)
  | _, _ => throw .malformed

/-- Data of any kind; nothing may be below where no depth is left. -/
def anyData (intake : Intake) (below : Option (Node → Reader Data)) (node : Node) :
    Reader Data := do
  let node ← d.follow node
  match node.ownTag?, intake with
  | some tag, .direct => return .tagged tag (← content intake below true node)
  | some _, .aside => throw .malformed
  | none, _ => content intake below false node

def data (intake : Intake) : (depth : Nat) → Node → Reader Data
  | 0 => d.anyData intake none
  | depth + 1 => d.anyData intake (some (data intake depth))

def value (depth : Nat) (node : Node) : Reader Value := Data.toValue <$> d.data .direct depth node

def run (read : (depth : Nat) → Node → Reader α) : Except Fault α := do
  let (a, _) ← (read depthLimit d.root).run 0
  if d.complete then return a else throw .malformed

end Document

def readValue (text : String) : Except Fault Value :=
  let d := Document.ofText text
  d.run d.value

end CaseSuite.Yaml
