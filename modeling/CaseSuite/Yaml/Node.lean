import CaseSuite.Yaml.Token
/-!
The nodes of a YAML document. A stream that breaks off leaves a document that is cut there: what
came before is as written, and whoever reads on to the cut finds the fault. An alias holds the
number of its anchor; anchors are numbered by how many names were known before.
-/
set_option autoImplicit false

namespace CaseSuite.Yaml

inductive Node where
  | scalar (tag : Option String) (style : Style) (text : String)
  | list (tag : Option String) (items : List Node)
  | map (tag : Option String) (entries : List (Node × Node))
  | alias (anchor : Nat)
  | cut

/-- What stands where nothing is written. -/
def Node.empty : Node := .scalar none .plain ""

mutual

/-- How many events the node takes in a stream: one for a scalar or an alias, two around the
content of a collection. -/
def Node.size : Node → Nat
  | .scalar _ _ _ | .alias _ => 1
  | .list _ items => 2 + Node.sizeItems items
  | .map _ entries => 2 + Node.sizeEntries entries
  | .cut => 0

def Node.sizeItems : List Node → Nat
  | [] => 0
  | item :: items => item.size + Node.sizeItems items

def Node.sizeEntries : List (Node × Node) → Nat
  | [] => 0
  | (key, value) :: entries => key.size + value.size + Node.sizeEntries entries

end

/-- An anchored node: its number, and its place among all anchors of the document. -/
structure Anchored where
  anchor : Nat
  place : Nat
  node : Node

/-- The composer: tokens that are left, whether the stream broke off, the numbers of the anchors
known by name, and the anchored nodes that are complete. -/
structure Composer where
  tokens : List Token
  broken : Bool
  names : List (String × Nat)
  places : Nat
  anchored : List Anchored
  handles : List (String × String)

namespace Composer

def drop (s : Composer) (n : Nat) : Composer := { s with tokens := s.tokens.drop n }

def stop (s : Composer) : Composer := { s with broken := true }

/-- Names an anchor; answers its number and place. -/
def register (s : Composer) (name : String) : (Nat × Nat) × Composer :=
  let number := s.names.length
  let names := if s.names.any fun n => n.1 == name then
      s.names.map fun n => if n.1 == name then (name, number) else n
    else s.names ++ [(name, number)]
  ((number, s.places), { s with names, places := s.places + 1 })

/-- Anchors and tags before a node, one of each in either order. -/
def properties (s : Composer) : Option String × Option TagName × Composer :=
  match s.tokens with
  | .anchor a :: .tag t :: _ => (some a, some t, s.drop 2)
  | .anchor a :: _ => (some a, none, s.drop 1)
  | .tag t :: .anchor a :: _ => (some a, some t, s.drop 2)
  | .tag t :: _ => (none, some t, s.drop 1)
  | _ => (none, none, s)

/-- The full tag of a name; an unknown handle is a fault. -/
def resolveTag (s : Composer) : Option TagName → Option (Option String)
  | none => some none
  | some t =>
    if t.handle.isEmpty then some (some t.suffix)
    else match s.handles.find? fun h => h.1 == t.handle with
      | some (_, start) => some (some (start ++ t.suffix))
      | none => none

def isBlockNext : Token → Bool
  | .key | .value | .blockEnd => true
  | _ => false

def isFlowNext : Token → Bool
  | .value | .comma => true
  | _ => false

mutual

/-- A node. `fuel` bounds the calls by the tokens that are left. -/
def node : (fuel : Nat) → (block indentless : Bool) → Composer → Node × Composer
  | 0, _, _, s => (.cut, s.stop)
  | fuel + 1, block, indentless, s =>
    match s.tokens with
    | .alias name :: _ =>
      match s.names.find? fun n => n.1 == name with
      | some (_, number) => (.alias number, s.drop 1)
      | none => (.cut, s.stop)
    | _ =>
      let (anchor, tagName, s) := s.properties
      match s.resolveTag tagName, s.tokens with
      | none, _ => (.cut, s.stop)
      | _, [] => (.cut, s.stop)
      | some tag, token :: _ =>
        let bare := anchor.isNone && tag.isNone
        let isNode := match token with
          | .scalar _ _ | .flowSequence | .flowMapping => true
          | .blockSequence | .blockMapping => block || !bare
          | .entry => indentless || !bare
          | _ => !bare
        if !isNode then (.cut, s.stop)
        else
          let (place, s) := match anchor with
            | some name => let (p, s) := s.register name; (some p, s)
            | none => (none, s)
          let (content, s) := match token with
            | .scalar text style =>
              (Node.scalar (if tag == some "!" then none else tag) style text, s.drop 1)
            | .flowSequence =>
              let (items, s) := flowItems fuel true (s.drop 1)
              (Node.list tag items, s)
            | .flowMapping =>
              let (entries, s) := flowEntries fuel true (s.drop 1)
              (Node.map tag entries, s)
            | .blockSequence =>
              if block then
                let (items, s) := blockItems fuel (s.drop 1)
                (Node.list tag items, s)
              else (Node.scalar tag .plain "", s)
            | .blockMapping =>
              if block then
                let (entries, s) := blockEntries fuel (s.drop 1)
                (Node.map tag entries, s)
              else (Node.scalar tag .plain "", s)
            | .entry =>
              if indentless then
                let (items, s) := indentlessItems fuel s
                (Node.list tag items, s)
              else (Node.scalar tag .plain "", s)
            | _ => (Node.scalar tag .plain "", s)
          match place with
          | some (number, place) =>
            (content, { s with anchored := ⟨number, place, content⟩ :: s.anchored })
          | none => (content, s)

/-- Items of a block sequence, up to its end. -/
def blockItems : (fuel : Nat) → Composer → List Node × Composer
  | 0, s => ([.cut], s.stop)
  | fuel + 1, s =>
    match s.tokens with
    | .blockEnd :: _ => ([], s.drop 1)
    | .entry :: next :: _ =>
      let (item, s) :=
        if next == .entry || next == .blockEnd then (Node.empty, s.drop 1)
        else node fuel true false (s.drop 1)
      if s.broken then ([item], s)
      else
        let (items, s) := blockItems fuel s
        (item :: items, s)
    | _ => ([.cut], s.stop)

/-- Items of a sequence that stands at the indentation of its mapping. -/
def indentlessItems : (fuel : Nat) → Composer → List Node × Composer
  | 0, s => ([.cut], s.stop)
  | fuel + 1, s =>
    match s.tokens with
    | .entry :: next :: _ =>
      let (item, s) :=
        if next == .entry || isBlockNext next then (Node.empty, s.drop 1)
        else node fuel true false (s.drop 1)
      if s.broken then ([item], s)
      else
        let (items, s) := indentlessItems fuel s
        (item :: items, s)
    | .entry :: [] | [] => ([.cut], s.stop)
    | _ => ([], s)

/-- Entries of a block mapping, up to its end. -/
def blockEntries : (fuel : Nat) → Composer → List (Node × Node) × Composer
  | 0, s => ([(.cut, .cut)], s.stop)
  | fuel + 1, s =>
    match s.tokens with
    | .blockEnd :: _ => ([], s.drop 1)
    | .key :: next :: _ =>
      let (key, s) :=
        if isBlockNext next then (Node.empty, s.drop 1) else node fuel true true (s.drop 1)
      if s.broken then ([(key, .cut)], s)
      else
        let (value, s) := blockValue fuel s
        if s.broken then ([(key, value)], s)
        else
          let (entries, s) := blockEntries fuel s
          ((key, value) :: entries, s)
    | .value :: _ => ([(.cut, .cut)], s.stop)
    | _ => ([(.cut, .cut)], s.stop)

/-- The value of a block mapping's entry; nothing may be written for it. -/
def blockValue : (fuel : Nat) → Composer → Node × Composer
  | 0, s => (.cut, s.stop)
  | fuel + 1, s =>
    match s.tokens with
    | .value :: next :: _ =>
      if isBlockNext next then (Node.empty, s.drop 1) else node fuel true true (s.drop 1)
    | .value :: [] | [] => (.cut, s.stop)
    | _ => (Node.empty, s)

/-- Items of a flow sequence, up to its end; a pair may stand for a mapping of one entry. -/
def flowItems : (fuel : Nat) → (first : Bool) → Composer → List Node × Composer
  | 0, _, s => ([.cut], s.stop)
  | fuel + 1, first, s =>
    match s.tokens with
    | .flowSequenceEnd :: _ => ([], s.drop 1)
    | token :: _ =>
      if !first && token != .comma then ([.cut], s.stop)
      else
        let s := if first then s else s.drop 1
        match s.tokens with
        | [] => ([.cut], s.stop)
        | .flowSequenceEnd :: _ => ([], s.drop 1)
        | token :: _ =>
          let (item, s) := match token with
            | .key =>
              let (entry, s) := flowPair fuel (s.drop 1)
              (Node.map none [entry], s)
            | _ => node fuel false false s
          if s.broken then ([item], s)
          else
            let (items, s) := flowItems fuel false s
            (item :: items, s)
    | [] => ([.cut], s.stop)

/-- The one entry of a pair inside a flow sequence. Without a key the token after it is lost. -/
def flowPair : (fuel : Nat) → Composer → (Node × Node) × Composer
  | 0, s => ((.cut, .cut), s.stop)
  | fuel + 1, s =>
    match s.tokens with
    | [] => ((.cut, .cut), s.stop)
    | next :: _ =>
      let (key, s) :=
        if isFlowNext next || next == .flowSequenceEnd then (Node.empty, s.drop 1)
        else node fuel false false s
      if s.broken then ((key, .cut), s)
      else
        let (value, s) := flowValue fuel .flowSequenceEnd s
        ((key, value), s)

/-- The value of an entry in flow style; `close` is what ends the collection around it. -/
def flowValue : (fuel : Nat) → (close : Token) → Composer → Node × Composer
  | 0, _, s => (.cut, s.stop)
  | fuel + 1, close, s =>
    match s.tokens with
    | .value :: next :: _ =>
      if next == .comma || next == close then (Node.empty, s.drop 1)
      else node fuel false false (s.drop 1)
    | .value :: [] | [] => (.cut, s.stop)
    | _ => (Node.empty, s)

/-- Entries of a flow mapping, up to its end. -/
def flowEntries : (fuel : Nat) → (first : Bool) → Composer → List (Node × Node) × Composer
  | 0, _, s => ([(.cut, .cut)], s.stop)
  | fuel + 1, first, s =>
    match s.tokens with
    | .flowMappingEnd :: _ => ([], s.drop 1)
    | token :: _ =>
      if !first && token != .comma then ([(.cut, .cut)], s.stop)
      else
        let s := if first then s else s.drop 1
        match s.tokens with
        | .flowMappingEnd :: _ => ([], s.drop 1)
        | .key :: next :: _ =>
          let (key, s) :=
            if isFlowNext next || next == .flowMappingEnd then (Node.empty, s.drop 1)
            else node fuel false false (s.drop 1)
          if s.broken then ([(key, .cut)], s)
          else
            let (value, s) := flowValue fuel .flowMappingEnd s
            if s.broken then ([(key, value)], s)
            else
              let (entries, s) := flowEntries fuel false s
              ((key, value) :: entries, s)
        | .key :: [] | [] => ([(.cut, .cut)], s.stop)
        | _ =>
          let (key, s) := node fuel false false s
          if s.broken then ([(key, .cut)], s)
          else
            let (entries, s) := flowEntries fuel false s
            ((key, .empty) :: entries, s)
    | [] => ([(.cut, .cut)], s.stop)

end

/-- Directives before a document: at most one version, which must be known, and each handle once.
What is known without a directive comes last. -/
def directives : (version : Bool) → (handles : List (String × String)) → List Token →
    Option (List (String × String) × List Token)
  | version, handles, .directive (.version major minor) :: tokens =>
    if version || major != 1 || (minor != 1 && minor != 2) then none
    else directives true handles tokens
  | version, handles, .directive (.tag handle start) :: tokens =>
    if handles.any fun h => h.1 == handle then none
    else directives version (handles ++ [(handle, start)]) tokens
  | _, handles, tokens => some (handles ++ [("!", "!"), ("!!", "tag:yaml.org,2002:")], tokens)

end Composer

/-- A document: its root, its anchored nodes, and whether the stream ends after it as it should. -/
structure Document where
  root : Node
  anchored : List Anchored
  complete : Bool

namespace Document

def start (tokens : List Token) (handles : List (String × String)) : Composer :=
  ⟨tokens, false, [], 0, [], handles⟩

/-- Whether nothing comes after the root but the end of the stream. -/
def endsAfter (tokens : List Token) : Bool :=
  match tokens.dropWhile fun t => t == .documentEnd with
  | .streamEnd :: _ => true
  | _ => false

def ofRoot (s : Composer) : Document :=
  let (root, s) := s.node (4 * s.tokens.length + 4) true false
  ⟨root, s.anchored, !s.broken && endsAfter s.tokens⟩

/-- The only document of a stream. An empty stream is an empty document. -/
def ofTokens (tokens : List Token) : Document :=
  let opens := match tokens with
    | .directive _ :: _ | .documentStart :: _ => true
    | _ => false
  match Composer.directives false [] tokens, tokens with
  | none, _ | _, [] => ⟨.cut, [], false⟩
  | _, .streamEnd :: _ => ⟨.empty, [], true⟩
  | some (handles, rest), _ =>
    if opens then
      match rest with
      | .documentStart :: next :: rest =>
        match next with
        | .directive _ | .documentStart | .documentEnd | .streamEnd =>
          ⟨.empty, [], endsAfter (next :: rest)⟩
        | _ => ofRoot (start (next :: rest) handles)
      | _ => ⟨.cut, [], false⟩
    else ofRoot (start tokens handles)

def ofText (text : String) : Document := ofTokens (Token.scan text)

/-- The node of an anchor: of several with its number, the last one to begin. -/
def target? (d : Document) (anchor : Nat) : Option Node :=
  let found := d.anchored.filter fun a => a.anchor == anchor
  (found.find? fun a => found.all fun b => b.place ≤ a.place).map Anchored.node

end Document

end CaseSuite.Yaml
