import CaseSuite.Text.Class
/-!
Regular expressions over texts, and whether one matches somewhere in a text. A set of positions in a
text is a number: position `i` is in it when bit `i` is set. An expression takes the positions where
it may start to those where it may end.
-/
set_option autoImplicit false

namespace CaseSuite

inductive CharSet where
  | ranges (rs : List (Nat × Nat))
  | compl (s : CharSet)
  | union (s t : CharSet)
  | inter (s t : CharSet)
  /-- With all case variants. -/
  | folded (s : CharSet)
  /-- With the case variants of the ASCII letters. -/
  | foldedAscii (s : CharSet)

namespace CharSet

def single (c : Char) : CharSet := .ranges [(c.toNat, c.toNat)]

def none : CharSet := .ranges []

def diff (s t : CharSet) : CharSet := .inter s (.compl t)

def symmDiff (s t : CharSet) : CharSet := .union (s.diff t) (t.diff s)

/-- The same ASCII letter in the other case. -/
def otherCase (n : Nat) : Nat :=
  if 0x41 ≤ n && n ≤ 0x5a then n + 0x20 else if 0x61 ≤ n && n ≤ 0x7a then n - 0x20 else n

def has : CharSet → Nat → Bool
  | .ranges rs, n => rs.any fun r => r.1 ≤ n && n ≤ r.2
  | .compl s, n => !s.has n
  | .union s t, n => s.has n || t.has n
  | .inter s t, n => s.has n && t.has n
  | .folded s, n => (Text.caseVariants n).any fun m => s.has m
  | .foldedAscii s, n => s.has n || s.has (otherCase n)

end CharSet

/-- Conditions on the characters around a position. `unicode` tells whether word characters of all
scripts count, `crlf` whether a carriage return ends a line too. -/
inductive Look where
  | textStart
  | textEnd
  | lineStart (crlf : Bool)
  | lineEnd (crlf : Bool)
  | wordBoundary (unicode : Bool)
  | noWordBoundary (unicode : Bool)
  | wordStart (unicode : Bool)
  | wordEnd (unicode : Bool)
  | wordStartHalf (unicode : Bool)
  | wordEndHalf (unicode : Bool)
  deriving DecidableEq, Repr

/-- Whether there is a word character. -/
def Look.isWordAt (unicode : Bool) (c : Option Char) : Bool :=
  match c with
  | some c => if unicode then Text.isWord c else Text.isAsciiWord c
  | none => false

/-- Whether the condition holds between two characters, or at an end of the text. -/
def Look.holds (before after : Option Char) : Look → Bool
  | .textStart => before.isNone
  | .textEnd => after.isNone
  | .lineStart crlf =>
    before.isNone || before == some '\n' || (crlf && before == some '\r' && after != some '\n')
  | .lineEnd crlf =>
    after.isNone || (after == some '\n' && !(crlf && before == some '\r')) ||
      (crlf && after == some '\r')
  | .wordBoundary unicode => isWordAt unicode before != isWordAt unicode after
  | .noWordBoundary unicode => isWordAt unicode before == isWordAt unicode after
  | .wordStart unicode => !isWordAt unicode before && isWordAt unicode after
  | .wordEnd unicode => isWordAt unicode before && !isWordAt unicode after
  | .wordStartHalf unicode => !isWordAt unicode before
  | .wordEndHalf unicode => !isWordAt unicode after

inductive Regex where
  | empty
  /-- One character of a set; `depth` is how deeply the set's brackets nest. -/
  | one (s : CharSet) (depth : Nat)
  | look (l : Look)
  | concat (rs : List Regex)
  | choice (rs : List Regex)
  | times (r : Regex) (least : Nat) (most : Option Nat)
  | group (captures : Bool) (r : Regex)

namespace Regex

/-- The positions before a character of a class. -/
def before (p : Char → Bool) : List Char → Nat
  | [] => 0
  | c :: cs => (if p c then 1 else 0) + 2 * before p cs

/-- The positions where a condition holds; `previous` is the character before the text. -/
def places (l : Look) (previous : Option Char) : List Char → Nat
  | [] => if l.holds previous none then 1 else 0
  | c :: cs => (if l.holds previous (some c) then 1 else 0) + 2 * places l (some c) cs

/-- Applies a function again and again, until nothing changes any more. -/
def iterate (f : Nat → Nat) : (rounds : Nat) → Nat → Nat
  | 0, n => n
  | rounds + 1, n =>
    let m := f n
    if m == n then n else iterate f rounds m

/-- The ends of a repetition. After one more round than the text has characters nothing changes. -/
def repeatEnds (size least : Nat) (most : Option Nat) (f : Nat → Nat) (starts : Nat) : Nat :=
  let rounds := size + 1
  let base := iterate f (min least rounds) starts
  let more := match most with
    | some most => min (most - least) rounds
    | none => rounds
  iterate (fun reached => base ||| f reached) more base

mutual

/-- Where a match may end that starts at one of the given positions. -/
def ends (text : List Char) : Regex → Nat → Nat
  | .empty, starts => starts
  | .one s _, starts => 2 * (starts &&& before (fun c => s.has c.toNat) text)
  | .look l, starts => starts &&& places l none text
  | .concat rs, starts => concatEnds text rs starts
  | .choice rs, starts => choiceEnds text rs starts
  | .times r least most, starts => repeatEnds text.length least most (ends text r) starts
  | .group _ r, starts => ends text r starts

def concatEnds (text : List Char) : List Regex → Nat → Nat
  | [], starts => starts
  | r :: rs, starts => concatEnds text rs (ends text r starts)

def choiceEnds (text : List Char) : List Regex → Nat → Nat
  | [], _ => 0
  | r :: rs, starts => ends text r starts ||| choiceEnds text rs starts

end

def isMatch (r : Regex) (text : String) : Bool :=
  let cs := text.toList
  r.ends cs ((1 <<< (cs.length + 1)) - 1) != 0

end Regex

end CaseSuite
