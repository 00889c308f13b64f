import CaseSuite.Text.WordTable
import CaseSuite.Text.HiddenTable
import CaseSuite.Text.FoldTable
/-!
Classes of characters that the suite's texts depend on: blanks, word characters, decimal numbers,
characters a quoted text hides, and simple case folding. ASCII is decided by the character alone,
the rest by the tables.
-/
set_option autoImplicit false

namespace CaseSuite.Text

/-- Membership in a list of closed ranges of code points. -/
def inRanges (ranges : List (Nat × Nat)) (c : Char) : Bool :=
  ranges.any fun r => r.1 ≤ c.toNat && c.toNat ≤ r.2

/-- White space past ASCII, as closed ranges in rising order. -/
def blankRanges : List (Nat × Nat) :=
  [(0x85, 0x85), (0xa0, 0xa0), (0x1680, 0x1680), (0x2000, 0x200a), (0x2028, 0x2029),
   (0x202f, 0x202f), (0x205f, 0x205f), (0x3000, 0x3000)]

def isBlank (c : Char) : Bool :=
  c == ' ' || (0x9 ≤ c.toNat && c.toNat ≤ 0xd) || (0x80 ≤ c.toNat && inRanges blankRanges c)

def isAsciiWord (c : Char) : Bool := c.isAlphanum || c == '_'

/-- Letters, marks, decimal numbers, connectors and joiners of any script. -/
def isWord (c : Char) : Bool :=
  isAsciiWord c || (0x80 ≤ c.toNat && inRanges wordRanges c)

/-- Characters that a quoted text shows by their code point. -/
def isHidden (c : Char) : Bool :=
  c.toNat < 0x20 || c.toNat == 0x7f || (0x80 ≤ c.toNat && inRanges hiddenRanges c)

def foldRun (n : Nat) : Nat × Nat × Nat × Nat → Option Nat
  | (first, last, step, target) =>
    if first ≤ n && n ≤ last && (n - first) % step == 0 then some (target + (n - first)) else none

/-- The code point that stands for all case variants of this one. -/
def foldCase (n : Nat) : Nat := (foldRuns.findSome? (foldRun n)).getD n

/-- Members of a run that fold to the given code point. -/
def unfoldRun (n : Nat) : Nat × Nat × Nat × Nat → Option Nat
  | (first, last, step, target) =>
    let size := last - first
    if target ≤ n && n ≤ target + size && (n - target) % step == 0 then some (first + (n - target))
    else none

/-- All case variants of a code point, itself among them. -/
def caseVariants (n : Nat) : List Nat :=
  let base := foldCase n
  base :: foldRuns.filterMap (unfoldRun base)

def trim (cs : List Char) : List Char :=
  ((cs.dropWhile isBlank).reverse.dropWhile isBlank).reverse

end CaseSuite.Text
