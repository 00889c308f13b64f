/-!
UTF-8 text in byte strings. A well-formed byte string is its text; in any other, each longest start
of a character that cannot go on is read as U+FFFD.
-/
set_option autoImplicit false

namespace CaseSuite.Utf8

def replacement : Char := '\ufffd'

/-- How many bytes a leading byte asks for, the bounds of the next one, and its own payload. -/
def lead (b : UInt8) : Option (Nat × UInt8 × UInt8 × Nat) :=
  let n := b.toNat
  if 0xc2 ≤ n && n ≤ 0xdf then some (1, 0x80, 0xbf, n - 0xc0)
  else if n == 0xe0 then some (2, 0xa0, 0xbf, 0)
  else if n == 0xed then some (2, 0x80, 0x9f, 13)
  else if 0xe1 ≤ n && n ≤ 0xef then some (2, 0x80, 0xbf, n - 0xe0)
  else if n == 0xf0 then some (3, 0x90, 0xbf, 0)
  else if 0xf1 ≤ n && n ≤ 0xf3 then some (3, 0x80, 0xbf, n - 0xf0)
  else if n == 0xf4 then some (3, 0x80, 0x8f, 4)
  else none

/-- Reads bytes when `owed` more belong to the character begun with `payload`. -/
def repair (owed : Nat) (low high : UInt8) (payload : Nat) : List UInt8 → List Char
  | [] => if owed == 0 then [] else [replacement]
  | b :: rest =>
    if owed != 0 && low ≤ b && b ≤ high then
      let payload := payload * 64 + (b.toNat - 0x80)
      if owed == 1 then Char.ofNat payload :: repair 0 0 0 0 rest
      else repair (owed - 1) 0x80 0xbf payload rest
    else
      let begun := if owed == 0 then [] else [replacement]
      if b < 0x80 then begun ++ Char.ofNat b.toNat :: repair 0 0 0 0 rest
      else match lead b with
        | some (owed, low, high, payload) => begun ++ repair owed low high payload rest
        | none => begun ++ replacement :: repair 0 0 0 0 rest

/-- The text of a byte string, with every ill-formed part replaced. -/
def text (bytes : ByteArray) : String :=
  match String.fromUTF8? bytes with
  | some s => s
  | none => String.ofList (repair 0 0 0 0 bytes.data.toList)

/-- The position of the first byte that is not part of a well-formed text, if there is one. -/
def faultAt (bytes : List UInt8) : Option Nat := go 0 bytes 0 0 0 0
where
  /-- Reads at `position`, with `owed` bytes missing from a character of `length` bytes so far. -/
  go (position : Nat) : List UInt8 → (owed : Nat) → (low high : UInt8) → (length : Nat) →
      Option Nat
  | [], owed, _, _, length => if owed == 0 then none else some (position - length)
  | b :: rest, owed, low, high, length =>
    if owed == 0 then
      if b < 0x80 then go (position + 1) rest 0 0 0 0
      else match lead b with
        | some (owed, low, high, _) => go (position + 1) rest owed low high 1
        | none => some position
    else if low ≤ b && b ≤ high then
      if owed == 1 then go (position + 1) rest 0 0 0 0
      else go (position + 1) rest (owed - 1) 0x80 0xbf (length + 1)
    else some (position - length)

end CaseSuite.Utf8
