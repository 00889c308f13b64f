/-!
Why a disk refuses to do something.
-/
set_option autoImplicit false

namespace CaseSuite.Disk

inductive Fault where
  | notFound
  | exists
  | notDirectory
  | isDirectory
  | nameTooLong
  | tooManyLinks
  | nulByte
  /-- What only some disks refuse, with its number and in words. -/
  | other (number : Nat) (text : String)
  deriving DecidableEq, Repr

/-- The fault in words, with its number where it has one. -/
def Fault.message : Fault → String
  | .notFound => "No such file or directory (os error 2)"
  | .exists => "File exists (os error 17)"
  | .notDirectory => "Not a directory (os error 20)"
  | .isDirectory => "Is a directory (os error 21)"
  | .nameTooLong => "File name too long (os error 36)"
  | .tooManyLinks => "Too many levels of symbolic links (os error 40)"
  | .nulByte => "file name contained an unexpected NUL byte"
  | .other number text => s!"{text} (os error {number})"

def Fault.ofNumber (number : Nat) (text : String) : Fault :=
  match number with
  | 2 => .notFound
  | 17 => .exists
  | 20 => .notDirectory
  | 21 => .isDirectory
  | 36 => .nameTooLong
  | 40 => .tooManyLinks
  | number => .other number text

end CaseSuite.Disk
