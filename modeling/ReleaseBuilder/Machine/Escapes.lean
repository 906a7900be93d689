/-
# Escapes

What stands behind a backslash in a text that is printed: a letter for a control, or the
octal digits of an octet.
-/

import ReleaseBuilder.Machine.Shell.Calculation

namespace ReleaseBuilder.Machine

/-- Whether a character is an octal digit. -/
def isOctal (c : Char) : Bool := '0' ≤ c && c ≤ '7'

/-- The octet of a number, as a narrow character. -/
def octetChar (n : Nat) : Char := Char.ofNat (n % 256)

/-- The control that a letter stands for. -/
def controlOf? : Char → Option Char
  | 'a' => some (Char.ofNat 7)
  | 'b' => some (Char.ofNat 8)
  | 'e' => some (Char.ofNat 27)
  | 'f' => some (Char.ofNat 12)
  | 'n' => some '\n'
  | 'r' => some '\r'
  | 't' => some '\t'
  | 'v' => some (Char.ofNat 11)
  | '\\' => some '\\'
  | _ => none

/-- The octet of the octal digits at the front, at most so many, and what follows them. -/
def octalAt? (most : Nat) (cs : List Char) : Option (Char × List Char) :=
  let digits := (cs.take most).takeWhile isOctal
  if digits.isEmpty then none
  else some (octetChar (Shell.numberOf 8 digits), cs.drop digits.length)

end ReleaseBuilder.Machine
