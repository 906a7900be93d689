/-
# Shortest decimal texts

A finite number is written with the fewest digits that round back to it, and of those
with the ones nearest to it. To find them, the powers of ten are tried from the largest
one down: the first of whose multiples one rounds back to the number has the fewest
digits. Only the two multiples around the number need to be looked at, since the numbers
that round back to it lie around it without gaps.
-/

import ReleaseBuilder.Decimal.Nearest

namespace ReleaseBuilder.Decimal

/-- The bounds of what rounds to a number, in quarters of the last place of its significand.
Below a power of two the neighbour is half as far away. -/
def bounds (significand : Nat) (exponent : Int) : Nat × Nat :=
  let narrow := significand = Binary64.significandLimit / 2 ∧ Binary64.leastExponent < exponent
  (4 * significand - (if narrow then 1 else 2), 4 * significand + 2)

/-- The multiple of a power of ten that stands for a number, if one rounds back to it. An
even significand owns the bounds; of two multiples equally near the upper one is taken. -/
def multiple? (significand : Nat) (exponent power : Int) : Option Nat :=
  let (binaryAbove, binaryUnder) := factors 2 (exponent - 2)
  let (decimalAbove, decimalUnder) := factors 10 power
  let grid := decimalAbove * binaryUnder
  let quarter := binaryAbove * decimalUnder
  let value := 4 * significand * quarter
  let (least, greatest) := bounds significand exponent
  let holds (n : Nat) : Bool :=
    if significand % 2 = 0 then least * quarter ≤ n * grid && n * grid ≤ greatest * quarter
    else least * quarter < n * grid && n * grid < greatest * quarter
  let below := value / grid
  let nearerBelow := value - below * grid < (below + 1) * grid - value
  match holds below, holds (below + 1) with
  | true, true => some (if nearerBelow then below else below + 1)
  | true, false => some below
  | false, true => some (below + 1)
  | false, false => none

/-- The least power of ten that is tried. Seventeen digits always suffice. -/
def leastPower : Int := -343

/-- The number of powers that are tried above the least one. -/
def powerCount : Nat := 652

/-- The digits and the power of ten found among the powers up to the given one. -/
def search (significand : Nat) (exponent : Int) : Nat → Nat × Int
  | 0 => (0, 0)
  | n + 1 =>
    let power := leastPower + n
    match multiple? significand exponent power with
    | some digits => (digits, power)
    | none => search significand exponent n

/-- The digits and the power of ten of a number's shortest text. -/
def shortest (significand : Nat) (exponent : Int) : Nat × Int :=
  search significand exponent (powerCount + 1)

/-- Digits times a power of ten with a decimal point and without an exponent. -/
def positional (digits : Nat) (power : Int) : String :=
  let shown := Nat.toDigits 10 digits
  if 0 ≤ power then String.ofList (shown ++ List.replicate power.toNat '0') ++ ".0"
  else
    let places := (-power).toNat
    let padded := List.replicate (places + 1 - shown.length) '0' ++ shown
    let whole := padded.length - places
    String.ofList (padded.take whole) ++ "." ++ String.ofList (padded.drop whole)

/-- The text of a number. -/
def Binary64.text : Binary64 → String
  | finite negative significand exponent =>
    let (digits, power) := if significand = 0 then (0, 0) else shortest significand exponent
    (if negative then "-" else "") ++ positional digits power
  | infinite negative => if negative then "-inf" else "inf"
  | notANumber => "NaN"

end ReleaseBuilder.Decimal
