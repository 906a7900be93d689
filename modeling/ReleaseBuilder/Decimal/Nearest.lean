/-
# Numbers of the binary64 format

A decimal literal denotes the number of the binary64 format that is nearest to it; of two
that are equally near, the one with the even significand. Numbers too large for the
format round to infinity.
-/

namespace ReleaseBuilder.Decimal

/-- A number of the binary64 format. A finite one is its significand times a power of two. -/
inductive Binary64 where
  | finite (negative : Bool) (significand : Nat) (exponent : Int)
  | infinite (negative : Bool)
  | notANumber
  deriving DecidableEq, Repr

namespace Binary64

/-- The significand stays below this number. -/
def significandLimit : Nat := Nat.pow 2 53

/-- The least power of two that a significand is multiplied with. -/
def leastExponent : Int := -1074

/-- The greatest power of two that a significand is multiplied with. -/
def greatestExponent : Int := 971

end Binary64

/-- A base to a power as the factors above and below a fraction bar. -/
def factors (base : Nat) (exponent : Int) : Nat × Nat :=
  (Nat.pow base exponent.toNat, Nat.pow base (-exponent).toNat)

/-- A quotient rounded to the nearest natural number, a half to the even neighbour. -/
def roundEven (num den : Nat) : Nat :=
  let below := num / den
  let twice := 2 * (num % den)
  if twice < den then below
  else if den < twice then below + 1
  else below + below % 2

/-- The power of two for a quotient: the one that gives the significand all its bits, as far
as the format goes down. -/
def exponentFor (num den : Nat) : Int :=
  let guess : Int := (Nat.log2 num : Int) - Nat.log2 den - 53
  let (above, under) := factors 2 guess
  let fitting :=
    if num * under / (den * above) < Binary64.significandLimit then guess else guess + 1
  max fitting Binary64.leastExponent

/-- The number of the format nearest to a quotient. -/
def nearestQuotient (negative : Bool) (num den : Nat) : Binary64 :=
  let exponent := exponentFor num den
  let (above, under) := factors 2 exponent
  let rounded := roundEven (num * under) (den * above)
  let (significand, exponent) :=
    if rounded < Binary64.significandLimit then (rounded, exponent)
    else (rounded / 2, exponent + 1)
  if exponent ≤ Binary64.greatestExponent then .finite negative significand exponent
  else .infinite negative

/-- Decimal numbers with more digits before the point than this round to infinity. -/
def mostDigits : Int := 310

/-- Decimal numbers with more zeros behind the point than this round to zero. -/
def mostZeros : Int := 330

/-- The number of the format nearest to `digits` times a power of ten. -/
def nearest (negative : Bool) (digits : Nat) (exponent : Int) : Binary64 :=
  let places : Int := (Nat.toDigits 10 digits).length + exponent
  if digits = 0 ∨ places < -mostZeros then .finite negative 0 Binary64.leastExponent
  else if mostDigits < places then .infinite negative
  else
    let (above, under) := factors 10 exponent
    nearestQuotient negative (digits * above) under

example : nearest false 1 0 = .finite false (2 ^ 52) (-52) := by decide +kernel

example : nearest true 5 (-324) = .finite true 1 (-1074) := by decide +kernel

example : nearest false 17976931348623159 292 = .infinite false := by decide +kernel

end ReleaseBuilder.Decimal
