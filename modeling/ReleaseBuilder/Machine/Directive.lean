/-
# Directives of formats

A directive tells how one value is written: in how many places, at which side, with which
sign, and in how many digits. Decimal fractions are written exactly: a number is taken as
the nearest one with so many binary digits, and what is written is the nearest decimal to
that.
-/

import ReleaseBuilder.Machine.Shell.Calculation

namespace ReleaseBuilder.Machine

/-- How one value is written. -/
structure Directive where
  flags : List Char := []
  width : Nat := 0
  precision : Option Nat := none
  conversion : Char

namespace Directive

/-- Whether a flag was given. -/
def has (d : Directive) (flag : Char) : Bool := d.flags.contains flag

/-- Fill a text up to the width with blanks. -/
def padded (d : Directive) (s : String) : String :=
  let blanks := String.ofList (List.replicate (d.width - s.length) ' ')
  if d.has '-' then s ++ blanks else blanks ++ s

/-- A text. -/
def text (d : Directive) (s : String) : String :=
  match d.precision with
  | some n => d.padded (String.ofList (s.toList.take n))
  | none => d.padded s

/-- Put a sign in front of digits, with zeros between them if those are to fill the width. -/
def signed (d : Directive) (zeros : Bool) (sign digits : String) : String :=
  let missing := d.width - (sign.length + digits.length)
  if zeros && d.has '0' && !d.has '-' then
    sign ++ String.ofList (List.replicate missing '0') ++ digits
  else d.padded (sign ++ digits)

/-- The sign of a number. -/
def signOf (d : Directive) (negative : Bool) : String :=
  if negative then "-" else if d.has '+' then "+" else if d.has ' ' then " " else ""

/-- Digits, at least as many as the precision asks for. -/
def atLeast (d : Directive) (digits : String) : String :=
  match d.precision with
  | some n =>
    if n = 0 && digits = "0" then ""
    else String.ofList (List.replicate (n - digits.length) '0') ++ digits
  | none => digits

/-- An integer. Conversions without a sign take it as 64 bits hold it. -/
def integer (d : Directive) (n : Int) : String :=
  let bits := (n % 0x10000000000000000).toNat
  let zeros := d.precision.isNone
  match d.conversion with
  | 'o' =>
    let digits := d.atLeast (String.ofList (Nat.toDigits 8 bits))
    d.signed zeros "" (if d.has '#' && !digits.startsWith "0" then "0" ++ digits else digits)
  | 'x' | 'X' =>
    let digits := d.atLeast (String.ofList (Nat.toDigits 16 bits))
    let front := if d.has '#' && bits ≠ 0 then "0x" else ""
    if d.conversion = 'X' then d.signed zeros front.toUpper digits.toUpper
    else d.signed zeros front digits
  | 'u' => d.signed zeros "" (d.atLeast (toString bits))
  | _ => d.signed zeros (d.signOf (n < 0)) (d.atLeast (toString n.natAbs))

end Directive

/-- A fraction without a sign. -/
structure Fraction where
  num : Nat
  den : Nat := 1

namespace Fraction

/-- The integer nearest to a fraction, the even one of two. -/
def nearest (f : Fraction) : Nat :=
  let whole := f.num / f.den
  let twice := 2 * (f.num % f.den)
  if twice < f.den then whole
  else if twice > f.den then whole + 1
  else if whole % 2 = 0 then whole
  else whole + 1

/-- A fraction times a power of a base, which may be negative. -/
def scale (f : Fraction) (base : Nat) (power : Int) : Fraction :=
  if 0 ≤ power then { f with num := f.num * Nat.pow base power.toNat }
  else { f with den := f.den * Nat.pow base (-power).toNat }

/-- How many binary digits the integer part has, negative if zeros follow the point. -/
def magnitude (f : Fraction) : Int :=
  (Nat.log2 f.num : Int) - (Nat.log2 f.den : Int)

/-- The nearest fraction with so many binary digits. -/
def rounded (f : Fraction) (digits : Nat) : Fraction :=
  if f.num = 0 then f
  else
    let shift : Int := (digits : Int) - f.magnitude
    let guess := (f.scale 2 shift).nearest
    let shift := if Nat.pow 2 digits ≤ guess then shift - 1 else shift
    let mantissa := (f.scale 2 shift).nearest
    Fraction.scale ⟨mantissa, 1⟩ 2 (-shift)

/-- Whether a fraction is less than a power of ten. -/
def isBelowTen (f : Fraction) (power : Int) : Bool :=
  let one := Fraction.scale ⟨1, 1⟩ 10 power
  f.num * one.den < one.num * f.den

/-- The power of ten of the first digit, from a guess that may be off by some. -/
def firstPower (f : Fraction) : Nat → Int → Int
  | 0, guess => guess
  | fuel + 1, guess =>
    if f.isBelowTen guess then firstPower f fuel (guess - 1)
    else if f.isBelowTen (guess + 1) then guess
    else firstPower f fuel (guess + 1)

/-- The power of ten of the first digit. -/
def power (f : Fraction) : Int :=
  if f.num = 0 then 0 else f.firstPower 10 (f.magnitude * 3 / 10)

/-- Digits with a point before the last of them. -/
def pointed (digits : Nat) (n : Nat) (always : Bool) : String :=
  let all := (toString n).toList
  let all := List.replicate (digits + 1 - all.length) '0' ++ all
  let whole := String.ofList (all.take (all.length - digits))
  if digits = 0 then (if always then whole ++ "." else whole)
  else whole ++ "." ++ String.ofList (all.drop (all.length - digits))

/-- Without a power of ten, so many digits behind the point. -/
def fixed (f : Fraction) (digits : Nat) (always : Bool) : String :=
  pointed digits (f.scale 10 digits).nearest always

/-- The digits and the power of ten, one digit in front of the point. -/
def scientific (f : Fraction) (digits : Nat) : Nat × Int :=
  let power := f.power
  let mantissa := (f.scale 10 (digits - power)).nearest
  if Nat.pow 10 (digits + 1) ≤ mantissa then ((f.scale 10 (digits - power - 1)).nearest, power + 1)
  else (mantissa, power)

/-- A power of ten as it is written. -/
def powerText (power : Int) : String :=
  let digits := toString power.natAbs
  "e" ++ (if power < 0 then "-" else "+") ++ (if digits.length < 2 then "0" ++ digits else digits)

/-- Without zeros at the end behind a point. -/
def trimmed (s : String) : String :=
  if s.toList.contains '.' then
    let cs := s.toList.reverse.dropWhile (· = '0')
    String.ofList ((if cs.head? = some '.' then cs.tail else cs).reverse)
  else s

/-- A fraction by a conversion. -/
def shown (f : Fraction) (conversion : Char) (precision : Nat) (always : Bool) : String :=
  let withPower (digits : Nat) : String × String :=
    let (mantissa, power) := f.scientific digits
    (pointed digits mantissa always, powerText power)
  match conversion.toLower with
  | 'f' => f.fixed precision always
  | 'e' =>
    let (mantissa, power) := withPower precision
    mantissa ++ power
  | _ =>
    let digits := max precision 1
    let power := (f.scientific (digits - 1)).2
    let cut (s : String) : String := if always then s else trimmed s
    if -4 ≤ power && power < digits then cut (f.fixed (digits - 1 - power).toNat always)
    else
      let (mantissa, power) := withPower (digits - 1)
      cut mantissa ++ power

end Fraction

/-- A decimal number at the front of characters: whether it is negative, its value, and what
follows it. -/
def decimal? (cs : List Char) : Option (Bool × Fraction × List Char) :=
  let (negative, cs) :=
    match cs with
    | '-' :: rest => (true, rest)
    | '+' :: rest => (false, rest)
    | _ => (false, cs)
  let whole := cs.takeWhile Char.isDigit
  let behind := cs.drop whole.length
  let (part, behind) :=
    match behind with
    | '.' :: rest =>
      let part := rest.takeWhile Char.isDigit
      (part, rest.drop part.length)
    | _ => ([], behind)
  if whole.isEmpty && part.isEmpty then none
  else
    let (power, behind) : Int × List Char :=
      match behind with
      | e :: rest =>
        if e = 'e' || e = 'E' then
          let (sign, digits) : Int × List Char :=
            match rest with
            | '-' :: rest => (-1, rest)
            | '+' :: rest => (1, rest)
            | _ => (1, rest)
          let shown := digits.takeWhile Char.isDigit
          if shown.isEmpty then (0, behind)
          else (sign * Shell.numberOf 10 (shown.take 4), digits.drop shown.length)
        else (0, behind)
      | [] => (0, [])
    let value := Fraction.scale ⟨Shell.numberOf 10 (whole ++ part), 1⟩ 10 (power - part.length)
    some (negative, value, behind)

/-- A fraction with a sign, written as a directive says. -/
def Directive.fraction (d : Directive) (negative : Bool) (f : Fraction) : String :=
  let s := f.shown d.conversion (d.precision.getD 6) (d.has '#')
  d.signed true (d.signOf negative) (if d.conversion.isUpper then s.toUpper else s)

end ReleaseBuilder.Machine
