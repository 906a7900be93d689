/-
# Words that are values

A value that is neither quoted nor bracketed is a word: a truth value, a number, a date or
a time. Each kind is a test on the whole word. Digits may be parted by single underscores,
which have no meaning; a number in another base has no sign; a date must be one of the
calendar, and a second may be the sixtieth.
-/

import ReleaseBuilder.Decimal.Nearest

namespace ReleaseBuilder.Toml

/-- What a word stands for. -/
inductive Scalar where
  | integer (n : Int)
  | float (x : Decimal.Binary64)
  | boolean (b : Bool)
  | moment
  deriving DecidableEq, Repr

namespace Scalar

/-- The value of a digit in bases up to sixteen. -/
def digit? (c : Char) : Option Nat :=
  if c.isDigit then some (c.toNat - '0'.toNat)
  else if 'a' ≤ c ∧ c ≤ 'f' then some (c.toNat - 'a'.toNat + 10)
  else if 'A' ≤ c ∧ c ≤ 'F' then some (c.toNat - 'A'.toNat + 10)
  else none

/-- Whether a character is a digit of a base. -/
def isDigitOf (base : Nat) (c : Char) : Bool :=
  (digit? c).any (· < base)

/-- Whether characters are digits of a base, parted by at most single underscores. -/
def areDigits (base : Nat) : List Char → Bool
  | [] => false
  | [c] => isDigitOf base c
  | c :: '_' :: rest => isDigitOf base c && areDigits base rest
  | c :: rest => isDigitOf base c && areDigits base rest

/-- The number that digits of a base write. -/
def numberOf (base : Nat) (cs : List Char) : Nat :=
  (cs.filterMap digit?).foldl (fun n d => n * base + d) 0

/-- The sign at the front of a word, and what follows it. -/
def signed (cs : List Char) : Bool × List Char :=
  match cs with
  | '-' :: rest => (true, rest)
  | '+' :: rest => (false, rest)
  | _ => (false, cs)

/-- Whether characters write a decimal number without a needless zero at the front. -/
def areWhole (cs : List Char) : Bool :=
  areDigits 10 cs && (cs.length = 1 || cs.head? != some '0')

/-- The least integer above those that a document can hold. -/
def integerLimit : Nat := Nat.pow 2 63

/-- The integers that a document can hold. -/
def inRange (n : Int) : Bool :=
  -(integerLimit : Int) ≤ n && n < (integerLimit : Int)

/-- An integer of the document, if it is not too large. -/
def bounded? (n : Int) : Option Int :=
  if inRange n then some n else none

/-- A number without a sign in a base other than ten. -/
def inBase? (base : Nat) (cs : List Char) : Option Int :=
  if areDigits base cs then bounded? (numberOf base cs) else none

/-- An integer in decimal. -/
def decimal? (cs : List Char) : Option Int :=
  let (negative, digits) := signed cs
  if areWhole digits then
    bounded? (if negative then -(numberOf 10 digits : Int) else numberOf 10 digits)
  else none

/-- The integer that a word writes. -/
def integer? (cs : List Char) : Option Int :=
  match cs with
  | '0' :: 'x' :: digits => inBase? 16 digits
  | '0' :: 'o' :: digits => inBase? 8 digits
  | '0' :: 'b' :: digits => inBase? 2 digits
  | _ => decimal? cs

/-- The number behind an exponent mark. -/
def exponent? (cs : List Char) : Option Int :=
  let (negative, digits) := signed cs
  if areDigits 10 digits then
    some (if negative then -(numberOf 10 digits : Int) else numberOf 10 digits)
  else none

/-- Whether a character marks an exponent. -/
def marksExponent (c : Char) : Bool :=
  c = 'e' || c = 'E'

/-- The number written by a whole part, an optional part after a point, which has digits if it
is there, and an exponent. -/
def fraction? (negative : Bool) (whole : List Char) (part : Option (List Char))
    (exponent : Int) : Option Decimal.Binary64 :=
  let digits := part.getD []
  if areWhole whole && part.all (areDigits 10) then
    let places := (digits.filterMap digit?).length
    some (Decimal.nearest negative (numberOf 10 (whole ++ digits)) (exponent - places))
  else none

/-- A number with a point, an exponent, or both. -/
def pointed? (cs : List Char) : Option Decimal.Binary64 :=
  let (negative, unsigned) := signed cs
  let mantissa := unsigned.takeWhile (!marksExponent ·)
  let behind := unsigned.drop mantissa.length
  let whole := mantissa.takeWhile (· ≠ '.')
  let part :=
    if whole.length < mantissa.length then some (mantissa.drop (whole.length + 1)) else none
  match behind with
  | [] => if part.isSome then fraction? negative whole part 0 else none
  | _ :: digits => (exponent? digits).bind (fraction? negative whole part)

/-- The number that a word writes. A positive number too large for the format is refused. -/
def float? (cs : List Char) : Option Decimal.Binary64 :=
  let (negative, unsigned) := signed cs
  if unsigned = ['i', 'n', 'f'] then some (.infinite negative)
  else if unsigned = ['n', 'a', 'n'] then some .notANumber
  else
    match pointed? cs with
    | some (.infinite false) => none
    | number => number

/-- The number of a given count of plain digits. -/
def plain? (count : Nat) (cs : List Char) : Option Nat :=
  if cs.length = count ∧ cs.all Char.isDigit then some (numberOf 10 cs) else none

/-- Whether a number is between two others. -/
def between (least greatest : Nat) (n : Option Nat) : Bool :=
  n.any fun n => least ≤ n && n ≤ greatest

/-- Whether a year has a leap day. -/
def isLeapYear (year : Nat) : Bool :=
  year % 4 = 0 && (year % 100 ≠ 0 || year % 400 = 0)

/-- The days of a month. -/
def daysIn (year month : Nat) : Nat :=
  if month = 2 then (if isLeapYear year then 29 else 28)
  else if month = 4 ∨ month = 6 ∨ month = 9 ∨ month = 11 then 30
  else 31

/-- Whether characters write a date. -/
def isDate (cs : List Char) : Bool :=
  match cs.splitOn '-' with
  | [year, month, day] =>
    match plain? 4 year, plain? 2 month with
    | some year, some month =>
      between 1 12 (some month) && between 1 (daysIn year month) (plain? 2 day)
    | _, _ => false
  | _ => false

/-- Whether characters write seconds, with or without a fraction. -/
def areSeconds (cs : List Char) : Bool :=
  match cs.splitOn '.' with
  | [whole] => between 0 60 (plain? 2 whole)
  | [whole, part] => between 0 60 (plain? 2 whole) && !part.isEmpty && part.all Char.isDigit
  | _ => false

/-- Whether characters write a time of day. -/
def isTime (cs : List Char) : Bool :=
  match cs.splitOn ':' with
  | [hour, minute, seconds] =>
    between 0 23 (plain? 2 hour) && between 0 59 (plain? 2 minute) && areSeconds seconds
  | _ => false

/-- Whether characters write a distance from the time of Greenwich. -/
def isOffset (cs : List Char) : Bool :=
  match cs.splitOn ':' with
  | [hour, minute] => between 0 23 (plain? 2 hour) && between 0 59 (plain? 2 minute)
  | _ => false

/-- Whether characters write a time of day, with or without an offset. -/
def isZonedTime (cs : List Char) : Bool :=
  let time := cs.takeWhile fun c => c.isDigit || c = ':' || c = '.'
  isTime time &&
    match cs.drop time.length with
    | [] => true
    | ['Z'] | ['z'] => true
    | '+' :: offset | '-' :: offset => isOffset offset
    | _ => false

/-- The length of a date. -/
def dateLength : Nat := 10

/-- Whether characters write a date, a time, or a date and a time. -/
def isMoment (cs : List Char) : Bool :=
  isTime cs || isDate cs ||
    (isDate (cs.take dateLength) &&
      match cs.drop dateLength with
      | mark :: time => (mark = 'T' || mark = 't' || mark = ' ') && isZonedTime time
      | [] => false)

/-- What a word stands for. -/
def ofWord? (cs : List Char) : Option Scalar :=
  if cs = ['t', 'r', 'u', 'e'] then some (.boolean true)
  else if cs = ['f', 'a', 'l', 's', 'e'] then some (.boolean false)
  else if isMoment cs then some .moment
  else ((integer? cs).map integer).or ((float? cs).map float)

/-- The characters that words are made of. -/
def isWordChar (c : Char) : Bool :=
  c.isAlphanum || c = '_' || c = '+' || c = '-' || c = '.' || c = ':'

/-- The longest word at the front of a text. After a date a single space may part it from its
time. -/
def word (cs : List Char) : List Char :=
  let first := cs.takeWhile isWordChar
  match cs.drop first.length with
  | ' ' :: c :: rest =>
    if c.isDigit && isDate first then first ++ ' ' :: (c :: rest).takeWhile isWordChar
    else first
  | _ => first

example : integer? "-0".toList = some 0 := by decide

example : integer? "01".toList = none := by decide

example : isMoment "1979-05-27T07:32:00-08:00".toList = true := by decide

example : isMoment "1979-02-29".toList = false := by decide

end Scalar

end ReleaseBuilder.Toml
