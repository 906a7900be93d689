/-
# Calculations

Integers of 64 bits that a script calculates with, in the usual order of operators. A name
stands for the value of a variable, and may be assigned one. What the other half of a
choice says is read but not done.
-/

import ReleaseBuilder.Machine.Shell.Statement

namespace ReleaseBuilder.Machine.Shell

/-- An integer as 64 bits hold it. -/
def wrapped (n : Int) : Int :=
  (n + 0x8000000000000000) % 0x10000000000000000 - 0x8000000000000000

/-- The least integer of 64 bits. -/
def leastInteger : Int := -0x8000000000000000

/-- The greatest integer of 64 bits. -/
def greatestInteger : Int := 0x7FFFFFFFFFFFFFFF

/-- An integer, or the nearest one that 64 bits hold. -/
def clamped (n : Int) : Int :=
  max leastInteger (min greatestInteger n)

/-- The value of a digit. -/
def digitValue (c : Char) : Nat :=
  if c.isDigit then c.toNat - '0'.toNat
  else if c.isAlpha then c.toLower.toNat - 'a'.toNat + 10
  else 36

/-- The number that digits of a base write. -/
def numberOf (base : Nat) (digits : List Char) : Nat :=
  digits.foldl (fun n c => n * base + digitValue c) 0

/-- The number without a sign at the front of characters, and what follows it. A zero in front
means octal digits, and a zero with an x hexadecimal ones. -/
def unsigned? (cs : List Char) : Option (Nat × List Char) :=
  let inBase (base : Nat) (cs : List Char) : Nat × List Char :=
    let digits := cs.takeWhile fun c => digitValue c < base
    (numberOf base digits, cs.drop digits.length)
  match cs with
  | '0' :: x :: d :: rest =>
    if (x = 'x' || x = 'X') && digitValue d < 16 then some (inBase 16 (d :: rest))
    else some (inBase 8 cs)
  | c :: _ =>
    if c = '0' then some (inBase 8 cs) else if c.isDigit then some (inBase 10 cs) else none
  | [] => none

/-- Whether a character is blank or ends a line or a page. -/
def isBlankOctet (c : Char) : Bool := c = ' ' || (9 ≤ c.toNat && c.toNat ≤ 13)

/-- A text with blanks and a sign in front of digits: whether the sign is a minus, and the rest. -/
def signedDigits (s : String) : Bool × List Char :=
  match s.toList.dropWhile isBlankOctet with
  | '-' :: rest => (true, rest)
  | '+' :: rest => (false, rest)
  | cs => (false, cs)

/-- The integer that a text writes, if it writes nothing else. Nothing is zero. -/
def integer? (s : String) : Option Int :=
  let (negative, cs) := signedDigits s
  match unsigned? cs with
  | some (n, rest) =>
    let value : Int := if negative then -(n : Int) else n
    if (rest.dropWhile isBlankOctet).isEmpty then some (clamped value) else none
  | none => if s.toList.all isBlankOctet then some 0 else none

/-- The integer that a text writes in decimal digits, if it writes nothing else. -/
def decimalInteger? (s : String) : Option Int :=
  let (negative, cs) := signedDigits s
  let digits := cs.takeWhile Char.isDigit
  if digits.isEmpty || !((cs.drop digits.length).dropWhile isBlankOctet).isEmpty then none
  else some (if negative then -(numberOf 10 digits : Int) else numberOf 10 digits)

/-- The parts of a calculation. -/
inductive Sign where
  | number (n : Int)
  | name (s : String)
  | operator (s : String)
  | end
  deriving DecidableEq

/-- The operators, longer ones before those that they begin with. -/
def operators : List String :=
  ["<<=", ">>=", "&&", "||", "==", "!=", "<=", ">=", "<<", ">>", "+=", "-=", "*=", "/=", "%=",
    "&=", "|=", "^=", "=", "!", "<", ">", "+", "-", "*", "/", "%", "~", "(", ")", "?", ":", "&",
    "|", "^"]

/-- The parts of characters. A character that is none of them is an operator that nobody
knows. -/
def signs : Nat → List Char → List Sign
  | 0, _ | _, [] => []
  | fuel + 1, c :: cs =>
    if c = ' ' || c = '\t' || c = '\n' then signs fuel cs
    else
      match unsigned? (c :: cs) with
      | some (n, rest) => .number (clamped n) :: signs fuel rest
      | none =>
        if isNameStart c then
          let name := (c :: cs).takeWhile isNameChar
          .name (String.ofList name) :: signs fuel ((c :: cs).drop name.length)
        else
          match operators.find? fun o => o.toList.isPrefixOf (c :: cs) with
          | some o => .operator o :: signs fuel ((c :: cs).drop o.length)
          | none => [.operator (String.singleton c)]

/-- The state of a calculation: what is left of it, and what was assigned, the latest first. -/
structure Calculation where
  left : List Sign
  assigned : List (String × Int) := []

/-- A step of a calculation, which may have to be refused. -/
abbrev Calculating := StateT Calculation (Except String)

namespace Calculating

/-- Why a calculation makes no sense. -/
def refuse (text whole : String) : Calculating α :=
  throw ("arithmetic expression: " ++ text ++ ": \"" ++ whole ++ "\"")

/-- Look at the next part. -/
def peek : Calculating Sign :=
  return ((← get).left.head?).getD .end

/-- Go behind the next part. -/
def skip : Calculating Unit :=
  modify fun c => { c with left := c.left.tail }

/-- What a calculation knows from outside: the values of variables, and its own text. -/
structure Context where
  value : String → Option String
  whole : String

/-- The value of a variable. -/
def valueOf (ctx : Context) (name : String) : Calculating Int := do
  match (← get).assigned.lookup name with
  | some n => return n
  | none =>
    let s := (ctx.value name).getD ""
    match integer? s with
    | some n => return n
    | none => throw ("Illegal number: " ++ s)

/-- A truth as a number. -/
def truth (b : Bool) : Int := if b then 1 else 0

/-- The bits of an integer. -/
def bits (n : Int) : Nat := (n % 0x10000000000000000).toNat

/-- How strongly an operator with two operands binds. -/
def strength? (operator : String) : Option Nat :=
  [("|", 1), ("^", 2), ("&", 3), ("==", 4), ("!=", 4), ("<", 5), ("<=", 5), (">", 5), (">=", 5),
    ("<<", 6), (">>", 6), ("+", 7), ("-", 7), ("*", 8), ("/", 8), ("%", 8)].lookup operator

/-- What an operator makes of two operands. -/
def combine (ctx : Context) (operator : String) (a b : Int) : Calculating Int :=
  match operator with
  | "|" => return wrapped (bits a ||| bits b)
  | "^" => return wrapped (bits a ^^^ bits b)
  | "&" => return wrapped (bits a &&& bits b)
  | "==" => return truth (a = b)
  | "!=" => return truth (a ≠ b)
  | "<" => return truth (a < b)
  | "<=" => return truth (a ≤ b)
  | ">" => return truth (a > b)
  | ">=" => return truth (a ≥ b)
  | "<<" => return wrapped (a * Nat.pow 2 (bits b % 64))
  | ">>" => return a / Nat.pow 2 (bits b % 64)
  | "+" => return wrapped (a + b)
  | "-" => return wrapped (a - b)
  | "*" => return wrapped (a * b)
  | "/" => if b = 0 then refuse "division by zero" ctx.whole else return wrapped (a.tdiv b)
  | _ => if b = 0 then refuse "division by zero" ctx.whole else return wrapped (a.tmod b)

/-- A value without operators around it, or with signs in front. -/
def primary (ctx : Context) (inner : Bool → Calculating Int) (live : Bool) :
    Nat → Calculating Int
  | 0 => refuse "expecting primary" ctx.whole
  | fuel + 1 => do
    let sign ← peek
    skip
    match sign with
    | .number n => return n
    | .name s => if live then valueOf ctx s else return 0
    | .operator "(" =>
      let n ← inner live
      if (← peek) = .operator ")" then
        skip
        return n
      else refuse "expecting ')'" ctx.whole
    | .operator "+" => primary ctx inner live fuel
    | .operator "-" => return wrapped (-(← primary ctx inner live fuel))
    | .operator "!" => return truth ((← primary ctx inner live fuel) = 0)
    | .operator "~" => return -(← primary ctx inner live fuel) - 1
    | _ => refuse "expecting primary" ctx.whole

/-- Go on with operators that bind at least so strongly, behind a first operand. -/
def operations (ctx : Context) (operand : Calculating Int) (live : Bool) :
    Nat → Nat → Int → Calculating Int
  | 0, _, a => return a
  | fuel + 1, least, a => do
    match ← peek with
    | .operator o =>
      match strength? o with
      | some strength =>
        if strength < least then return a
        else
          skip
          let b ← operations ctx operand live fuel (strength + 1) (← operand)
          let n ← if live then combine ctx o a b else pure b
          operations ctx operand live fuel least n
      | none => return a
    | _ => return a

/-- What is joined by `and`. -/
def conjunction (ctx : Context) (operand : Bool → Calculating Int) (live : Bool) :
    Nat → Calculating Int
  | 0 => return 0
  | fuel + 1 => do
    let first ← operand live
    let a ← operations ctx (operand live) live (fuel + 1) 0 first
    if (← peek) = .operator "&&" then
      skip
      let b ← conjunction ctx operand (live && a ≠ 0) fuel
      return truth (a ≠ 0 && b ≠ 0)
    else return a

/-- What is joined by `or`. -/
def disjunction (ctx : Context) (operand : Bool → Calculating Int) (live : Bool) :
    Nat → Calculating Int
  | 0 => return 0
  | fuel + 1 => do
    let a ← conjunction ctx operand live (fuel + 1)
    if (← peek) = .operator "||" then
      skip
      let b ← disjunction ctx operand (live && a = 0) fuel
      return truth (a ≠ 0 || b ≠ 0)
    else return a

/-- The operator that an assignment applies first, if the sign is one of an assignment. -/
def assigning? : Sign → Option String
  | .operator "=" => some ""
  | .operator o =>
    let compares := ["==", "!=", "<=", ">="].contains o
    if o.endsWith "=" && !compares then
      some (String.ofList o.toList.dropLast)
    else none
  | _ => none

/-- Give a variable a value. -/
def assign (name : String) (n : Int) : Calculating Unit :=
  modify fun c => { c with assigned := (name, n) :: c.assigned }

mutual

/-- A choice between two values. -/
def choice (ctx : Context) (live : Bool) : Nat → Calculating Int
  | 0 => return 0
  | fuel + 1 => do
    let operand (live : Bool) : Calculating Int :=
      primary ctx (fun live => assignment ctx live fuel) live (fuel + 1)
    let a ← disjunction ctx operand live (fuel + 1)
    if (← peek) = .operator "?" then
      skip
      let b ← assignment ctx (live && a ≠ 0) fuel
      if (← peek) = .operator ":" then
        skip
        let c ← choice ctx (live && a = 0) fuel
        return if a ≠ 0 then b else c
      else refuse "expecting ':'" ctx.whole
    else return a

/-- An assignment, or a value. -/
def assignment (ctx : Context) (live : Bool) : Nat → Calculating Int
  | 0 => return 0
  | fuel + 1 => do
    match (← get).left with
    | .name s :: sign :: _ =>
      match assigning? sign with
      | some operator =>
        skip
        skip
        let n ← assignment ctx live fuel
        if !live then return n
        else
          let n ← if operator.isEmpty then pure n else combine ctx operator (← valueOf ctx s) n
          assign s n
          return n
      | none => choice ctx live fuel
    | _ => choice ctx live fuel

end

end Calculating

/-- The value of a calculation, with the assignments it makes, the latest first. -/
def calculate (value : String → Option String) (whole : String) :
    Except String (Int × List (String × Int)) :=
  let cs := whole.toList
  let ctx : Calculating.Context := { value, whole }
  let work : Calculating Int := do
    let n ← Calculating.assignment ctx true (2 * cs.length + 2)
    if (← Calculating.peek) = .end then return n else Calculating.refuse "expecting EOF" whole
  match work.run { left := signs (cs.length + 1) cs } with
  | .ok (n, c) => .ok (n, c.assigned)
  | .error text => .error text

end ReleaseBuilder.Machine.Shell
