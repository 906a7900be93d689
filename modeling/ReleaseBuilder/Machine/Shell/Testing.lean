/-
# Testing conditions

The builtin command that tells by its status whether a condition holds. Conditions are
joined by `-a` and `-o`, denied by an exclamation mark, and put between parentheses; what
an argument means depends on the arguments beside it.
-/

import ReleaseBuilder.Machine.Condition
import ReleaseBuilder.Machine.Shell.Printing

namespace ReleaseBuilder.Machine.Shell

/-- The part that an argument has in a condition. -/
inductive Sense where
  | nothing
  | operand
  | one (operator : String)
  | two (operator : String)
  | not
  | and
  | or
  | opening
  | closing
  deriving DecidableEq

namespace Testing

/-- The operators that take two operands. -/
def twoOperators : List String :=
  ["=", "!=", "<", ">", "-eq", "-ne", "-ge", "-gt", "-le", "-lt", "-nt", "-ot", "-ef"]

/-- The operator that an argument is on its own, if it is one. -/
def operator? (a : String) : Option Sense :=
  if twoOperators.contains a then some (.two a)
  else if a = "-z" || a = "-n" || a = "-t" || (fileCondition? a).isSome then some (.one a)
  else
    match a with
    | "!" => some .not
    | "-a" => some .and
    | "-o" => some .or
    | "(" => some .opening
    | ")" => some .closing
    | _ => none

/-- Whether an operator for one operand is an operand itself, given what follows it. -/
def isOperand (rest : List String) : Bool :=
  match rest with
  | [] => true
  | [_] => false
  | a :: _ =>
    match operator? a with
    | some (.two _) => true
    | _ => false

/-- The part that the first of some arguments has. -/
def partOf : List String → Sense
  | [] => .nothing
  | a :: rest =>
    match operator? a with
    | some (.one o) => if isOperand rest then .operand else .one o
    | some .opening => if rest.isEmpty then .operand else .opening
    | some part => part
    | none => .operand

/-- Work that goes through the arguments of a condition. -/
abbrev Work := StateT (List String) Action

/-- The number of an operand. -/
def number (a : String) : Work Int := do
  let isBlank (c : Char) : Bool := c = ' ' || (9 ≤ c.toNat && c.toNat ≤ 13)
  let cs := a.toList.dropWhile isBlank
  let (negative, cs) :=
    match cs with
    | '-' :: rest => (true, rest)
    | '+' :: rest => (false, rest)
    | _ => (false, cs)
  let digits := cs.takeWhile Char.isDigit
  let n : Int := if negative then -(numberOf 10 digits : Int) else numberOf 10 digits
  if digits.isEmpty || !(cs.drop digits.length).all isBlank || clamped n ≠ n then
    fail ("Illegal number: " ++ a)
  else return n

/-- A condition on one operand. -/
def one (operator a : String) : Work Bool := do
  match operator with
  | "-z" => return a.isEmpty
  | "-n" => return !a.isEmpty
  | "-t" =>
    let _ ← number a
    return false
  | _ =>
    let fs ← request (Program.look State.view)
    return ((fileCondition? operator).map fun holds => holds fs a).getD false

/-- A condition on two operands. -/
def two (a operator b : String) : Work Bool := do
  let numbers (holds : Int → Int → Bool) : Work Bool := do
    return holds (← number a) (← number b)
  match operator with
  | "=" => return a = b
  | "!=" => return a ≠ b
  | "<" => return decide (a < b)
  | ">" => return decide (b < a)
  | "-eq" => numbers fun x y => x = y
  | "-ne" => numbers fun x y => x ≠ y
  | "-ge" => numbers fun x y => x ≥ y
  | "-gt" => numbers fun x y => x > y
  | "-le" => numbers fun x y => x ≤ y
  | "-lt" => numbers fun x y => x < y
  | "-ef" =>
    let fs ← request (Program.look State.view)
    return isSame fs a b
  | _ => return false

/-- Go behind the first argument. -/
def skip : Work Unit := modify List.tail

/-- The part that the argument behind the first one has. -/
def partBehind : Work Sense := return partOf (← get).tail

/-- A condition that is not joined, given how to read what stands in parentheses. At its end
its last argument is the first of those that are left. -/
def primary (inner : Sense → Work Bool) (part : Sense) : Work Bool := do
  match part with
  | .nothing => return false
  | .opening =>
    skip
    let next := partOf (← get)
    if next = .closing then return false
    else
      let result ← inner next
      skip
      if partOf (← get) = .closing then return result else fail "closing paren expected"
  | .one o =>
    skip
    match ← get with
    | [] => fail (o ++ ": argument expected")
    | a :: _ => one o a
  | _ =>
    match ← get with
    | [] => return false
    | a :: rest =>
      match partOf rest, rest with
      | .two _, o :: b :: more =>
        set (b :: more)
        two a o b
      | .two _, [o] => fail (o ++ ": argument expected")
      | _, _ => return !a.isEmpty

/-- A condition that may be denied. -/
def denied (inner : Sense → Work Bool) : Nat → Sense → Work Bool
  | 0, _ => return false
  | fuel + 1, part => do
    if part ≠ .not then primary inner part
    else
      let next ← partBehind
      if next ≠ .nothing then skip
      return !(← denied inner fuel next)

/-- Conditions that are joined by `and`. -/
def conjunction (inner : Sense → Work Bool) : Nat → Bool → Sense → Work Bool
  | 0, result, _ => return result
  | fuel + 1, result, part => do
    let holds ← denied inner (fuel + 1) part
    let result := result && holds
    if (← partBehind) ≠ .and then return result
    else
      skip
      skip
      conjunction inner fuel result (partOf (← get))

/-- Conditions that are joined by `or`. -/
def disjunction (inner : Sense → Work Bool) : Nat → Bool → Sense → Work Bool
  | 0, result, _ => return result
  | fuel + 1, result, part => do
    let holds ← conjunction inner (fuel + 1) true part
    let result := result || holds
    if (← partBehind) ≠ .or then return result
    else
      skip
      skip
      disjunction inner fuel result (partOf (← get))

/-- A condition so deep in parentheses at most. -/
def condition : Nat → Sense → Work Bool
  | 0, _ => return false
  | depth + 1, part => do
    let length := (← get).length
    disjunction (condition depth) (length + 1) false part

/-- Whether the condition of arguments holds. -/
def holds (args : List String) : Action Bool := do
  let isTwo : Bool :=
    match args with
    | [_, o, _] => twoOperators.contains o
    | _ => false
  let few := args.length = 3 || args.length = 4
  let (denies, args) :=
    if isTwo || !few then (false, args)
    else if args.head? = some "(" && args.getLast? = some ")" then (false, args.tail.dropLast)
    else if args.head? = some "!" then (true, args.tail)
    else (false, args)
  let part := if isTwo then .operand else partOf args
  let (result, left) ← (condition (args.length + 1) part).run args
  match left with
  | a :: _ :: _ => fail (a ++ ": unexpected operator")
  | _ => return result != denies

end Testing

/-- Test the condition of arguments. A command that is a bracket needs the other one. -/
def test (isBracket : Bool) (args : List String) : Action Nat := do
  if isBracket && args.getLast? ≠ some "]" then fail "missing ]"
  else
    let args := if isBracket then args.dropLast else args
    if args.isEmpty then return 1
    else return if ← Testing.holds args then 0 else 1

end ReleaseBuilder.Machine.Shell
