/-
# Testing conditions

The utility that tells by its status whether a condition holds. What an argument means
depends on how many there are: up to four are looked at together, more are read as a
condition whose parts are joined by `-a` and `-o`.
-/

import ReleaseBuilder.Machine.Utility.Tool

namespace ReleaseBuilder.Machine.Utility

namespace Testing

/-- The status of a condition that makes no sense. -/
def senseless : Nat := 2

/-- The operators between two operands. -/
def twoOperators : List String :=
  ["=", "==", "!=", "<", ">", "-eq", "-ne", "-ge", "-gt", "-le", "-lt", "-nt", "-ot", "-ef"]

/-- Whether an argument is an operator for one operand. -/
def isOne (a : String) : Bool :=
  ["-z", "-n", "-t", "-N"].contains a || (fileCondition? a).isSome

/-- A text without blanks at its ends. -/
def trimmed (s : String) : List Char :=
  let blank (c : Char) : Bool := c = ' ' || (9 ≤ c.toNat && c.toNat ≤ 13)
  ((s.toList.dropWhile blank).reverse.dropWhile blank).reverse

/-- The integer of an operand. -/
def integer (a : String) : Tool Int := do
  let cs := trimmed a
  let (negative, digits) :=
    match cs with
    | '-' :: rest => (true, rest)
    | '+' :: rest => (false, rest)
    | _ => (false, cs)
  if digits.isEmpty || !digits.all Char.isDigit then
    refuse ("invalid integer " ++ inQuotes a) senseless
  else return if negative then -(Shell.numberOf 10 digits : Int) else Shell.numberOf 10 digits

/-- A condition on one operand. -/
def one (operator a : String) : Tool Bool := do
  match operator with
  | "-z" => return a.isEmpty
  | "-n" => return !a.isEmpty
  | "-N" => return false
  | "-t" =>
    let _ ← integer a
    return false
  | _ =>
    let fs ← files
    return ((fileCondition? operator).map fun holds => holds fs a).getD false

/-- A condition on two operands. -/
def two (a operator b : String) : Tool Bool := do
  let numbers (holds : Int → Int → Bool) : Tool Bool := do
    let x ← integer a
    let y ← integer b
    return holds x y
  match operator with
  | "=" | "==" => return a = b
  | "!=" => return a ≠ b
  | "<" => return decide (a < b)
  | ">" => return decide (b < a)
  | "-eq" => numbers fun x y => x = y
  | "-ne" => numbers fun x y => x ≠ y
  | "-ge" => numbers fun x y => x ≥ y
  | "-gt" => numbers fun x y => x > y
  | "-le" => numbers fun x y => x ≤ y
  | "-lt" => numbers fun x y => x < y
  | "-ef" => return isSame (← files) a b
  | "-nt" => return (← files).pathExists (pathOf a) && !(← files).pathExists (pathOf b)
  | _ => return (← files).pathExists (pathOf b) && !(← files).pathExists (pathOf a)

/-- Work that goes through the arguments of a condition. -/
abbrev Work := StateT (List String) Tool

/-- Complain about an argument that lacks an operator. -/
def lacking (a words : String) : Tool α :=
  refuse (inQuotes a ++ ": " ++ words) senseless

/-- Read a condition: alternatives, of which each is joined from parts. -/
def condition : Nat → Work Bool
  | 0 => return false
  | fuel + 1 => alternatives fuel
where
  /-- A part of a condition. -/
  part (fuel : Nat) : Work Bool := do
    match ← get with
    | [] => liftM (refuse (α := Bool) "missing argument" senseless)
    | "!" :: rest =>
      set rest
      match fuel with
      | 0 => return false
      | fuel + 1 => return !(← part fuel)
    | "(" :: rest => do
      set rest
      let holds ← match fuel with
        | 0 => pure false
        | fuel + 1 => condition fuel
      match ← get with
      | ")" :: rest =>
        set rest
        return holds
      | [] => liftM (refuse (α := Bool) "')' expected" senseless)
      | a :: _ => liftM (refuse (α := Bool) ("')' expected, found " ++ a) senseless)
    | a :: rest =>
      match rest with
      | operator :: b :: later =>
        if twoOperators.contains operator then
          set later
          return ← liftM (two a operator b)
        else single a rest
      | _ => single a rest
  /-- A condition on one operand, or an operand alone. -/
  single (a : String) (rest : List String) : Work Bool := do
    match isOne a, rest with
    | true, b :: later =>
      set later
      liftM (one a b)
    | _, _ =>
      set rest
      return !a.isEmpty
  /-- Parts that must hold together. -/
  joined : Nat → Nat → Bool → Work Bool
    | 0, _, so => return so
    | again + 1, fuel, so => do
      let holds ← part fuel
      match ← get with
      | "-a" :: rest =>
        set rest
        joined again fuel (so && holds)
      | _ => return so && holds
  /-- Alternatives. -/
  alternatives (fuel : Nat) : Work Bool := do
    let rec go : Nat → Bool → Work Bool
      | 0, so => return so
      | again + 1, so => do
        let holds ← joined fuel fuel true
        match ← get with
        | "-o" :: rest =>
          set rest
          go again (so || holds)
        | _ => return so || holds
    go fuel false

/-- Whether arguments hold as a condition that is read. -/
def read (args : List String) : Tool Bool := do
  let (holds, rest) ← (condition (args.length + 2)).run args
  match rest with
  | [] => return holds
  | a :: _ => refuse ("extra argument " ++ inQuotes a) senseless

/-- Whether arguments hold as a condition. -/
def holds : Nat → List String → Tool Bool
  | 0, _ | _, [] => return false
  | _ + 1, [a] => return !a.isEmpty
  | _ + 1, [operator, a] =>
    if operator = "!" then return a.isEmpty
    else if isOne operator then one operator a
    else lacking operator "unary operator expected"
  | fuel + 1, [a, operator, b] => do
    if twoOperators.contains operator then two a operator b
    else if a = "!" then return !(← holds fuel [operator, b])
    else if a = "(" && b = ")" then return !operator.isEmpty
    else if operator = "-a" then return !a.isEmpty && !b.isEmpty
    else if operator = "-o" then return !a.isEmpty || !b.isEmpty
    else lacking operator "binary operator expected"
  | fuel + 1, [a, b, c, d] => do
    if a = "!" then return !(← holds fuel [b, c, d])
    else if a = "(" && d = ")" then holds fuel [b, c]
    else read [a, b, c, d]
  | _ + 1, args => read args

end Testing

/-- Tell by the status whether a condition holds. -/
def test (isBracket : Bool) : Tool Unit := do
  let args := (← read).args
  let args ←
    if !isBracket then pure args
    else if args.getLast? = some "]" then pure args.dropLast
    else refuse "missing ']'" Testing.senseless
  if !(← Testing.holds (args.length + 1) args) then quit 1

end ReleaseBuilder.Machine.Utility
