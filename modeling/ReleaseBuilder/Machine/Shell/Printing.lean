/-
# Printing

The builtin commands that print: a line of arguments, or arguments by a format. A format
is used again as long as arguments are left, and a missing argument counts as empty or as
zero.
-/

import ReleaseBuilder.Machine.Directive
import ReleaseBuilder.Machine.Escapes
import ReleaseBuilder.Machine.Shell.Invoking

namespace ReleaseBuilder.Machine.Shell

/-- Write a text to the output. That it cannot be written is told, and leaves a mark on the
status. -/
def put (text : String) : Action Nat := do
  match ← request (Program.write 1 (Text.octetsOf text)) with
  | .ok () => return 0
  | .error _ =>
    let command := ((← get).command.getD "")
    grumble (command ++ ": I/O error")
    return 1

/-- The character of an escape behind a backslash, and what follows it. A backslash before
anything else stands for itself. -/
def escapeAt (cs : List Char) : Char × List Char :=
  match octalAt? 3 cs, cs with
  | some result, _ => result
  | none, '"' :: rest => ('"', rest)
  | none, c :: rest =>
    match controlOf? c with
    | some control => (control, rest)
    | none => ('\\', cs)
  | none, [] => ('\\', [])

/-- A text with its escapes resolved, and whether it is not to be the last that is printed. -/
def unescaped : Nat → List Char → List Char × Bool
  | 0, _ | _, [] => ([], true)
  | fuel + 1, '\\' :: rest =>
    match rest with
    | 'c' :: _ => ([], false)
    | _ =>
      let digits :=
        match rest with
        | '0' :: d :: more => if isOctal d then d :: more else rest
        | _ => rest
      let (c, later) := escapeAt digits
      let (cs, goesOn) := unescaped fuel later
      (c :: cs, goesOn)
  | fuel + 1, c :: rest =>
    let (cs, goesOn) := unescaped fuel rest
    (c :: cs, goesOn)

/-- The line of arguments, up to where an escape ends it. -/
def echoLine (ended : Bool) : List String → List Char
  | [] => if ended then ['\n'] else []
  | a :: rest =>
    let (cs, goesOn) := unescaped (a.length + 1) a.toList
    if !goesOn then cs
    else if rest.isEmpty then cs ++ (if ended then ['\n'] else [])
    else cs ++ ' ' :: echoLine ended rest

/-- Print arguments on a line. -/
def echo (args : List String) : Action Nat :=
  match args with
  | "-n" :: rest => put (String.ofList (echoLine false rest))
  | _ => put (String.ofList (echoLine true args))

/-- What was wrong with an argument that should be a number. -/
inductive Doubt where
  | none
  | noNumber
  | partly
  | tooBig

/-- The integer of an argument, and what was wrong with it. -/
def argumentInteger (a : String) (isSigned : Bool) : Int × Doubt :=
  let isBlank (c : Char) : Bool := c = ' ' || (9 ≤ c.toNat && c.toNat ≤ 13)
  match a.toList with
  | [] => (0, .none)
  | '\'' :: rest | '"' :: rest => (((rest.head?.map Char.toNat).getD 0 : Nat), .none)
  | cs =>
    let cs := cs.dropWhile isBlank
    let (negative, cs) :=
      match cs with
      | '-' :: rest => (true, rest)
      | '+' :: rest => (false, rest)
      | _ => (false, cs)
    match unsigned? cs with
    | none => (0, .noNumber)
    | some (n, rest) =>
      let value : Int := if negative then -(n : Int) else n
      let kept : Int :=
        if isSigned then clamped value
        else if 0xFFFFFFFFFFFFFFFF < n then 0xFFFFFFFFFFFFFFFF else value
      (kept, if kept ≠ value then .tooBig else if rest.isEmpty then .none else .partly)

/-- Tell what was wrong with an argument: the status that it leaves. -/
def tellDoubt (a : String) : Doubt → Action Nat
  | .none => return 0
  | .noNumber => tell ": expected numeric value"
  | .partly => tell ": not completely converted"
  | .tooBig => tell ": Numerical result out of range"
where
  /-- Tell it in words. -/
  tell (words : String) : Action Nat := do
    grumble (a ++ words)
    return 1

/-- What is printed so far, the arguments that are left, and the status. -/
structure Printed where
  text : List Char := []
  left : List String
  status : Nat := 0
  /-- An escape ended everything. -/
  ended : Bool := false

namespace Printed

/-- Add to what is printed. -/
def add (p : Printed) (s : String) : Printed :=
  { p with text := s.toList.reverse ++ p.text }

/-- Take an argument. -/
def take (p : Printed) : String × Printed :=
  (p.left.headD "", { p with left := p.left.tail })

end Printed

/-- Take a number for a width or a precision. -/
def takeNumber (p : Printed) : Action (Int × Printed) := do
  let (a, p) := p.take
  let (n, doubt) := argumentInteger a true
  let status ← tellDoubt a doubt
  return (n, { p with status := max p.status status })

/-- Read a width or a precision: digits, or an argument in place of a star. -/
def readNumber (cs : List Char) (p : Printed) : Action (Option Int × List Char × Printed) := do
  match cs with
  | '*' :: rest =>
    let (n, p) ← takeNumber p
    return (some n, rest, p)
  | _ =>
    let digits := cs.takeWhile Char.isDigit
    let n := if digits.isEmpty then none else some (numberOf 10 digits : Int)
    return (n, cs.drop digits.length, p)

/-- Print an argument as a directive says. -/
def printBy (d : Directive) (shown : String) (p : Printed) : Action Printed := do
  let (a, p) := p.take
  match d.conversion with
  | 's' => return p.add (d.text a)
  | 'b' =>
    let (cs, goesOn) := unescaped (a.length + 1) a.toList
    return { p.add (d.text (String.ofList cs)) with ended := !goesOn }
  | 'c' => return p.add (d.padded (String.singleton (a.toList.headD '\x00')))
  | 'd' | 'i' | 'o' | 'u' | 'x' | 'X' =>
    let (n, doubt) := argumentInteger a (d.conversion = 'd' || d.conversion = 'i')
    let status ← tellDoubt a doubt
    return { p.add (d.integer n) with status := max p.status status }
  | 'e' | 'E' | 'f' | 'F' | 'g' | 'G' =>
    match decimal? a.toList with
    | some (negative, f, rest) =>
      let status ← tellDoubt a (if rest.isEmpty then .none else .partly)
      return { p.add (d.fraction negative (f.rounded 53)) with status := max p.status status }
    | none =>
      let status ← tellDoubt a (if a.isEmpty then .none else .noNumber)
      return { p.add (d.fraction false ⟨0, 1⟩) with status := max p.status status }
  | _ =>
    let _ ← put (String.ofList p.text.reverse)
    fail (shown ++ ": invalid directive")

/-- Print a format once. -/
def printOnce : Nat → List Char → Printed → Action Printed
  | 0, _, p | _, [], p => return p
  | fuel + 1, '\\' :: rest, p =>
    let (c, later) := escapeAt rest
    printOnce fuel later { p with text := c :: p.text }
  | fuel + 1, '%' :: '%' :: rest, p => printOnce fuel rest { p with text := '%' :: p.text }
  | fuel + 1, '%' :: rest, p => do
    let flags := rest.takeWhile fun c => ['#', '-', '+', ' ', '0'].contains c
    let (width, behind, p) ← readNumber (rest.drop flags.length) p
    let (precision, behind, p) ←
      match behind with
      | '.' :: more => do
        let (n, behind, p) ← readNumber more p
        pure (some (n.getD 0), behind, p)
      | _ => pure (none, behind, p)
    match behind with
    | [] =>
      let _ ← put (String.ofList p.text.reverse)
      fail "missing format character"
    | conversion :: later =>
      let negative := width.any (· < 0)
      let d : Directive :=
        { flags := if negative then '-' :: flags else flags
          width := (width.map Int.natAbs).getD 0
          precision := precision.bind fun n => if n < 0 then none else some n.toNat
          conversion }
      let shown := rest.take (rest.length - later.length)
      let p ← printBy d (String.ofList ('%' :: shown)) p
      if p.ended then return p else printOnce fuel later p
  | fuel + 1, c :: rest, p => printOnce fuel rest { p with text := c :: p.text }

/-- Print a format as long as it takes arguments and some are left. -/
def printAgain (format : List Char) : Nat → Printed → Action Printed
  | 0, p => return p
  | fuel + 1, p => do
    let after ← printOnce (format.length + 1) format p
    if after.ended || after.left.isEmpty || after.left.length = p.left.length then return after
    else printAgain format fuel after

/-- Print arguments by a format. -/
def printf (args : List String) : Action Nat := do
  let args ←
    match args with
    | "--" :: rest => pure rest
    | a :: _ =>
      match a.toList with
      | '-' :: c :: _ => fail ("Illegal option -" ++ String.singleton c)
      | _ => pure args
    | [] => pure args
  match args with
  | [] => fail "usage: printf format [arg ...]"
  | format :: args =>
    let p ← printAgain format.toList (args.length + 1) { left := args }
    let status ← put (String.ofList p.text.reverse)
    return max p.status status

end ReleaseBuilder.Machine.Shell
