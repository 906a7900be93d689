/-
# Utilities that print

A line of arguments, arguments by a format, a line again and again, and numbers in a row.
-/

import ReleaseBuilder.Machine.Directive
import ReleaseBuilder.Machine.Escapes
import ReleaseBuilder.Machine.Shell.Printing
import ReleaseBuilder.Machine.Utility.Tool

namespace ReleaseBuilder.Machine.Utility

open Shell (Doubt argumentInteger)

/-- Whether a character is a hexadecimal digit. -/
def isHex (c : Char) : Bool := Shell.digitValue c < 16

/-- The characters of an escape behind a backslash, and what follows it; `none` ends what is
printed. An escape that is not known stands for itself. -/
def escaped (zeroed : Bool) (cs : List Char) : Option (List Char) × List Char :=
  match cs with
  | 'c' :: rest => (none, rest)
  | '"' :: rest => (some ['"'], rest)
  | 'x' :: rest =>
    let digits := (rest.take 2).takeWhile isHex
    if digits.isEmpty then (some ['\\', 'x'], rest)
    else (some [octetChar (Shell.numberOf 16 digits)], rest.drop digits.length)
  | 'u' :: rest | 'U' :: rest =>
    let digits := (rest.take (if cs.head? = some 'u' then 4 else 8)).takeWhile isHex
    let code := Char.ofNat (Shell.numberOf 16 digits)
    (some (Text.narrow (String.singleton code)).toList, rest.drop digits.length)
  | _ =>
    let most := if zeroed && cs.head? = some '0' then 4 else 3
    match octalAt? most cs, cs with
    | some (c, rest), _ => (some [c], rest)
    | none, c :: rest =>
      match controlOf? c with
      | some control => (some [control], rest)
      | none => (some ['\\', c], rest)
    | none, [] => (some ['\\'], [])

/-- A text with its escapes resolved, and whether it is not the last that is printed. -/
def resolved (zeroed : Bool) : Nat → List Char → List Char × Bool
  | 0, _ | _, [] => ([], true)
  | fuel + 1, '\\' :: rest =>
    match escaped zeroed rest with
    | (none, _) => ([], false)
    | (some cs, later) =>
      let (more, goesOn) := resolved zeroed fuel later
      (cs ++ more, goesOn)
  | fuel + 1, c :: rest =>
    let (more, goesOn) := resolved zeroed fuel rest
    (c :: more, goesOn)

/-- A text with the escapes of a printed line resolved. There an octal number starts with a
zero. -/
def resolvedLine : Nat → List Char → List Char × Bool
  | 0, _ | _, [] => ([], true)
  | fuel + 1, '\\' :: rest =>
    let (cs, later) :=
      match rest with
      | '0' :: more =>
        match octalAt? 3 more with
        | some (c, later) => (some [c], later)
        | none => (some ['\x00'], more)
      | d :: more => if isOctal d then (some ['\\', d], more) else escaped false rest
      | [] => (some ['\\'], [])
    match cs with
    | none => ([], false)
    | some cs =>
      let (more, goesOn) := resolvedLine fuel later
      (cs ++ more, goesOn)
  | fuel + 1, c :: rest =>
    let (more, goesOn) := resolvedLine fuel rest
    (c :: more, goesOn)

/-- Whether an argument holds nothing but letters for options of a line. -/
def isLineOption (a : String) : Bool :=
  match a.toList with
  | '-' :: c :: letters => (c :: letters).all fun c => c = 'n' || c = 'e' || c = 'E'
  | _ => false

/-- Print arguments on a line. -/
def echo : Tool Unit := do
  let args := (← read).args
  let options := args.takeWhile isLineOption
  let letters := options.flatMap String.toList
  let line := " ".intercalate (args.drop options.length)
  let ending := if letters.contains 'n' then "" else "\n"
  if (letters.filter fun c => c = 'e' || c = 'E').getLast? = some 'e' then
    let (cs, goesOn) := resolvedLine (line.length + 1) line.toList
    emit (String.ofList cs ++ if goesOn then ending else "")
  else emit (line ++ ending)

/-- Tell what was wrong with an argument that should be a number. -/
def tellDoubt (a : String) : Doubt → Tool Unit
  | .none => return
  | .noNumber => say ": expected a numeric value"
  | .partly => say ": value not completely converted"
  | .tooBig => say ": Numerical result out of range"
where
  /-- Say it. -/
  say (words : String) : Tool Unit := do
    tell (inQuotes a ++ words)
    mark

/-- Take a number for a width or a precision: digits, or an argument in place of a star. -/
def placesOf (cs : List Char) (args : List String) :
    Tool (Option Int × List Char × List String) := do
  match cs with
  | '*' :: rest =>
    let (n, doubt) := argumentInteger (args.headD "") true
    tellDoubt (args.headD "") doubt
    return (some n, rest, args.tail)
  | _ =>
    let digits := cs.takeWhile Char.isDigit
    return (if digits.isEmpty then none else some (Shell.numberOf 10 digits : Int),
      cs.drop digits.length, args)

/-- Print an argument as a directive says: the arguments that are left. -/
def printBy (d : Directive) (shown : String) (args : List String) : Tool (List String) := do
  let a := args.headD ""
  match d.conversion with
  | 's' => emit (d.text a)
  | 'c' => emit (d.padded (String.ofList (a.toList.take 1)))
  | 'd' | 'i' | 'o' | 'u' | 'x' | 'X' =>
    let (n, doubt) := argumentInteger a (d.conversion = 'd' || d.conversion = 'i')
    let doubt := if a.isEmpty && !args.isEmpty then .noNumber else doubt
    tellDoubt a doubt
    emit (d.integer n)
  | 'e' | 'E' | 'f' | 'F' | 'g' | 'G' =>
    match decimal? a.toList with
    | some (negative, f, rest) =>
      tellDoubt a (if rest.isEmpty then .none else .partly)
      emit (d.fraction negative (f.rounded 64))
    | none =>
      tellDoubt a (if args.isEmpty then .none else .noNumber)
      emit (d.fraction false ⟨0, 1⟩)
  | _ => refuse (shown ++ ": invalid conversion specification")
  return args.tail

/-- Print a format once: the arguments that are left, and whether it took any, or nothing if
an escape ended everything. -/
def printOnce : Nat → List Char → Bool → List String → Tool (Option (Bool × List String))
  | 0, _, took, args | _, [], took, args => return some (took, args)
  | fuel + 1, '\\' :: rest, took, args => do
    match escaped false rest with
    | (none, _) => return none
    | (some cs, later) =>
      emit (String.ofList cs)
      printOnce fuel later took args
  | fuel + 1, '%' :: '%' :: rest, took, args => do
    emit "%"
    printOnce fuel rest took args
  | fuel + 1, '%' :: 'b' :: rest, _, args => do
    let a := args.headD ""
    let (cs, goesOn) := resolved true (a.length + 1) a.toList
    emit (String.ofList cs)
    if goesOn then printOnce fuel rest true args.tail else return none
  | fuel + 1, '%' :: 'q' :: rest, _, args => do
    emit (quotedName (args.headD ""))
    printOnce fuel rest true args.tail
  | fuel + 1, '%' :: rest, _, args => do
    let flags := rest.takeWhile fun c => ['#', '-', '+', ' ', '0', '\''].contains c
    let (width, behind, args) ← placesOf (rest.drop flags.length) args
    let (precision, behind, args) ←
      match behind with
      | '.' :: more => do
        let (n, behind, args) ← placesOf more args
        pure (some (n.getD 0), behind, args)
      | _ => pure (none, behind, args)
    let behind := behind.dropWhile fun c => ['h', 'l', 'L', 'j', 't', 'z'].contains c
    let shown := String.ofList ('%' :: rest.take (rest.length - behind.length + 1))
    match behind with
    | [] => refuse (shown ++ ": invalid conversion specification")
    | conversion :: later =>
      let negative := width.any (· < 0)
      let isText := conversion = 's' || conversion = 'c'
      if isText && (flags.contains '0' || flags.contains '#') then
        refuse (shown ++ ": invalid conversion specification")
      let d : Directive :=
        { flags := if negative then '-' :: flags else flags
          width := (width.map Int.natAbs).getD 0
          precision := precision.bind fun n => if n < 0 then none else some n.toNat
          conversion }
      printOnce fuel later true (← printBy d shown args)
  | fuel + 1, c :: rest, took, args => do
    emit (String.singleton c)
    printOnce fuel rest took args

/-- Print a format as long as it takes arguments and some are left. -/
def printAgain (format : List Char) : Nat → List String → Tool Unit
  | 0, _ => return
  | fuel + 1, args => do
    match ← printOnce (format.length + 1) format false args with
    | none => return
    | some (took, left) =>
      if took && !left.isEmpty then printAgain format fuel left
      else if let first :: _ := left then
        tell ("warning: ignoring excess arguments, starting with " ++ inQuotes first)

/-- Print arguments by a format. -/
def printf : Tool Unit := do
  let args := (← read).args
  match if args.head? = some "--" then args.tail else args with
  | [] => missingOperand
  | format :: args => printAgain format.toList (args.length + 1) args

/-- Print a line again and again. -/
def yes : Tool Unit := do
  let a ← arguments [] true 1
  let line := (if a.operands.isEmpty then "y" else " ".intercalate a.operands) ++ "\n"
  let block := Text.octetsOf (String.join (List.replicate (bufferSize / line.length + 1) line))
  let rec go : Nat → Tool Unit
    | 0 => return
    | fuel + 1 => do
      emitOctets block
      if (← get).fault.isNone then go fuel
  go Program.repetitions

/-- A number with decimal places: its digits as an integer, and how many of them are behind the
point. -/
def placed? (s : String) : Option (Int × Nat) :=
  let (negative, cs) :=
    match s.toList with
    | '-' :: rest => (true, rest)
    | '+' :: rest => (false, rest)
    | cs => (false, cs)
  let whole := cs.takeWhile Char.isDigit
  let behind := cs.drop whole.length
  let part := behind.drop 1
  if behind.headD '.' ≠ '.' || !part.all Char.isDigit || (whole.isEmpty && part.isEmpty) then none
  else
    let n : Int := Shell.numberOf 10 (whole ++ part)
    some (if negative then -n else n, part.length)

/-- A number with decimal places, in digits. -/
def placedText (n : Int) (places : Nat) : String :=
  let digits := toString n.natAbs
  let filled := String.ofList (List.replicate (places + 1 - digits.length) '0') ++ digits
  let whole := String.ofList (filled.toList.take (filled.length - places))
  let part := String.ofList (filled.toList.drop (filled.length - places))
  (if n < 0 then "-" else "") ++ whole ++ (if places = 0 then "" else "." ++ part)

/-- Print numbers in a row. -/
def seq : Tool Unit := do
  let args := (← read).args
  let rec split : List String → List String × List String
    | "-s" :: value :: rest => let (o, r) := split rest; ("-s" :: value :: o, r)
    | "-f" :: value :: rest => let (o, r) := split rest; ("-f" :: value :: o, r)
    | a :: rest =>
      if a.startsWith "-" && (placed? a).isNone && a ≠ "--" then
        let (o, r) := split rest
        (a :: o, r)
      else ([], if a = "--" then rest else a :: rest)
    | [] => ([], [])
  let (options, operands) := split args
  let switches : List Switch :=
    [⟨"s", "separator", .always⟩, ⟨"w", "equal-width", .never⟩, ⟨"f", "format", .always⟩]
  let a ← match argumentsOf switches options with
    | .ok a => pure a
    | .error problem => misuse problem
  if 3 < operands.length then extraOperand (operands[3]?.getD "")
  let numbers ← operands.mapM fun s =>
    match placed? s with
    | some n => pure n
    | none => misuse ("invalid floating point argument: " ++ inQuotes s)
  let (first, step, last) ←
    match numbers with
    | [last] => pure ((1, 0), (1, 0), last)
    | [first, last] => pure (first, (1, 0), last)
    | [first, step, last] => pure (first, step, last)
    | _ => missingOperand
  let places := max first.2 step.2
  let power (n : Nat) : Int := Int.ofNat (Nat.pow 10 n)
  let scaled (n : Int × Nat) (places : Nat) : Int := n.1 * power (places - n.2)
  let all := max places last.2
  let unit := power (all - places)
  let width : Int := scaled step all
  if width = 0 then misuse ("invalid Zero increment value: " ++ inQuotes (operands[1]?.getD ""))
  let start := scaled first all
  let stop := scaled last all
  let count := if 0 < width then (stop - start) / width + 1 else (start - stop) / (-width) + 1
  let text (n : Int) : String := placedText (n / unit) places
  let widest := max (text start).length
    (text (scaled last (max places last.2) / unit * unit)).length
  let shown (n : Int) : String :=
    let s := text n
    if a.has "w" then
      let missing := String.ofList (List.replicate (widest - s.length) '0')
      if s.startsWith "-" then "-" ++ missing ++ String.ofList (s.toList.drop 1) else missing ++ s
    else s
  let separator := (a.value? "s").getD "\n"
  if let some format := a.value? "f" then
    let directive := (format.toList.dropWhile (· ≠ '%')).drop 1
    let letter := (directive.dropWhile fun c => c.isDigit || "-+ #0.'".toList.contains c).take 1
    if !format.toList.contains '%' then
      refuse ("format " ++ inQuotes format ++ " has no % directive")
    if !letter.all ("aAeEfFgG".toList.contains ·) || letter.isEmpty then
      refuse ("format " ++ inQuotes format ++ " has unknown %" ++ String.ofList letter ++
        " directive")
  let rec go : Nat → Int → Bool → Tool Unit
    | 0, _, _ => return
    | fuel + 1, n, isFirst => do
      if !isFirst then emit separator
      match a.value? "f" with
      | some format =>
        let _ ← printOnce (format.length + 1) format.toList false [text n]
      | none => emit (shown n)
      if (← get).fault.isNone then go fuel (n + width) false
  if 0 < count then
    go count.toNat start true
    emit "\n"

end ReleaseBuilder.Machine.Utility
