/-
# Options of builtin commands

How a builtin command of the shell tells its options from its operands, and what it does
with numbers among them.
-/

import ReleaseBuilder.Machine.Shell.Printing

namespace ReleaseBuilder.Machine.Shell

/-- Read the letters of one argument, given the arguments behind it. -/
def optionLetters (known : String) (rest : List String) :
    List Char → List (Char × String) → Action (List (Char × String) × List String)
  | [], given => return (given, rest)
  | c :: letters, given => do
    let takes := known.toList.dropWhile (· ≠ c)
    match c, takes with
    | ':', _ | _, [] => fail ("Illegal option -" ++ String.singleton c)
    | _, _ :: ':' :: _ =>
      match letters, rest with
      | [], value :: rest => return (given ++ [(c, value)], rest)
      | [], [] => fail ("No arg for -" ++ String.singleton c ++ " option")
      | letters, _ => return (given ++ [(c, String.ofList letters)], rest)
    | _, _ => optionLetters known rest letters (given ++ [(c, "")])

/-- The options of arguments, each with its value, and the operands. A letter that takes a
value has a colon behind it among the known ones. -/
def optionsOf (known : String) :
    Nat → List String → List (Char × String) → Action (List (Char × String) × List String)
  | 0, args, given => return (given, args)
  | fuel + 1, args, given => do
    match args with
    | "--" :: rest => return (given, rest)
    | a :: rest =>
      match a.toList with
      | '-' :: c :: letters =>
        let (given, rest) ← optionLetters known rest (c :: letters) given
        optionsOf known fuel rest given
      | _ => return (given, args)
    | [] => return (given, [])

/-- The letters of the options of arguments, and the operands. -/
def lettersOf (known : String) (args : List String) : Action (List Char × List String) := do
  let (given, rest) ← optionsOf known (args.length + 1) args []
  return (given.map Prod.fst, rest)

/-- The greatest number that an argument may write. -/
def greatestCount : Int := 2147483647

/-- The number that an argument writes. -/
def countOf (a : String) : Action Nat := do
  match decimalInteger? a with
  | some n =>
    if 0 ≤ n && n ≤ greatestCount then return n.toNat else fail ("Illegal number: " ++ a)
  | none => fail ("Illegal number: " ++ a)

/-- A text in single quotes, as a script would say it. Quotes in it stand between double ones. -/
def singleQuotedText (s : String) : String :=
  let rec go : Nat → List Char → String
    | 0, _ => ""
    | fuel + 1, cs =>
      let plain := cs.takeWhile (· ≠ '\'')
      let behind := cs.drop plain.length
      let quotes := behind.takeWhile (· = '\'')
      let first := "'" ++ String.ofList plain ++ "'"
      if quotes.isEmpty then first
      else
        let rest := behind.drop quotes.length
        let more := if rest.isEmpty then "" else go fuel rest
        first ++ "\"" ++ String.ofList quotes ++ "\"" ++ more
  go (s.length + 1) s.toList

end ReleaseBuilder.Machine.Shell
