/-
# Options of programs

How a program tells its options from its operands. An option is a letter behind a hyphen or
a word behind two; letters may share a hyphen, words may be shortened, and some options
have a value, which is what follows a letter or the next argument, or what follows an
equals sign behind a word. Two hyphens alone end the options.
-/

import ReleaseBuilder.Machine.Process

namespace ReleaseBuilder.Machine

/-- Whether an option has a value. -/
inductive Valued where
  | never
  | always
  /-- Only what stands in the same argument is its value. -/
  | maybe
  deriving DecidableEq

/-- An option that a program knows: its letter or its word, or both. -/
structure Switch where
  letter : String
  word : String := ""
  valued : Valued := .never

/-- What an option is known by: its letter, or else its word. -/
def Switch.key (s : Switch) : String :=
  if s.letter.isEmpty then s.word else s.letter

/-- An option that was given, with its value if it has one. -/
structure Given where
  key : String
  value : Option String := none

/-- The options and the operands of a call. -/
structure Arguments where
  given : List Given := []
  operands : List String := []
  /-- All of them in order, the operands as values of nothing. -/
  sequence : List Given := []

namespace Arguments

/-- Whether an option was given. -/
def has (a : Arguments) (key : String) : Bool :=
  a.given.any (·.key = key)

/-- The value of an option, as it was given last. -/
def value? (a : Arguments) (key : String) : Option String :=
  (a.given.reverse.find? (·.key = key)).bind Given.value

/-- The values of an option, in order. -/
def values (a : Arguments) (key : String) : List String :=
  a.given.filterMap fun g => if g.key = key then g.value else none

/-- Which of several options was given last. -/
def last? (a : Arguments) (keys : List String) : Option String :=
  (a.given.reverse.find? fun g => keys.contains g.key).map Given.key

/-- Add an option. -/
def give (a : Arguments) (g : Given) : Arguments :=
  { a with given := a.given ++ [g], sequence := a.sequence ++ [g] }

/-- Add operands. -/
def addOperands (a : Arguments) (operands : List String) : Arguments :=
  { a with
    operands := a.operands ++ operands
    sequence := a.sequence ++ operands.map fun s => ⟨"", some s⟩ }

end Arguments

/-- Options of a word, and the word's own spelling. -/
def wordNamed (switches : List Switch) (word : String) : List Switch :=
  let named := switches.filter fun s => !s.word.isEmpty && s.word.startsWith word
  match named.find? (·.word = word), named with
  | some exact, _ => [exact]
  | none, first :: rest => if rest.all (·.key = first.key) then [first] else named
  | none, [] => []

/-- Read the letters that share a hyphen, given the arguments behind them. -/
def readLetters (switches : List Switch) (a : Arguments) (rest : List String) :
    List Char → Except String (Arguments × List String)
  | [] => .ok (a, rest)
  | c :: letters =>
    match switches.find? (·.letter = String.singleton c) with
    | none => .error ("invalid option -- '" ++ String.singleton c ++ "'")
    | some s =>
      match s.valued, letters, rest with
      | .never, _, _ => readLetters switches (a.give ⟨s.key, none⟩) rest letters
      | .maybe, [], _ => .ok (a.give ⟨s.key, none⟩, rest)
      | .always, [], value :: rest => .ok (a.give ⟨s.key, some value⟩, rest)
      | .always, [], [] =>
        .error ("option requires an argument -- '" ++ String.singleton c ++ "'")
      | _, letters, _ => .ok (a.give ⟨s.key, some (String.ofList letters)⟩, rest)

/-- Read a word with what stands behind its equals sign, given the arguments behind it. -/
def readWord (switches : List Switch) (a : Arguments) (rest : List String) (word : String)
    (value? : Option String) : Except String (Arguments × List String) :=
  let shown := "option '--" ++ word ++ ((value?.map ("=" ++ ·)).getD "") ++ "'"
  match wordNamed switches word with
  | [] => .error ("unrecognized " ++ shown)
  | [s] =>
    let spelled := "option '--" ++ s.word ++ "'"
    match s.valued, value?, rest with
    | .never, some _, _ => .error (spelled ++ " doesn't allow an argument")
    | .never, none, _ => .ok (a.give ⟨s.key, none⟩, rest)
    | .maybe, value?, _ => .ok (a.give ⟨s.key, value?⟩, rest)
    | .always, some value, _ => .ok (a.give ⟨s.key, some value⟩, rest)
    | .always, none, value :: rest => .ok (a.give ⟨s.key, some value⟩, rest)
    | .always, none, [] => .error (spelled ++ " requires an argument")
  | several =>
    .error (shown ++ " is ambiguous; possibilities:" ++
      String.join (several.map fun s => " '--" ++ s.word ++ "'"))

/-- Read arguments. Options may stand behind operands, unless the first operand is to end
them. -/
def readArguments (switches : List Switch) (mixed : Bool) :
    Nat → Arguments → List String → Except String Arguments
  | 0, a, _ | _, a, [] => .ok a
  | fuel + 1, a, arg :: rest =>
    match arg.toList with
    | '-' :: '-' :: [] => .ok (a.addOperands rest)
    | '-' :: '-' :: word =>
      let name := word.takeWhile (· ≠ '=')
      let value? := if name.length < word.length
        then some (String.ofList (word.drop (name.length + 1))) else none
      match readWord switches a rest (String.ofList name) value? with
      | .error problem => .error problem
      | .ok (a, rest) => readArguments switches mixed fuel a rest
    | '-' :: c :: letters =>
      match readLetters switches a rest (c :: letters) with
      | .error problem => .error problem
      | .ok (a, rest) => readArguments switches mixed fuel a rest
    | _ =>
      let a := a.addOperands [arg]
      if mixed then readArguments switches mixed fuel a rest
      else .ok (a.addOperands rest)

/-- The options and operands among arguments, or what is wrong with them. -/
def argumentsOf (switches : List Switch) (args : List String) (mixed : Bool := true) :
    Except String Arguments :=
  readArguments switches mixed (args.length + 1) {} args

end ReleaseBuilder.Machine
