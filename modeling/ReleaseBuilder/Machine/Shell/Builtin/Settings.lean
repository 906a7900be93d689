/-
# Builtin commands for what a shell knows

Variables, their marks, the arguments, the options of the shell, aliases and functions.
-/

import ReleaseBuilder.Machine.Shell.Builtin.Options

namespace ReleaseBuilder.Machine.Shell

/-- Variables as lines that would make them, in the order of their names. -/
def variableLines (front : String) (vs : List (String × Variable)) : String :=
  let sorted := vs.mergeSort fun a b => decide (a.1 ≤ b.1)
  String.join (sorted.map fun (name, v) =>
    front ++ name ++ ((v.value.map fun s => "=" ++ singleQuotedText s).getD "") ++ "\n")

/-- The parts of an argument before and behind an equals sign. -/
def partsOf (a : String) : String × Option String :=
  let name := a.toList.takeWhile (· ≠ '=')
  match a.toList.drop name.length with
  | [] => (a, none)
  | _ :: value => (String.ofList name, some (String.ofList value))

/-- Give variables a mark, and values where they are told. -/
def markAll (mark : Variable → Variable) : List String → Action Unit
  | [] => return
  | a :: rest => do
    let (name, value) := partsOf a
    match value with
    | some value => assign name value
    | none => if !isName name then fail (name ++ ": bad variable name")
    modify fun s => s.put name (mark (s.entry name))
    markAll mark rest

/-- Mark variables, or tell which are marked. -/
def marking (word : String) (isMarked : Variable → Bool) (mark : Variable → Variable)
    (args : List String) : Action Nat := do
  let (letters, rest) ← lettersOf "p" args
  if letters.isEmpty && !rest.isEmpty then
    markAll mark rest
    return 0
  else
    let s ← get
    put (variableLines (word ++ " ") (s.bindings.filter fun v => isMarked v.2))

/-- Let programs see variables. -/
def export' (args : List String) : Action Nat :=
  marking "export" Variable.exported (fun v => { v with exported := true }) args

/-- Let variables be as they are. -/
def readonly (args : List String) : Action Nat :=
  marking "readonly" Variable.readonly (fun v => { v with readonly := true }) args

/-- Take away variables or functions. -/
def unset (args : List String) : Action Nat := do
  let (letters, rest) ← lettersOf "vf" args
  let functions := letters.getLast? = some 'f'
  for name in rest do
    if functions then
      modify fun s => { s with functions := s.functions.filter (·.1 ≠ name) }
    else unassign name
  return 0

/-- Remember what a variable was before a function made it its own. -/
def remember (name : String) : Action Unit :=
  modify fun s =>
    match s.locals with
    | frame :: rest =>
      if frame.any (·.1 = name) then s
      else { s with locals := ((name, s.bindings.lookup name) :: frame) :: rest }
    | [] => s

/-- Make variables a function's own. -/
def local' (args : List String) : Action Nat := do
  if (← get).functionDepth = 0 then fail "not in a function"
  else
    for a in args do
      let (name, value) := partsOf a
      if name ≠ "-" then
        if !isName name then fail (name ++ ": bad variable name")
        remember name
        if let some value := value then assign name value
    return 0

/-- Give variables back what they were before. -/
def reinstate (frame : List (String × Option Variable)) (s : Session) : Session :=
  frame.foldl
    (fun s (name, before) =>
      match before with
      | some v => s.put name v
      | none => { s with bindings := s.bindings.filter (·.1 ≠ name) })
    s

/-- The options of a shell by their names. -/
def optionNames : List (String × Option Char) :=
  [("errexit", some 'e'), ("noglob", some 'f'), ("ignoreeof", some 'I'), ("interactive", some 'i'),
    ("monitor", some 'm'), ("noexec", some 'n'), ("stdin", some 's'), ("xtrace", some 'x'),
    ("verbose", some 'v'), ("vi", some 'V'), ("emacs", some 'E'), ("noclobber", some 'C'),
    ("allexport", some 'a'), ("notify", some 'b'), ("nounset", some 'u'), ("privileged", some 'p'),
    ("nolog", none), ("debug", none)]

/-- Put an option on or off. The two ways to edit lines exclude each other. -/
def switchOption (on : Bool) (c : Char) (s : Session) : Session :=
  let rival := if on then [('V', 'E'), ('E', 'V')].lookup c else none
  let others := s.options.filter fun d => d ≠ c && some d ≠ rival
  { s with options := if on then c :: others else others }

/-- All options with their states. -/
def optionTable (s : Session) : String :=
  "Current option settings\n" ++ String.join (optionNames.map fun (name, letter) =>
    name ++ String.ofList (List.replicate (16 - name.length) ' ') ++
      (if letter.any s.options.contains then "on" else "off") ++ "\n")

/-- The options as commands that would set them. -/
def optionCommands (s : Session) : String :=
  String.join (optionNames.map fun (name, letter) =>
    "set " ++ (if letter.any s.options.contains then "-o " else "+o ") ++ name ++ "\n")

/-- Put an option on or off by its name. -/
def switchNamed (on : Bool) (name : String) : Action Unit := do
  match optionNames.lookup name with
  | some (some c) => modify (switchOption on c)
  | some none => return
  | none => fail ("Illegal option " ++ (if on then "-o " else "+o ") ++ name)

/-- What the options of a shell leave: the arguments, whether they were told to be all that
follows, and what was found in the way of a script. -/
structure Leftover where
  args : List String
  ended : Bool := false
  /-- The letters that only a call of the shell may have. -/
  special : List Char := []

/-- Read the options of a shell. `calling` tells that they are those of a call of it. -/
def shellOptions (calling : Bool) : Nat → Leftover → Action Leftover
  | 0, left => return left
  | fuel + 1, left => do
    match left.args with
    | [] => return left
    | a :: rest =>
      let letters (on : Bool) (cs : List Char) : Action Leftover := do
        let mut left : Leftover := { left with args := rest }
        for c in cs do
          if c = 'o' then
            match left.args with
            | name :: rest =>
              switchNamed on name
              left := { left with args := rest }
            | [] =>
              let s ← get
              let _ ← put (if on then optionTable s else optionCommands s)
          else if calling && (c = 'c' || c = 'l') then
            left := { left with special := c :: left.special }
          else if optionNames.any (·.2 = some c) then modify (switchOption on c)
          else fail ("Illegal option " ++ (if on then "-" else "+") ++ String.singleton c)
        return left
      match a.toList with
      | ['-'] | ['-', '-'] =>
        if !calling && a = "-" then
          modify fun s => switchOption false 'x' (switchOption false 'v' s)
        return { left with args := rest, ended := a = "--" || left.ended }
      | '-' :: cs => shellOptions calling fuel (← letters true cs)
      | '+' :: cs => shellOptions calling fuel (← letters false cs)
      | _ => return left

/-- Do without the control of jobs, which there is no terminal for. -/
def leaveJobControl : Action Unit := do
  modify (switchOption false 'm')
  grumble "can't access tty; job control turned off"

/-- Set options and arguments, or tell the variables. -/
def setCommand (args : List String) : Action Nat := do
  if args.isEmpty then put (variableLines "" ((← get).bindings.filter (·.2.value.isSome)))
  else
    let left ← shellOptions false (args.length + 1) { args }
    if (← get).hasOption 'm' then leaveJobControl
    if !left.args.isEmpty || left.ended then
      modify fun s => { s with args := left.args, optionIndex := 1, optionOffset := none }
    return 0

/-- Drop arguments from the front. -/
def shift (args : List String) : Action Nat := do
  let n ← match args with
    | a :: _ => countOf a
    | [] => pure 1
  let s ← get
  if s.args.length < n then fail "can't shift that many"
  else
    set { s with args := s.args.drop n, optionIndex := 1, optionOffset := none }
    return 0

/-- An alias as a line that would make it. -/
def aliasLine (name value : String) : String :=
  name ++ "=" ++ singleQuotedText value ++ "\n"

/-- Make aliases, or tell them. -/
def aliasing (args : List String) : Action Nat := do
  let s ← get
  if args.isEmpty then
    let sorted := s.aliases.mergeSort fun a b => decide (a.1 ≤ b.1)
    put (String.join (sorted.map fun (name, value) => aliasLine name value))
  else
    let mut status := 0
    for a in args do
      let (name, value) := partsOf a
      match value, (← get).aliases.lookup name with
      | some value, _ =>
        modify fun s => { s with aliases := (name, value) :: s.aliases.filter (·.1 ≠ name) }
      | none, some value =>
        let _ ← put (aliasLine name value)
      | none, none =>
        let _ ← request (Program.write 2 (Text.octetsOf ("alias: " ++ name ++ " not found\n")))
        status := 1
    return status

/-- Take away aliases. -/
def unalias (args : List String) : Action Nat := do
  let (letters, rest) ← lettersOf "a" args
  if letters.contains 'a' then
    modify fun s => { s with aliases := [] }
    return 0
  else
    let mut status := 0
    for name in rest do
      if ((← get).aliases.lookup name).isSome then
        modify fun s => { s with aliases := s.aliases.filter (·.1 ≠ name) }
      else
        let _ ← request (Program.write 2 (Text.octetsOf ("unalias: " ++ name ++ " not found\n")))
        status := 1
    return status

/-- What looking for an option of a script found. -/
structure FoundOption where
  letter : Char
  /-- The value for the variable of values; without it that is taken away. -/
  value : Option String
  /-- The argument that is looked at next, and how far the one before it was looked at. -/
  index : Nat
  offset : Option Nat
  complaint : Option String := none
  /-- Whether there are no options any more. -/
  atEnd : Bool := false

/-- Look for the next option among arguments. -/
def findOption (known : List Char) (args : List String) (index : Nat) (offset : Option Nat) :
    FoundOption :=
  let silent := known.head? = some ':'
  let before := (args[index - 2]?).getD ""
  let left : List Char :=
    match offset with
    | some n => if 1 < index then before.toList.drop n else []
    | none => []
  let found (index offset : Nat) (c : Char) (rest : List Char) : FoundOption :=
    let continued : Option Nat := some offset
    match known.dropWhile (· ≠ c) with
    | [] =>
      if silent then
        { letter := '?', value := some (String.singleton c), index, offset := continued }
      else
        { letter := '?', value := none, index, offset := continued
          complaint := some ("Illegal option -" ++ String.singleton c) }
    | _ :: ':' :: _ =>
      match rest, args[index - 1]? with
      | [], none =>
        if silent then
          { letter := ':', value := some (String.singleton c), index, offset := continued }
        else
          { letter := '?', value := none, index, offset := continued
            complaint := some ("No arg for -" ++ String.singleton c ++ " option") }
      | [], some value => { letter := c, value := some value, index := index + 1, offset := none }
      | rest, _ => { letter := c, value := some (String.ofList rest), index, offset := none }
    | _ => { letter := c, value := some "", index, offset := continued }
  match left with
  | c :: rest => found index (before.length - rest.length) c rest
  | [] =>
    match (args[index - 1]?).map String.toList with
    | some ['-', '-'] =>
      { letter := '?', value := none, index := index + 1, offset := none, atEnd := true }
    | some ('-' :: c :: rest) => found (index + 1) 2 c rest
    | _ => { letter := '?', value := none, index, offset := none, atEnd := true }

/-- Tell the next option of a script. -/
def getopts (args : List String) : Action Nat := do
  match args with
  | known :: name :: rest =>
    let s ← get
    let found := findOption known.toList (if rest.isEmpty then s.args else rest) s.optionIndex
      s.optionOffset
    if let some complaint := found.complaint then
      let _ ← request (Program.write 2 (Text.octetsOf (complaint ++ "\n")))
    match found.value with
    | some value => assign "OPTARG" value
    | none => if !found.atEnd then unassign "OPTARG"
    modify fun s =>
      { s.put "OPTIND" { s.entry "OPTIND" with value := some (toString found.index) } with
        optionIndex := found.index, optionOffset := found.offset }
    assign name (String.singleton found.letter)
    return if found.atEnd then 1 else 0
  | _ => fail "Usage: getopts optstring var [arg...]"

/-- Read a line from the input, each character with a mark that says whether it was quoted, and
whether the line was ended. -/
def readLine (plain : Bool) : Nat → List Marked → Action (List Marked × Bool)
  | 0, read => return (read.reverse, false)
  | fuel + 1, read => do
    let char : Action (Option Char) := do
      match ← request (Program.read 0 1) with
      | .ok data => return if data.isEmpty then none else some (Char.ofNat (data.get! 0).toNat)
      | .error _ => return none
    match ← char with
    | none => return (read.reverse, false)
    | some '\n' => return (read.reverse, true)
    | some '\x00' => readLine plain fuel read
    | some '\\' =>
      if plain then readLine plain fuel (('\\', false) :: read)
      else
        match ← char with
        | none => return (read.reverse, false)
        | some '\n' => readLine plain fuel read
        | some c => readLine plain fuel ((c, true) :: read)
    | some c => readLine plain fuel ((c, false) :: read)

/-- Whether a marked character parts words. -/
def parts' (separators : List Char) (c : Marked) : Bool :=
  !c.2 && separators.contains c.1

/-- Whether a marked character parts words without showing. -/
def partsBlank (separators : List Char) (c : Marked) : Bool :=
  parts' separators c && Splitting.isBlank c.1

/-- What a line leaves for the last of several variables. -/
def lastField (separators : List Char) (cs : List Marked) : List Marked :=
  let first := cs.takeWhile fun c => !parts' separators c
  let behind := (cs.drop first.length).dropWhile (partsBlank separators)
  let behind :=
    match behind with
    | c :: rest =>
      if parts' separators c then rest.dropWhile (partsBlank separators) else behind
    | [] => []
  if behind.isEmpty then first else (cs.reverse.dropWhile (partsBlank separators)).reverse

/-- Give variables the words of a line, the last one all that is left. -/
def spread (separators : List Char) : List String → List Marked → Action Unit
  | [], _ => return
  | [name], cs =>
    assign name (unmarked (lastField separators (cs.dropWhile (partsBlank separators))))
  | name :: names, cs => do
    let cs := cs.dropWhile (partsBlank separators)
    let first := cs.takeWhile fun c => !parts' separators c
    let behind := (cs.drop first.length).dropWhile (partsBlank separators)
    let after := cs.drop first.length
    let ended := after.head?.any (partsBlank separators)
    let behind :=
      match behind with
      | c :: rest =>
        if parts' separators c && (ended || behind.length = after.length) then rest else behind
      | [] => []
    assign name (unmarked first)
    spread separators names behind

/-- Read a line into variables. -/
def read (args : List String) : Action Nat := do
  let (given, names) ← optionsOf "p:r" (args.length + 1) args []
  if names.isEmpty then fail "arg count"
  else
    let (cs, ended) ← readLine (given.any (·.1 = 'r')) Program.repetitions []
    spread (← get).separators.toList names cs
    return if ended then 0 else 1

end ReleaseBuilder.Machine.Shell
