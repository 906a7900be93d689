/-
# Where commands are found

A command is a function of the script, a builtin command, or a program that is looked for
in the search path. Programs that were looked for are remembered.
-/

import ReleaseBuilder.Machine.Shell.Builtin.Options

namespace ReleaseBuilder.Machine.Shell

/-- What a command is. -/
inductive Found where
  | function
  | builtin
  | program (path : String)
  | missing (fault : SystemError)

/-- Look for a program in directories. One that may not be started is passed over, but told of
if there is no other. -/
def programIn (fs : FileSystem) (name : String) (worst : SystemError) :
    List String → Except SystemError String
  | [] => .error worst
  | dir :: rest =>
    let path := Image.inDirectory dir name
    match fs.find (pathOf path) with
    | .ok (_, node) =>
      if node.isFile && node.allows .enter then .ok path else programIn fs name .denied rest
    | .error fault =>
      let isMissing := [.noEntry, .notDirectory].contains fault.cause
      programIn fs name (if isMissing then worst else fault.cause) rest

/-- Look for a program that a name without a separator stands for. -/
def programNamed (searchPath name : String) : Action (Except SystemError String) := do
  let fs ← request (Program.look State.view)
  return programIn fs name .noEntry (Image.directories searchPath)

/-- Remember where a program was found. -/
def rememberProgram (name path : String) : Action Unit :=
  modify fun s => { s with remembered := s.remembered.filter (·.1 ≠ name) ++ [(name, path)] }

/-- Look for a command that is neither a keyword nor an alias. -/
def findCommand (builtins : List String) (searchPath name : String) : Action Found := do
  if name.toList.contains '/' then
    let fs ← request (Program.look State.view)
    return if (fs.find? (pathOf name)).isSome then .program name else .missing .noEntry
  else if ((← get).functions.lookup name).isSome then return .function
  else if builtins.contains name then return .builtin
  else
    match ← programNamed searchPath name with
    | .ok path => return .program path
    | .error fault => return .missing fault

/-- The special builtin commands, which end a script if they fail. -/
def specialNames : List String :=
  [".", ":", "break", "continue", "eval", "exec", "exit", "export", "local", "readonly", "return",
    "set", "shift", "times", "trap", "unset"]

/-- Tell what a command is. `wordy` tells that it is done in words. -/
def describeCommand (builtins : List String) (searchPath : String) (wordy : Bool) (name : String) :
    Action Nat := do
  let s ← get
  let tell (words brief : String) : Action Nat :=
    put ((if wordy then name ++ words else brief) ++ "\n")
  if keywords.any (·.1 = name) then tell " is a shell keyword" name
  else
    match s.aliases.lookup name with
    | some value =>
      tell (" is an alias for " ++ value) ("alias " ++ name ++ "=" ++ singleQuotedText value)
    | none =>
      match ← findCommand builtins searchPath name with
      | .function => tell " is a shell function" name
      | .builtin =>
        let kind := if specialNames.contains name then "special " else ""
        tell (" is a " ++ kind ++ "shell builtin") name
      | .program path =>
        let known := s.remembered.any (·.1 = name)
        tell (" is" ++ (if known then " a tracked alias for " else " ") ++ path) path
      | .missing _ =>
        if wordy then
          let _ ← put (name ++ ": not found\n")
        return missingStatus

/-- Tell what commands are. -/
def typeCommand (builtins : List String) (args : List String) : Action Nat := do
  let mut status := 0
  for name in args do
    let found ← describeCommand builtins (← get).searchPath true name
    if found ≠ 0 then status := found
  return status

/-- Tell what a command is, as options say. -/
def commandCommand (builtins : List String) (args : List String) : Action Nat := do
  let (letters, rest) ← lettersOf "pvV" args
  let s ← get
  let searchPath := if letters.contains 'p' then usualPath else s.searchPath
  match rest with
  | name :: _ =>
    if letters.contains 'V' then describeCommand builtins searchPath true name
    else if letters.contains 'v' then describeCommand builtins searchPath false name
    else return 0
  | [] => return 0

/-- How many rows remembered programs are kept in. -/
def programRowCount : Nat := 31

/-- The row of a program. -/
def programRow (name : String) : Nat :=
  let start := (name.toList.head?.map Char.toNat).getD 0 * 16
  (name.toList.foldl (fun sum c => sum + c.toNat) start) % 0x8000 % programRowCount

/-- Look for programs, or tell which are remembered. -/
def hash (builtins : List String) (args : List String) : Action Nat := do
  let (letters, rest) ← lettersOf "r" args
  if !letters.isEmpty then
    modify fun s => { s with remembered := [] }
    return 0
  else if rest.isEmpty then
    let sorted := (← get).remembered.mergeSort fun a b => decide (programRow a.1 ≤ programRow b.1)
    if sorted.isEmpty then return 0
    else put (String.join (sorted.map fun entry => entry.2 ++ "\n"))
  else
    let mut status := 0
    for name in rest do
      match ← findCommand builtins (← get).searchPath name with
      | .program path => if !name.toList.contains '/' then rememberProgram name path
      | .missing fault =>
        grumble (name ++ ": " ++ startingFault fault)
        status := 1
      | _ => pure ()
    return status

end ReleaseBuilder.Machine.Shell
