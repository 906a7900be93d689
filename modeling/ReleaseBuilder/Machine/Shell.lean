/-
# The shell

A program that runs scripts. It is called with a script as an argument, with a file that
holds one, or with nothing, and then its input is the script. Its variables are at first
those of its environment.
-/

import ReleaseBuilder.Machine.Condition
import ReleaseBuilder.Machine.Shell.Evaluation

namespace ReleaseBuilder.Machine.Shell

/-- The variables that a shell keeps a place for, with their values if they have one at first. -/
def initialVariables : List (String × Option String) :=
  [("ATTY", none), ("IFS", some " \t\n"), ("MAIL", none), ("MAILPATH", none),
    ("PATH", some usualPath), ("PS1", some "$ "), ("PS2", some "> "), ("PS4", some "+ "),
    ("OPTIND", some "1"), ("LINENO", none)]

/-- Take over an entry of the environment, if its name is one for a variable. -/
def takeOver (s : Session) (entry : String) : Session :=
  match assignment? entry with
  | some (name, value) => s.put name { value := some value, exported := true }
  | none => s

/-- Give a variable a value, and leave its marks. -/
def Session.revalue (s : Session) (name value : String) : Session :=
  s.put name { s.entry name with value := some value }

/-- The session of a shell that was just started. -/
def initialSession (call : Call) (state : State) : Session :=
  let empty : Session :=
    { name := call.name, process := state.self, settled := state.me.ignored, line := 0
      bindings := initialVariables.map fun (name, value) => (name, { value }) }
  let s := call.env.foldl takeOver empty
  let s := s.revalue "IFS" " \t\n"
  let s := s.revalue "OPTIND" "1"
  let s := s.revalue "PPID" (toString state.me.parent)
  let here := placeOf state
  let told := (s.value? "PWD").filter fun path =>
    path.startsWith "/" && isSame state.view path "."
  let directory := told.getD here
  { s.put "PWD" { value := some directory, exported := true } with directory }

/-- Run a file as the script of a shell. -/
def runFile (path : String) : Action Nat := do
  match ← request (Program.ask (·.openFrom hiddenDescriptor .reading path)) with
  | .error fault => fail (openingFault path false fault)
  | .ok fd =>
    let octets := (← request (Program.readAll fd)).toOption.getD ByteArray.empty
    request (Program.close fd)
    runText powers {} (Text.narrowOf octets)

/-- Run the input as the script of a shell. -/
def runInput : Action Nat := do
  modify (switchOption true 's')
  let octets := (← request (Program.readAll 0)).toOption.getD ByteArray.empty
  runText powers {} (Text.narrowOf octets)

/-- Do what the arguments of a shell say. -/
def start (args : List String) : Action Nat := do
  let left ← shellOptions true (args.length + 1) { args }
  let s ← get
  if s.hasOption 'm' || s.hasOption 'i' then leaveJobControl
  let commanded := left.special.contains 'c'
  match left.args with
  | [] => if commanded then fail "-c requires an argument" else runInput
  | first :: rest =>
    if commanded then
      if let name :: rest := rest then modify fun s => { s with name, args := rest }
      runText powers {} first
    else if (← get).hasOption 's' then
      modify fun s => { s with args := left.args }
      runInput
    else
      runFileAs first rest
where
  /-- Run a file that gives the shell its name. -/
  runFileAs (path : String) (args : List String) : Action Nat := do
    match ← request (Program.look fun s => (s.openPath .reading path).1) with
    | .error fault => fail (openingFault path false fault)
    | .ok _ =>
      modify fun s => { s with name := path, args }
      runFile path

/-- The shell, as a program. -/
def main (call : Call) : Program Nat := do
  let session ← Program.look (initialSession call)
  let (result, s) ← (conclude powers (start call.args)).run session
  return result.toOption.getD s.status

end ReleaseBuilder.Machine.Shell
