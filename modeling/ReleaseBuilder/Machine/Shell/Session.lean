/-
# Sessions

What a shell knows while it runs a script: its variables, the arguments of the script or of
the function that runs, functions and aliases, what it was told to be careful about, and
how the last command ended. Work of a shell changes its session and makes requests to the
machine; it may be left early, by a command that leaves a loop, a function or the shell, or
because something went wrong that ends a script.
-/

import ReleaseBuilder.Machine.Process
import ReleaseBuilder.Machine.Shell.Grammar
import ReleaseBuilder.Machine.Shell.Calculation

namespace ReleaseBuilder.Machine.Shell

/-- A variable of a shell. -/
structure Variable where
  value : Option String := none
  exported : Bool := false
  readonly : Bool := false

/-- A function of a script. -/
structure Function where
  body : Script
  line : Nat

/-- What was started and is not waited for: its processes, with their endings once those are
known, and whether somebody has asked for them. -/
structure Job where
  number : Nat
  processes : List (Nat × Option Ending)
  waited : Bool := false

/-- How a job ended, once all its processes have: as the last of them did. -/
def Job.ending? (job : Job) : Option Ending :=
  if job.processes.all (·.2.isSome) then (job.processes.getLast?).bind Prod.snd else none

/-- What a shell knows. -/
structure Session where
  /-- What the shell calls itself in complaints. -/
  name : String
  args : List String := []
  bindings : List (String × Variable) := []
  functions : List (String × Function) := []
  aliases : List (String × String) := []
  /-- The letters of the options that are on. -/
  options : List Char := []
  status : Nat := 0
  /-- The status of the last output that was put in place, while a command is made ready. -/
  outputStatus : Nat := 0
  /-- The process of the shell, which its subshells keep. -/
  process : Nat := 0
  /-- The last process that was started and not waited for. -/
  background : Option Nat := none
  jobs : List Job := []
  /-- What is done when signals come; the number zero stands for the end of the shell. -/
  traps : List (Nat × String) := []
  /-- The signals that were ignored when the shell was started, which stay so. -/
  settled : List Nat := []
  /-- The status before the trap that is run. -/
  statusBefore : Option Nat := none
  /-- How many loops are being run. -/
  loops : Nat := 0
  /-- How many functions are being run. -/
  functionDepth : Nat := 0
  line : Nat := 1
  /-- The builtin command that is being run. -/
  command : Option String := none
  documents : List (Nat × Word) := []
  nextDocument : Nat := 0
  /-- What variables were before functions made them their own, by function. -/
  locals : List (List (String × Option Variable)) := []
  /-- The argument that is looked at next for options, and how far the letters of the one
  before it have been looked at. -/
  optionIndex : Nat := 1
  optionOffset : Option Nat := none
  /-- The working directory, by the way that led to it. -/
  directory : String := "/"
  /-- Whether this is a subshell. -/
  isSubshell : Bool := false
  /-- What programs that were looked for were found at. -/
  remembered : List (String × String) := []

/-- How work is left early. -/
inductive Unwind where
  /-- The shell ends. -/
  | exit (status : Nat)
  /-- Something went wrong, which has been told. -/
  | failure
  | break (loops : Nat)
  | continue (loops : Nat)
  | return (status : Nat)
  deriving DecidableEq

/-- Work of a shell. -/
abbrev Action := ExceptT Unwind (StateT Session Program)

/-- A request to the machine, as work of a shell. -/
def request (p : Program α) : Action α :=
  ExceptT.lift (StateT.lift p)

namespace Session

/-- The value of a variable. -/
def value? (s : Session) (name : String) : Option String :=
  (s.bindings.lookup name).bind Variable.value

/-- A variable, as it is. -/
def entry (s : Session) (name : String) : Variable :=
  (s.bindings.lookup name).getD {}

/-- Keep a variable, in the place that it has if there is one. -/
def put (s : Session) (name : String) (v : Variable) : Session :=
  if s.bindings.any (·.1 = name) then
    { s with bindings := changedAt name (fun _ => v) s.bindings }
  else { s with bindings := (name, v) :: s.bindings }

/-- Give a variable a value, whether or not it may be changed. -/
def assign (s : Session) (name value : String) : Session :=
  let v := s.entry name
  let exported := v.exported || s.options.contains 'a'
  let assigned := s.put name { v with value := some value, exported }
  if name = "OPTIND" then
    { assigned with optionIndex := max 1 (value.toNat?.getD 1), optionOffset := none }
  else assigned

/-- Whether an option is on. -/
def hasOption (s : Session) (letter : Char) : Bool :=
  s.options.contains letter

/-- How many rows the names of variables are kept in. -/
def rowCount : Nat := 39

/-- The row of a name. -/
def rowOf (name : String) : Nat :=
  let start := (name.toList.head?.map Char.toNat).getD 0 * 16
  (name.toList.foldl (fun sum c => sum + c.toNat) start) % rowCount

/-- The entries of the environment that programs are started with, row by row. -/
def environment (s : Session) : List String :=
  let exported := s.bindings.reverse.filter fun entry => entry.2.exported && entry.2.value.isSome
  let sorted := exported.mergeSort fun a b => decide (rowOf a.1 ≤ rowOf b.1)
  sorted.map fun (name, v) => name ++ "=" ++ v.value.getD ""

/-- The characters that part words. -/
def separators (s : Session) : String :=
  (s.value? "IFS").getD " \t\n"

end Session

/-- Write a complaint on the error output. -/
def grumble (text : String) : Action Unit := do
  let s ← get
  let command := (s.command.map (· ++ ": ")).getD ""
  let line := s.name ++ ": " ++ toString s.line ++ ": " ++ command ++ text ++ "\n"
  let _ ← request (Program.write 2 (Text.octetsOf line))

/-- The status of what went wrong. -/
def failureStatus : Nat := 2

/-- Complain and leave. -/
def fail (text : String) : Action α := do
  grumble text
  modify fun s => { s with status := failureStatus }
  throw .failure

/-- Give a variable a value. -/
def assign (name value : String) : Action Unit := do
  let s ← get
  if !isName name then fail (name ++ ": bad variable name")
  else if (s.entry name).readonly then fail (name ++ ": is read only")
  else set (s.assign name value)

/-- Take away a variable. -/
def unassign (name : String) : Action Unit := do
  let s ← get
  if !isName name then fail (name ++ ": bad variable name")
  else if (s.entry name).readonly then fail (name ++ ": is read only")
  else set { s with bindings := s.bindings.filter (·.1 ≠ name) }

/-- Do work, and afterwards something else, however the work is left. -/
def always (work : Action α) (after : Action Unit) : Action α := do
  let result ← tryCatch (Except.ok <$> work) fun u => return Except.error u
  after
  match result with
  | .ok a => return a
  | .error u => throw u

/-- Do work in a copy of the shell that is a process of its own: the number of the process. -/
def split (work : Action Nat) : Action Nat := fun s => fun next =>
  let child : Program Nat := do
    let (result, after) ← work.run { s with isSubshell := true }
    match result with
    | .ok status => return status
    | .error _ => return after.status
  Program.fork child fun process => next (.ok process, s)

end ReleaseBuilder.Machine.Shell
