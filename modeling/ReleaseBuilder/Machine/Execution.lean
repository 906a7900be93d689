/-
# Commands on a machine

A machine runs a command by letting a process become its program, and all processes that
come of it take turns. What they print is collected. The machine is not waited for longer
than the command asks: what is still going on when a command has ended gets some more
turns, and is forgotten.

The state of a machine, its files apart, is the environment that processes inherit.
-/

import ReleaseBuilder.Host.Processes
import ReleaseBuilder.Machine.Image
import ReleaseBuilder.Machine.Scheduler
import ReleaseBuilder.Machine.Standard

namespace ReleaseBuilder.Machine

/-- A machine as a world. Its state is the environment. -/
abbrev World := ReleaseBuilder.World (List String)

/-- Whether a text holds a NUL character. -/
def holdsNul (text : String) : Bool :=
  text.toList.contains '\x00'

/-- Whether a part of a command holds a NUL character. -/
def isSpoiled (c : Command) : Bool :=
  (c.program :: c.args ++ (c.dir.map Path.text).toList ++ c.env.flatMap fun v => [v.1, v.2]).any
    holdsNul

/-- The name and the value of an entry of an environment. A name has at least one character. -/
def entryParts? (entry : String) : Option (String × String) :=
  match entry.toList with
  | [] => none
  | first :: rest =>
    let name := first :: rest.takeWhile (· ≠ '=')
    match rest.drop (name.length - 1) with
    | _ :: value => some (String.ofList name, String.ofList value)
    | [] => none

/-- Put a value under its name among others that are in the order of their names. -/
def inOrder (name value : String) : List (String × String) → List (String × String)
  | [] => [(name, value)]
  | (other, old) :: rest =>
    if name = other then (name, value) :: rest
    else if name < other then (name, value) :: (other, old) :: rest
    else (other, old) :: inOrder name value rest

/-- The environment of a command: what it inherits, or that with the variables of the command
laid over it, in the order of the names. -/
def environmentOf (c : Command) (inherited : List String) : List String :=
  if c.env.isEmpty then inherited
  else
    let all := inherited.filterMap entryParts? ++ c.env
    (all.foldl (fun sorted (name, value) => inOrder name value sorted) []).map
      fun (name, value) => name ++ "=" ++ value

/-- The size from which on an argument is too long. -/
def argumentLimit : Nat := 131072

/-- What the process of a command starts from. -/
structure Start where
  program : String
  call : Call
  cwd : Location

/-- The working directory of a command. -/
def placeFor (c : Command) (fs : FileSystem) : Except Fault Location :=
  match c.dir with
  | none => .ok fs.cwd
  | some dir =>
    match fs.find dir with
    | .error fault => .error fault
    | .ok (loc, .directory access) =>
      if access.allows .enter then .ok loc else .error (.system .denied)
    | .ok _ => .error (.system .notDirectory)

/-- The search path of a command: its own, if it has one, or else the inherited one. -/
def searchPathOf (c : Command) (inherited : List String) : String :=
  ((c.valueOf? "PATH").or (valueIn? inherited "PATH")).getD Utility.plainPath

/-- What the process of a command starts from, or why it cannot be started. A file without a
known format is read by the shell if the command has a search path of its own. -/
def prepare (c : Command) (w : World) : Except Fault Start := do
  if isSpoiled c then .error .nulInCommand
  else
    let cwd ← placeFor c w.files
    let env := environmentOf c w.state
    let args := c.args.map Text.narrow
    let narrowEnv := env.map Text.narrow
    let name := Text.narrow c.program
    if (name :: args ++ narrowEnv).any (argumentLimit ≤ ·.length) then
      .error (.system .tooManyArguments)
    else
      match Image.named (w.files.enter cwd) (Text.narrow (searchPathOf c w.state)) name
          (name :: args) with
      | .error fault => .error (.system fault)
      | .ok (_, .program program all) =>
        .ok { program, call := ⟨all.headD "", all.tail, narrowEnv⟩, cwd }
      | .ok (path, .unmarked) =>
        if (c.valueOf? "PATH").isSome && !name.toList.contains '/' then
          .ok { program := "sh", call := ⟨Shell.shellPath, path :: args, narrowEnv⟩, cwd }
        else .error (.system .badFormat)

/-- The number of the process that starts all others. -/
def runner : Nat := 1

/-- More room than anybody needs. -/
def plenty : Nat := 1000000000000

/-- The state of a machine before a command is started. -/
def beginning (w : World) : State :=
  { files := w.files
    members := [(runner, { parent := 0, cwd := w.files.cwd, umask := w.files.umask })]
    self := runner }

/-- A pipe with plenty of room that is read by the process that starts all others: the pipe and
its end for writing. -/
def collector (s : State) : (Nat × Nat) × State :=
  let number := s.next
  let s := { s with pipes := (number, { capacity := plenty }) :: s.pipes, next := number + 1 }
  let (reader, s) := s.describe { target := .pipe number, readable := true, writable := false }
  let s := s.attach (s.freeDescriptor 3) reader
  let (writer, s) := s.describe { target := .pipe number, readable := false, writable := true }
  ((number, writer), s)

/-- What was collected in a pipe. -/
def collected (s : State) (pipe : Nat) : ByteArray :=
  ((s.pipes.lookup pipe).map Pipe.data).getD ByteArray.empty

/-- Make a description of a device for reading. -/
def nothing (s : State) : Nat × State :=
  s.describe { target := .device .null, readable := true, writable := false }

/-- Add a process that starts with three descriptors. -/
def spawn (start : Start) (input output errors : Nat) (s : State) : (Nat × Process) × State :=
  let number := s.next
  let m : Member :=
    { parent := runner, cwd := start.cwd, umask := s.files.umask
      descriptors := [(0, input), (1, output), (2, errors)] }
  ((number, load start.program start.call),
    { s with members := (number, m) :: s.members, next := number + 1 })

/-- Forget the descriptions that nobody uses. -/
def settle (s : State) : State :=
  s.releaseAll (s.descriptions.map Prod.fst)

/-- The ending of a process that was waited for. -/
def endingOf (s : State) (process : Nat) : Ending :=
  ((s.member process).ended).getD (.killed 9)

/-- Whether a process has ended. -/
def isOver (s : State) (process : Nat) : Bool :=
  (s.member process).ended.isSome

/-- How many turns there are for what is still going on when a command has ended. -/
def lateTurns : Nat := 1000

/-- Let processes take turns until enough has happened, and give those that are left a while. -/
def runUntil (enough : State → Bool) (queue : List (Nat × Process)) (s : State) : State :=
  let (left, s) := takeTurns load true enough Program.repetitions 0 queue s
  (takeTurns load false (fun _ => false) lateTurns 0 left s).2

/-- The world behind a state. Files that have no name any more are gone. -/
def worldOf (w : World) (s : State) : World :=
  let m := s.member runner
  { w with files := { s.files with cwd := m.cwd, umask := m.umask, loose := [] } }

/-- Run the process of a command to its end. -/
def finish (patience : Patience) (c : Command) (w : World) : Finished (List String) :=
  match prepare c w with
  | .error _ => { ending := .ok (.exited 127), output := .empty, errors := .empty, world := w }
  | .ok start =>
    let ((out, output), s) := collector (beginning w)
    let ((err, errors), s) := collector s
    let (input, s) := nothing s
    let ((process, p), s) := spawn start input output errors s
    let enough (s : State) : Bool :=
      isOver s process && (match patience with
        | .untilEnd => true
        | .untilSilence => !s.hasWriter out && !s.hasWriter err)
    let s := runUntil enough [(process, p)] (settle s)
    { ending := .ok (endingOf s process)
      output := collected s out
      errors := collected s err
      world := worldOf w s }

/-- What an outlet is, as a target. -/
def targetOf : Outlet → Target
  | .file number => .file number
  | .device device => .device device

/-- Let processes take turns until enough has happened. On the way it is handed on what is written
to the outlet. -/
def course (w : World) (timed : Bool) (enough : State → Bool) (turns : Nat)
    (next : List (Nat × Process) → State → Course (List String)) :
    Nat → List (Nat × Process) → State → Course (List String)
  | 0, queue, s => next queue s
  | fuel + 1, queue, s =>
    let (left, s) := takeTurns load timed enough turns 0 queue s
    match s.handed with
    | none => next left s
    | some (offset, octets) =>
      .put { w with files := s.files } offset octets fun written =>
        course w timed enough turns next fuel left { s with files := written.files, handed := none }

/-- The course of two connected processes. -/
def connect (producer consumer : Command) (outlet : Outlet) (w : World) : Course (List String) :=
  match prepare producer w, prepare consumer w with
  | .ok first, .ok second =>
    let ((err, errors), s) := collector (beginning w)
    let (input, s) := nothing s
    let pipe := s.next
    let s := { s with pipes := (pipe, {}) :: s.pipes, next := pipe + 1 }
    let (reader, s) := s.describe { target := .pipe pipe, readable := true, writable := false }
    let (writer, s) := s.describe { target := .pipe pipe, readable := false, writable := true }
    let (dest, s) := s.describe { target := targetOf outlet, readable := false, writable := true }
    let ((a, p), s) := spawn first input writer errors s
    let ((b, q), s) := spawn second reader dest errors s
    let enough (s : State) : Bool := isOver s a && isOver s b
    let done (s : State) : Connected (List String) :=
      { produced := .ok (endingOf s a)
        consumed := .ok (endingOf s b)
        errors := collected s err
        world := worldOf w s }
    let late := course w false (fun _ => false) lateTurns (fun _ s => .ended (done s)) lateTurns
    course w true enough Program.repetitions late Program.repetitions [(a, p), (b, q)]
      { settle s with outlet := some dest }
  | _, _ =>
    .ended
      { produced := .ok (.exited 127)
        consumed := .ok (.exited 127)
        errors := .empty
        world := w }

/-- Where a program is that may be started. A path is taken from the working directory, a name
is looked for in the search path. -/
def locate (name : String) (w : World) : Option Path :=
  let path : Path := .ofText name
  let isProgram (p : Path) : Bool :=
    (w.files.find? p).any fun (_, node) => node.isFile && node.allows .enter
  if path.isAbsolute || 1 < path.pieces.length then
    let slashless : Path := ⟨String.ofList (path.text.toList.reverse.dropWhile (· = '/')).reverse⟩
    let found := if path.isAbsolute then path else slashless
    if isProgram found then some found else none
  else if name.isEmpty then none
  else
    let dirs := Image.directories ((valueIn? w.state "PATH").getD "")
    (dirs.map fun dir => (Path.ofText dir).join path).find? isProgram

/-- The processes of a machine. One that was started has no turn before the next one is started
or it is stopped. -/
def processes : Processes (List String) where
  obstacle? c w :=
    match prepare c w with
    | .error fault => some fault
    | .ok _ => none
  finish := finish
  start _ w := w
  stop _ w := w
  connect := connect
  locate := locate

/-- A machine as a host. -/
def host : Host (List String) :=
  processes.host

end ReleaseBuilder.Machine
