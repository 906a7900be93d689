/-
# Invoking

What a shell does with other processes: it splits off copies of itself and waits for them,
collects what they put out, and becomes programs. Signals that have come are taken care of
between commands.
-/

import ReleaseBuilder.Machine.Image
import ReleaseBuilder.Machine.Shell.Redirecting
import ReleaseBuilder.Machine.Signals

namespace ReleaseBuilder.Machine.Shell

/-- In which position a script is run. -/
structure Position where
  /-- What comes of it is tested, so its failures end nothing. -/
  tested : Bool := false
  /-- Nothing is left to do for the process behind it. -/
  last : Bool := false

/-- The position of what stands inside, where something is left to do. -/
def Position.inner (m : Position) : Position := { m with last := false }

/-- What commands of a shell are run with. -/
structure Powers where
  /-- Run a script. -/
  run : Position → Script → Action Nat
  /-- The names of builtin commands that no function may have. -/
  reserved : List String

/-- The status of a command that is not there. -/
def missingStatus : Nat := 127

/-- The status of a command that cannot be started. -/
def unstartableStatus : Nat := 126

/-- The search path of a shell that was given none. -/
def usualPath : String := "/usr/local/sbin:/usr/local/bin:/usr/sbin:/usr/bin:/sbin:/bin"

/-- The words for a program that cannot be started. -/
def startingFault (fault : SystemError) : String :=
  if fault = .noEntry || fault = .notDirectory then "not found" else fault.words

/-- The status of a program that cannot be started. -/
def startingStatus (fault : SystemError) : Nat :=
  if [SystemError.noEntry, .notDirectory, .linkLoop, .nameTooLong].contains fault then missingStatus
  else unstartableStatus

/-- The program of the shell. -/
def shellPath : String := "/bin/sh"

/-- Become the program that arguments name. What has no format that the system knows is read by
a shell. -/
def execute (searchPath : String) (args : List String) : Action α := do
  let s ← get
  let fs ← request (Program.look State.view)
  let name := args.headD ""
  let start (args : List String) (image : Image) : Action α := do
    match image with
    | .program program args =>
      request (Program.become program ⟨args.headD "", args.tail, s.environment⟩)
    | .unmarked => request (Program.become "sh" ⟨shellPath, name :: args.tail, s.environment⟩)
  match Image.named fs searchPath name args with
  | .ok (path, .unmarked) =>
    start (path :: args.tail) (.program "sh" (shellPath :: path :: args.tail))
  | .ok (_, image) => start args image
  | .error fault =>
    grumble (name ++ ": " ++ startingFault fault)
    throw (.exit (startingStatus fault))

/-- The search path of a session. -/
def Session.searchPath (s : Session) : String :=
  (s.value? "PATH").getD usualPath

/-- Run the lines of a text one after the other. -/
def runLines (p : Powers) (m : Position) : Nat → Reader → Nat → Action Nat
  | 0, _, status => return status
  | fuel + 1, r, status => do
    let s ← get
    let r := { r with aliases := s.aliases, nextDocument := s.nextDocument, documents := [] }
    let (result, r) := (Reading.line p.reserved).run r
    modify fun s =>
      { s with nextDocument := r.nextDocument, documents := r.documents ++ s.documents }
    match result with
    | .error mistake =>
      modify fun s => { s with line := mistake.line }
      fail mistake.text
    | .ok .nothingMore => return status
    | .ok (.script none) => runLines p m fuel r status
    | .ok (.script script) => runLines p m fuel r (← p.run m script)

/-- Run a text. -/
def runText (p : Powers) (m : Position) (text : String) : Action Nat :=
  runLines p m (text.length + 2) { input := text.toList } 0

/-- Run the action of a trap. The status is afterwards what it was before. -/
def runTrap (p : Powers) (action : String) : Action Unit := do
  let before := (← get).statusBefore
  let status := before.getD (← get).status
  modify fun s => { s with statusBefore := some status }
  let _ ← runText p {} action
  modify fun s => { s with status, statusBefore := before }

/-- Do what traps say about signals that have come. -/
def attend (p : Powers) : Action Unit := do
  let pending ← request (Program.ask fun s =>
    if s.me.pending.isEmpty then ([], s)
    else (s.me.pending, s.changeMe fun m => { m with pending := [] }))
  for signal in pending.mergeSort (fun a b => decide (a ≤ b)) do
    match (← get).traps.lookup signal with
    | some action => runTrap p action
    | none => pure ()

/-- End a shell: what was left is resolved into a status, and the trap for the end is run. -/
def conclude (p : Powers) (work : Action Nat) : Action Nat := do
  let resolve (u : Unwind) : Action Nat := do
    match u with
    | .exit status | .return status => return status
    | .failure => return (← get).status
    | .break _ | .continue _ => return 0
  let status ← tryCatch work resolve
  match (← get).traps.lookup 0 with
  | none => return status
  | some action =>
    modify fun s =>
      { s with traps := s.traps.filter (·.1 ≠ 0), status, statusBefore := some status }
    let work : Action (Option Nat) := do
      let _ ← runText p {} action
      return none
    let after ← tryCatch work fun u =>
      match u with
      | .exit status => return some status
      | .failure => return some failureStatus
      | _ => return none
    return after.getD status

/-- Whether signals, or the end of the shell, are taken care of. -/
def Session.hasTraps (s : Session) : Bool :=
  s.traps.any fun t => !t.2.isEmpty

/-- What changes for a copy of a shell: it takes care of no signals. -/
def beginSplit : Action Unit := do
  request (Program.change fun s => s.changeMe fun m => { m with caught := [] })
  modify fun s =>
    let traps := s.traps.filter fun t => t.2.isEmpty && t.1 ≠ 0
    { s with traps, isSubshell := true, jobs := [], statusBefore := none }

/-- Do work in a copy of the shell: the number of its process. -/
def splitOff (p : Powers) (work : Action Nat) : Action Nat :=
  split (conclude p (do
    beginSplit
    work))

/-- Tell of a child that was ended by a signal, unless that is what happens to many. -/
def tellEnding (ending : Ending) : Action Unit := do
  match ending with
  | .killed signal =>
    if signal ≠ 2 && signal ≠ Program.brokenSignal then
      let _ ← request (Program.write 2 (Text.octetsOf (signalText signal ++ "\n")))
  | .exited _ => return

/-- Note how a process of a job ended. -/
def noteEnding (process : Nat) (ending : Ending) : Action Unit :=
  modify fun s =>
    { s with jobs := s.jobs.map fun job =>
        { job with processes := job.processes.map fun known =>
            if known.1 = process && known.2.isNone then (process, some ending) else known } }

/-- Find out which processes of jobs have ended. -/
def reap : Action Unit := do
  for job in (← get).jobs do
    for (process, known) in job.processes do
      if known.isNone then
        let ended ← request (Program.ask fun s =>
          match s.awaitChild (.one process) with
          | some (result, s) => (result, s)
          | none => (none, s))
        if let some (_, ending) := ended then noteEnding process ending

/-- The least number that a job can have, from a given one on. The number of a job that has
ended is taken if somebody has asked for it. -/
def jobNumber : Nat → Nat → Action Nat
  | 0, number => return number
  | fuel + 1, number => do
    match (← get).jobs.find? (·.number = number) with
    | none => return number
    | some job =>
      if job.waited && job.ending?.isSome then
        modify fun s => { s with jobs := s.jobs.filter (·.number ≠ number) }
        return number
      else jobNumber fuel (number + 1)

/-- The number of a job that is being started. -/
def nextJobNumber : Action Nat := do
  jobNumber ((← get).jobs.length + 1) 1

/-- Wait for children: the status of the last of them. -/
def waitForEach : List Nat → Nat → Action Nat
  | [], status => return status
  | process :: rest, _ => do
    match ← request (Program.await (·.awaitChild (.one process))) with
    | some (_, ending) =>
      tellEnding ending
      waitForEach rest (statusOf ending)
    | none => waitForEach rest missingStatus

/-- Wait for the processes of a job that was just started: the status of the last of them. -/
def waitForAll (processes : List Nat) : Action Nat := do
  let _ ← nextJobNumber
  let status ← waitForEach processes 0
  reap
  return status

/-- Wait for a child: its status. -/
def waitFor (process : Nat) : Action Nat := waitForAll [process]

/-- Keep what was started and is not waited for. -/
def keepJob (processes : List Nat) : Action Unit := do
  let number ← nextJobNumber
  let job : Job := { number, processes := processes.map (·, none) }
  modify fun s => { s with background := processes.getLast?, jobs := job :: s.jobs }

/-- Let a descriptor that was opened for a child be one of those that programs know. -/
def plug (source fd : Nat) : Action Unit := do
  if source ≠ fd then moveDescriptor source fd

/-- What a script puts out. -/
def outputOf (p : Powers) (script : Script) : Action String := do
  match script with
  | none =>
    modify fun s => { s with outputStatus := 0 }
    return ""
  | some _ =>
    let (input, output) ← request (Program.ask State.makePipe)
    let child ← splitOff p (do
      request (Program.close input)
      plug output 1
      p.run { last := true } script)
    request (Program.close output)
    let octets := (← request (Program.readAll input)).toOption.getD ByteArray.empty
    request (Program.close input)
    let status ← waitFor child
    modify fun s => { s with outputStatus := status }
    return outputText octets

end ReleaseBuilder.Machine.Shell
