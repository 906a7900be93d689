/-
# Builtin commands for other processes

Waiting for what was started, sending signals, and asking about limits and times.
-/

import ReleaseBuilder.Machine.Shell.Builtin.Options

namespace ReleaseBuilder.Machine.Shell

/-- What waiting for a process came to. -/
inductive WaitResult where
  | ended (ending : Ending)
  | absent
  /-- A signal has come that is taken care of. -/
  | disturbed (signal : Nat)

/-- Wait for a child until it ends or a signal comes. -/
def waitOrBeDisturbed (process : Nat) : Action WaitResult :=
  request (Program.await fun s =>
    match s.awaitChild (.one process) with
    | some (some (_, ending), s) => some (.ended ending, s)
    | some (none, s) => some (.absent, s)
    | none => s.me.pending.min?.map fun signal => (.disturbed signal, s))

/-- Wait for the processes of a job, and tell of their endings if that is wanted. If a signal
comes, its status is the answer. -/
def waitForProcesses (telling : Bool) : List (Nat × Option Ending) → Action (Option Nat)
  | [] => return none
  | (process, known) :: rest => do
    if known.isSome then waitForProcesses telling rest
    else
      match ← waitOrBeDisturbed process with
      | .ended ending =>
        noteEnding process ending
        if telling then tellEnding ending
        waitForProcesses telling rest
      | .absent =>
        noteEnding process (.exited missingStatus)
        waitForProcesses telling rest
      | .disturbed signal => return some (signalStatus + signal)

/-- Wait for a job: its status, or that of a signal that has come, and whether the job has
ended. -/
def awaitJob (telling : Bool) (job : Job) : Action (Nat × Bool) := do
  match ← waitForProcesses telling job.processes with
  | some status => return (status, false)
  | none =>
    reap
    modify fun s =>
      { s with jobs := s.jobs.map fun j =>
          if j.number = job.number then { j with waited := true } else j }
    let ending := ((← get).jobs.find? (·.number = job.number)).bind Job.ending?
    return ((ending.map statusOf).getD missingStatus, true)

/-- The job that a text behind a percent sign means. -/
def jobNamed (name : String) : Action Job := do
  let jobs := (← get).jobs
  let (found, problem) :=
    match if name.startsWith "%" then name.toList.drop 1 else ['?'] with
    | [] | ['%'] | ['+'] => (jobs.head?, "No current job")
    | ['-'] => ((jobs.drop 1).head?, "No previous job")
    | digits =>
      (if digits.all Char.isDigit then jobs.find? (·.number = numberOf 10 digits) else none,
        "No such job: " ++ name)
  match found with
  | some job => return job
  | none => fail problem

/-- Wait for jobs one after the other: the status of the last one. -/
def waitEach : List String → Nat → Action Nat
  | [], status => return status
  | name :: rest, status => do
    let job ←
      if name.startsWith "%" then some <$> jobNamed name
      else do
        let process ← countOf name
        pure ((← get).jobs.find? fun job => (job.processes.getLast?.map Prod.fst) = some process)
    match job with
    | none => waitEach rest status
    | some job =>
      let (status, ended) ← awaitJob true job
      if ended then waitEach rest status else return status

/-- Wait for all jobs. -/
def waitEvery : List Job → Action Nat
  | [] => return 0
  | job :: rest => do
    let (status, ended) ← awaitJob false job
    if ended then waitEvery rest else return status

/-- Wait for what was started. -/
def wait (args : List String) : Action Nat := do
  let (_, rest) ← lettersOf "" args
  if rest.isEmpty then waitEvery (← get).jobs else waitEach rest missingStatus

/-- How signals are sent. -/
def killUsage : String :=
  "Usage: kill [-s sigspec | -signum | -sigspec] [pid | job]... or\nkill -l [exitstatus]"

/-- The signal that a text behind an option means, if it means one that can be sent. -/
def sendable? (name : String) : Option Nat :=
  match signalNamed? name with
  | some 0 => if name.toList.all Char.isDigit then some 0 else none
  | found => found

/-- The signal that is sent if none is told. -/
def usualSignal : Nat := 15

/-- Send a signal to a process that is told by its number or its job. -/
def sendTo (signal : Nat) (target : String) : Action Bool := do
  let process ←
    if target.startsWith "%" then do
      let _ ← jobNamed target
      pure none
    else if target.startsWith "-" then do
      let _ ← countOf (String.ofList (target.toList.drop 1))
      pure none
    else some <$> countOf target
  let sent ← match process with
    | some process => request (Program.ask (·.send process signal))
    | none => pure (.error .noProcess)
  match sent with
  | .ok () => return true
  | .error fault =>
    grumble (fault.words ++ "\n")
    return false

/-- Tell the names of signals. -/
def tellSignals (rest : List String) : Action Nat := do
  match rest with
  | [] =>
    put ("0\n" ++ String.join ((List.range lastSignal).map fun n => signalName (n + 1) ++ "\n"))
  | a :: _ =>
    let n ← countOf a
    let signal := if signalStatus < n then n - signalStatus else n
    if 0 < signal && signal ≤ lastSignal then put (signalName signal ++ "\n")
    else fail ("invalid signal number or exit status: " ++ a)

/-- Send a signal to processes, or tell the names of signals. -/
def kill (args : List String) : Action Nat := do
  let first := args.headD ""
  if args.isEmpty then fail killUsage
  else
    let word := String.ofList (first.toList.drop 1)
    let direct := if first.startsWith "-" then sendable? word else none
    let (signal, listing, rest) ←
      match direct with
      | some signal => pure (some signal, false, args.drop 1)
      | none =>
        if !first.startsWith "-" then pure (none, false, args)
        else do
          let (given, rest) ← optionsOf "ls:" (args.length + 1) args []
          let signal ← match given.find? (·.1 = 's') with
            | some (_, name) =>
              match sendable? name with
              | some signal => pure (some signal)
              | none => fail ("invalid signal number or name: " ++ name)
            | none => pure none
          pure (signal, given.any (·.1 = 'l'), rest)
    if listing then
      if signal.isSome then fail killUsage else tellSignals rest
    else if rest.isEmpty then fail killUsage
    else
      let mut status := 0
      for target in rest do
        if !(← sendTo (signal.getD usualSignal) target) then status := 1
      return status

/-- How a job is doing. -/
def stateText (job : Job) : String :=
  match job.ending? with
  | none => "Running"
  | some (.killed signal) => signalText signal
  | some (.exited 0) => "Done"
  | some (.exited status) => "Done(" ++ toString status ++ ")"

/-- How wide the state of a job is told. -/
def stateWidth : Nat := 33

/-- Tell of a job. One that has ended is told of only once. -/
def tellJob (letters : List Char) (job : Job) : Action Unit := do
  let jobs := (← get).jobs
  let place :=
    if jobs.head?.map Job.number = some job.number then "+"
    else if (jobs.drop 1).head?.map Job.number = some job.number then "-"
    else " "
  let processes := job.processes.map Prod.fst
  let front := "[" ++ toString job.number ++ "] " ++ place ++ " "
  let padded (s : String) : String :=
    s ++ String.ofList (List.replicate (max 1 (stateWidth - s.length)) ' ')
  let text :=
    if letters.contains 'p' then toString (processes.headD 0) ++ "\n"
    else if letters.contains 'l' then
      let first := padded (front ++ toString (processes.headD 0) ++ " " ++ stateText job)
      let others := processes.drop 1 |>.map fun process =>
        padded (" |\n" ++ String.ofList (List.replicate front.length ' ') ++ toString process)
      first ++ String.join others ++ "\n"
    else
      let others := processes.drop 1 |>.map fun _ => " | "
      padded (front ++ stateText job) ++ String.join others ++ "\n"
  let _ ← put text
  if job.ending?.isSome then
    modify fun s => { s with jobs := s.jobs.filter (·.number ≠ job.number) }

/-- Tell what was started. -/
def jobs (args : List String) : Action Nat := do
  let (letters, rest) ← lettersOf "lp" args
  reap
  if rest.isEmpty then
    for job in (← get).jobs do tellJob letters job
  else
    for name in rest do tellJob letters (← jobNamed name)
  return 0

/-- Go on with a job, of which there is none that was stopped. -/
def resume (args : List String) : Action Nat := do
  match args with
  | [] => fail "No current job"
  | name :: _ => fail ("No such job: " ++ name)

/-- Tell the times that were used. -/
def times (_ : List String) : Action Nat :=
  let none := "0m0.000000s 0m0.000000s\n"
  put (none ++ none)

/-- What is limited: the letter of its option, its words, and the limit if there is one. -/
def limits : List (Char × String × Option Nat) :=
  [('t', "time(seconds)", none), ('f', "file(blocks)", none), ('d', "data(kbytes)", none),
    ('s', "stack(kbytes)", some 8192), ('c', "coredump(blocks)", some 0),
    ('m', "memory(kbytes)", none), ('l', "locked memory(kbytes)", some 8192),
    ('p', "process", none), ('n', "nofiles", some 1024), ('v', "vmemory(kbytes)", none),
    ('w', "locks", none), ('r', "rtprio", some 0)]

/-- A limit as it is told. -/
def limitText : Option Nat → String
  | some n => toString n
  | none => "unlimited"

/-- Tell limits. -/
def ulimit (args : List String) : Action Nat := do
  let (letters, rest) ← lettersOf "HSatfdscmlpnvwr" args
  let letter := (letters.filter fun c => !"HSa".toList.contains c).getLastD 'f'
  match rest with
  | [a] =>
    if a = "unlimited" || a.toList.all Char.isDigit then return 0 else fail "bad number"
  | _ :: _ => fail "too many arguments"
  | [] =>
    if letters.contains 'a' then
      put (String.join (limits.map fun (_, words, limit) =>
        let blanks := String.ofList (List.replicate (20 - words.length) ' ')
        words ++ blanks ++ " " ++ limitText limit ++ "\n"))
    else put (limitText ((limits.lookup letter).bind Prod.snd) ++ "\n")

end ReleaseBuilder.Machine.Shell
