/-
# Processes

A process is what it does next, and what it becomes then. It makes one request after the
other, and what it goes on with depends on the answers; a request that is not answered
leaves it as it was, to try again later. It can split off a child, it can become another
program, and at some time it is finished.

A program that gives a value is a process that lacks what to do with the value. So programs
can be put one after the other, and the last step of every program is to finish.
-/

import ReleaseBuilder.Machine.Calls

namespace ReleaseBuilder.Machine

/-- What a program is called with: the name it is called by, its arguments, and the entries of
its environment. -/
structure Call where
  name : String
  args : List String
  env : List String

/-- What a process does from now on. -/
inductive Process where
  | finished (ending : Ending)
  /-- Make a request. -/
  | step (attempt : State → Option (Process × State))
  /-- Split off a child, and go on knowing its number. -/
  | fork (child : Process) (parent : Nat → Process)
  /-- Become a program of the machine. -/
  | become (program : String) (call : Call)

/-- A part of a process that gives a value. -/
def Program (α : Type) : Type := (α → Process) → Process

namespace Program

instance : Monad Program where
  pure a := fun next => next a
  bind program rest := fun next => program fun a => rest a next

/-- A request that may have to wait. -/
def await (attempt : State → Option (α × State)) : Program α := fun next =>
  .step fun s => (attempt s).map fun (a, s) => (next a, s)

/-- A request that is answered at once. -/
def ask (request : State → α × State) : Program α := fun next =>
  .step fun s =>
    let (a, s) := request s
    some (next a, s)

/-- What the state of the machine shows. -/
def look (view : State → α) : Program α :=
  ask fun s => (view s, s)

/-- A change of the state of the machine. -/
def change (f : State → State) : Program Unit :=
  ask fun s => ((), f s)

/-- Finish. -/
def finish (ending : Ending) : Program α := fun _ => .finished ending

/-- Finish with a code. -/
def exit (code : Nat) : Program α := finish (.exited (code % 256))

/-- Become another program. -/
def become (program : String) (call : Call) : Program α := fun _ => .become program call

/-- Split off a child that does something and finishes. -/
def fork (child : Program Nat) : Program Nat := fun next =>
  .fork (child fun code => .finished (.exited (code % 256))) next

/-- The process that does what a program says and finishes with its value. -/
def process (program : Program Nat) : Process :=
  program fun code => .finished (.exited (code % 256))

/-- Read at most so many octets from a descriptor. -/
def read (fd count : Nat) : Program (Except SystemError ByteArray) :=
  await (·.read fd count)

/-- The signal that a writer gets if nobody is left to read. -/
def brokenSignal : Nat := 13

/-- Write octets to a descriptor, all of them unless that is refused. The writer to a broken
pipe gets a signal, and is refused only if it does not end by it. -/
def writeAll (fd : Nat) : Nat → ByteArray → Program (Except SystemError Unit)
  | 0, _ => pure (.ok ())
  | fuel + 1, data =>
    if data.isEmpty then pure (.ok ())
    else do
      let written ← await (·.write fd data)
      match written with
      | .taken count => writeAll fd fuel (data.extract count data.size)
      | .refused fault => pure (.error fault)
      | .broken => do
        change fun s => s.deliver s.self brokenSignal
        pure (.error .brokenPipe)

/-- Write octets to a descriptor. -/
def write (fd : Nat) (data : ByteArray) : Program (Except SystemError Unit) :=
  writeAll fd (data.size + 1) data

/-- How many octets are read at a time. -/
def readSize : Nat := 65536

/-- Read all that there is to read from a descriptor, given how often to try. -/
def readRest (fd : Nat) : Nat → ByteArray → Program (Except SystemError ByteArray)
  | 0, read => pure (.ok read)
  | fuel + 1, sofar => do
    match ← read fd readSize with
    | .error fault => pure (.error fault)
    | .ok data => if data.isEmpty then pure (.ok sofar) else readRest fd fuel (sofar ++ data)

/-- How often something is repeated that has no end of its own. -/
def repetitions : Nat := 1000000000

/-- Read all that there is to read from a descriptor. -/
def readAll (fd : Nat) : Program (Except SystemError ByteArray) :=
  readRest fd repetitions ByteArray.empty

/-- Close a descriptor. -/
def close (fd : Nat) : Program Unit :=
  change (·.close fd)

/-- Wait until some time has gone by, in thousandths of a second. -/
def sleep (time : Nat) : Program Unit := do
  let now ← look State.clock
  change fun s => s.changeMe fun m => { m with wake := some (now + time) }
  await fun s =>
    if now + time ≤ s.clock then some ((), s.changeMe fun m => { m with wake := none }) else none

end Program

end ReleaseBuilder.Machine
