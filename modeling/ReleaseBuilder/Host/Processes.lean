/-
# Hosts with processes

A host whose commands are processes. It is asked whether a command can be started, how a
started command ends, and which course two of them take that are connected. A command that was
started may still be lost, so that nobody can tell how it ended. The rules of running, capturing
and piping follow from these, whatever the processes do.

The file of a pipe is made before either of its commands starts, and removed again if anything
goes wrong. The second command writes to it on its own, at times when the files are as the
commands have made them, and when both of them have been waited for nothing more is written.
-/

import ReleaseBuilder.Host
import ReleaseBuilder.Host.Ending

namespace ReleaseBuilder

/-- How long a command is waited for. -/
inductive Patience where
  /-- Until its own process has ended. -/
  | untilEnd
  /-- Until nobody is left who could write to its output. -/
  | untilSilence
  deriving DecidableEq

/-- A process that was waited for. -/
structure Finished (σ : Type) where
  /-- How the process ended, or why it could not be waited for. -/
  ending : Except Fault Ending
  /-- What was written to its output. -/
  output : ByteArray
  /-- What was written to its error output. -/
  errors : ByteArray
  world : World σ

/-- Two connected processes that were waited for. -/
structure Connected (σ : Type) where
  /-- How the first process ended, or why it could not be waited for. -/
  produced : Except Fault Ending
  /-- How the second process ended, or why it could not be waited for. -/
  consumed : Except Fault Ending
  /-- What was written to their error output. -/
  errors : ByteArray
  world : World σ

/-- The course of two connected processes, step by step from one write to the next. -/
inductive Course (σ : Type) where
  /-- Both processes have been waited for. -/
  | ended (done : Connected σ)
  /-- The processes have come to some world, in which octets are written to the output of the
  second one. They go on in the world where the octets are at their offset. -/
  | put (reached : World σ) (offset : Nat) (octets : ByteArray) (goesOn : World σ → Course σ)

/-- The world with octets at an offset of an outlet. -/
def World.overwrite (w : World σ) (outlet : Outlet) (offset : Nat) (octets : ByteArray) : World σ :=
  { w with files := w.files.overwrite outlet offset octets }

/-- What a course comes to whose output goes to an outlet. -/
def Course.follow (outlet : Outlet) : Course σ → Connected σ
  | .ended done => done
  | .put reached offset octets goesOn =>
    follow outlet (goesOn (reached.overwrite outlet offset octets))

/-- How the processes of a host behave. -/
structure Processes (σ : Type) where
  /-- Why a command cannot be started, if it cannot. -/
  obstacle? : Command → World σ → Option Fault
  /-- Run a started command without input to its end. -/
  finish : Patience → Command → World σ → Finished σ
  /-- What a started command has done by the time that the next one is to be started. -/
  start : Command → World σ → World σ
  /-- What a command that is under way has done by the time that it is stopped. -/
  stop : Command → World σ → World σ
  /-- The course of two commands, the output of the first, which is under way, being the input of
  the second, whose output goes to an outlet. -/
  connect : Command → Command → Outlet → World σ → Course σ
  /-- Where a program is, if it is installed. -/
  locate : String → World σ → Option Path

namespace Processes

/-- The failure of a command that could not be started. -/
def spawnFailure (c : Command) (fault : Fault) : Failure :=
  .commandSpawn c.text fault

/-- Success, or the failure of a command that ended without it. -/
def check (c : Command) (ending : Ending) : Except Failure Unit :=
  if ending.success then .ok () else .error (.commandFailed c.text ending.text)

/-- Run a command on the terminal. To start it and to wait for it is one request. -/
def run (p : Processes σ) (c : Command) (w : World σ) : Ran σ :=
  match p.obstacle? c w with
  | some fault => { result := .error (spawnFailure c fault), world := w }
  | none =>
    let done := p.finish .untilEnd c w
    { result :=
        match done.ending with
        | .error fault => .error (spawnFailure c fault)
        | .ok ending => check c ending
      shown := ⟨Text.decodeLenient done.output, Text.decodeLenient done.errors⟩
      world := done.world }

/-- Run a command and collect what it prints. -/
def capture (p : Processes σ) (c : Command) (w : World σ) :
    Except Failure CapturedOutput × World σ :=
  match p.obstacle? c w with
  | some fault => (.error (spawnFailure c fault), w)
  | none =>
    let done := p.finish .untilSilence c w
    match done.ending with
    | .error fault => (.error (spawnFailure c fault), done.world)
    | .ok ending => (.ok ⟨Text.decodeLenient done.output, ending.success⟩, done.world)

/-- What two connected commands come to. The consumer is waited for first, and the producer is
checked first. -/
def verdict (producer consumer : Command) (produced consumed : Except Fault Ending) :
    Except Failure Unit :=
  match consumed with
  | .error fault => .error (.io fault)
  | .ok last =>
    match produced with
    | .error fault => .error (.io fault)
    | .ok first =>
      match check producer first with
      | .error failure => .error failure
      | .ok () => check consumer last

/-- Run two commands one into the other and on to an outlet. A producer whose consumer cannot
be started is stopped. -/
def join (p : Processes σ) (producer consumer : Command) (outlet : Outlet) (w : World σ) :
    Ran σ :=
  match p.obstacle? producer w with
  | some fault => { result := .error (spawnFailure producer fault), world := w }
  | none =>
    let begun := p.start producer w
    match p.obstacle? consumer begun with
    | some fault =>
      { result := .error (spawnFailure consumer fault), world := p.stop producer begun }
    | none =>
      let done := (p.connect producer consumer outlet begun).follow outlet
      { result := verdict producer consumer done.produced done.consumed
        shown := { complained := Text.decodeLenient done.errors }
        world := done.world }

/-- Run two commands into a file. -/
def pipe (p : Processes σ) (producer consumer : Command) (dest : Path) (w : World σ) : Ran σ :=
  match w.files.create dest with
  | .error fault => { result := .error (.io fault), world := w }
  | .ok (outlet, opened) =>
    let ran := p.join producer consumer outlet { w with files := opened }
    match ran.result with
    | .ok () => ran
    | .error _ =>
      let files := ran.world.files
      { ran with world := { ran.world with files := (files.remove dest).toOption.getD files } }

/-- The host whose commands are the processes. -/
def host (p : Processes σ) : Host σ where
  run := p.run
  capture := p.capture
  pipe := p.pipe
  locate := p.locate

end Processes

end ReleaseBuilder
