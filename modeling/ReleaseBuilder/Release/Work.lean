/-
# Work on a host

What a release does is a sequence of calls on a host, of looks at the host's files and
of events. Work keeps a record of the calls, with what each came to, and of the events, in
the order in which they happened, and the record is there whether the work succeeds or
fails. The command log and the event list are two views of it.
-/

import ReleaseBuilder.Host
import ReleaseBuilder.Release.Event

namespace ReleaseBuilder

/-- One thing that happened while a release was at work. -/
inductive Occurrence where
  | event (e : Event)
  /-- A command ran on the terminal. -/
  | ran (c : Command) (result : Except Failure Unit) (shown : Shown)
  | captured (c : Command) (result : Except Failure CapturedOutput)
  | piped (producer consumer : Command) (dest : Path) (result : Except Failure Unit)
    (shown : Shown)
  /-- A program was looked for. -/
  | located (program : String) (found : Option Path)

/-- The part that a command had in a call on the host. -/
inductive Role where
  | run
  | capture
  | producer
  | consumer
  deriving DecidableEq

/-- A command with the part it had. -/
structure Invocation where
  role : Role
  command : Command
  deriving DecidableEq

namespace Occurrence

/-- The commands of an occurrence; a pipe has two. -/
def invocations : Occurrence → List Invocation
  | event _ | located _ _ => []
  | ran c _ _ => [⟨.run, c⟩]
  | captured c _ => [⟨.capture, c⟩]
  | piped producer consumer _ _ _ => [⟨.producer, producer⟩, ⟨.consumer, consumer⟩]

/-- The event of an occurrence, if it is one. -/
def event? : Occurrence → Option Event
  | event e => some e
  | _ => none

end Occurrence

/-- The commands of a record, failed ones too, in order. -/
def commandLog (record : List Occurrence) : List Invocation :=
  record.flatMap Occurrence.invocations

/-- The events of a record, in order. -/
def eventsOf (record : List Occurrence) : List Event :=
  record.filterMap Occurrence.event?

@[simp] theorem commandLog_append (a b : List Occurrence) :
    commandLog (a ++ b) = commandLog a ++ commandLog b := by
  simp [commandLog]

@[simp] theorem eventsOf_append (a b : List Occurrence) :
    eventsOf (a ++ b) = eventsOf a ++ eventsOf b := by
  simp [eventsOf]

/-- The world and the record so far. -/
structure Session (σ : Type) where
  world : World σ
  record : List Occurrence := []

namespace Session

/-- Note something that happened. -/
def note (s : Session σ) (o : Occurrence) : Session σ :=
  { s with record := s.record ++ [o] }

/-- Go on in another world. -/
def moveTo (s : Session σ) (w : World σ) : Session σ :=
  { s with world := w }

end Session

/-- Work that gives an `α` or fails. -/
abbrev Work (σ α : Type) := ReaderT (Host σ) (ExceptT Failure (StateM (Session σ))) α

namespace Work

/-- Do work on a host from a world, with an empty record: the result, and the session after
it. -/
def perform (work : Work σ α) (host : Host σ) (world : World σ) :
    Except Failure α × Session σ :=
  (work host).run { world }

/-- Fail. -/
def fail (f : Failure) : Work σ α := throw f

/-- The value of an `Except`, or its failure. -/
def ofExcept : Except Failure α → Work σ α
  | .ok a => pure a
  | .error f => fail f

/-- The files as they are now. -/
def files : Work σ FileSystem :=
  return (← get).world.files

/-- Tell an event. -/
def emit (e : Event) : Work σ Unit :=
  modify (·.note (.event e))

/-- Run a command on the terminal. -/
def run (c : Command) : Work σ Unit := do
  let ran := (← read).run c (← get).world
  modify fun s => (s.moveTo ran.world).note (.ran c ran.result ran.shown)
  ofExcept ran.result

/-- Run a command and collect what it prints. -/
def capture (c : Command) : Work σ CapturedOutput := do
  let (result, world) := (← read).capture c (← get).world
  modify fun s => (s.moveTo world).note (.captured c result)
  ofExcept result

/-- Run two commands into a file. -/
def pipe (producer consumer : Command) (dest : Path) : Work σ Unit := do
  let ran := (← read).pipe producer consumer dest (← get).world
  modify fun s =>
    (s.moveTo ran.world).note (.piped producer consumer dest ran.result ran.shown)
  ofExcept ran.result

/-- Where a program is. -/
def locate (program : String) : Work σ (Option Path) := do
  let found := (← read).locate program (← get).world
  modify (·.note (.located program found))
  return found

/-- Change the files, with a result that may be a failure. -/
def onFiles (change : FileSystem → Except Failure α × FileSystem) : Work σ α := do
  let (result, files) := change (← get).world.files
  modify fun s => s.moveTo { s.world with files }
  ofExcept result

/-- Do a step, telling its beginning and, if it succeeds, its end. -/
def step (current : Step) (work : Work σ α) : Work σ α := do
  emit (.stepStarted current)
  let result ← work
  emit (.stepFinished current)
  return result

end Work

end ReleaseBuilder
