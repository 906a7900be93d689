/-
# Scripted hosts

A host that starts no processes and answers from a script instead: what programs print,
which programs are installed, which commands fail, and what commands that do not fail do
to the files. A script names commands by their text or by their program. Its only state
is how often each of its refusals has been matched.
-/

import ReleaseBuilder.FileSystem.Deposit
import ReleaseBuilder.Host

namespace ReleaseBuilder

/-- Whether a pattern of a script names a command: it is its text or its program. -/
def Command.isNamedBy (c : Command) (pattern : String) : Bool :=
  pattern = c.text || pattern = c.program

/-- A rule by which commands fail. -/
structure Refusal where
  pattern : String
  /-- The status that the command ends with; without one it cannot be started. -/
  status : Option String
  /-- The one match, counted from one, that the rule is for; without it, all are. -/
  nth : Option Nat

/-- The failure that a refusal gives a command. -/
def Refusal.failure (r : Refusal) (c : Command) : Failure :=
  match r.status with
  | some status => .commandFailed c.text status
  | none => .commandSpawn c.text .unknownEntity

/-- A rule by which commands change the files. -/
structure Effect where
  pattern : String
  removed : List Path
  deposits : List Deposit

/-- What a scripted host goes by. -/
structure Script where
  /-- What a command text or a program prints, if it can be started. -/
  outputs : List (String × Option CapturedOutput) := []
  installed : List String := []
  refusals : List Refusal := []
  effects : List Effect := []

namespace Script

/-- How often each refusal has been matched, in the order of the refusals. -/
abbrev Tally := List Nat

/-- The tally before the first command. -/
def freshTally (s : Script) : Tally :=
  s.refusals.map fun _ => 0

/-- The first refusal that fires for a command, and the tally after it. Refusals behind the
one that fires are not looked at. -/
def refuse? (c : Command) : List Refusal → Tally → Option Failure × Tally
  | r :: refusals, count :: tally =>
    if c.isNamedBy r.pattern then
      let count := count + 1
      if r.nth.all (· = count) then (some (r.failure c), count :: tally)
      else
        let (refused, later) := refuse? c refusals tally
        (refused, count :: later)
    else
      let (refused, later) := refuse? c refusals tally
      (refused, count :: later)
  | _, tally => (none, tally)

/-- What a command that is not refused does to the files. -/
def affect (s : Script) (c : Command) (files : FileSystem) : FileSystem :=
  (s.effects.filter fun e => c.isNamedBy e.pattern).foldl
    (fun files e => (files.clearAll e.removed).depositAll e.deposits) files

/-- Run a command. -/
def run (s : Script) (c : Command) (w : World Tally) : Except Failure Unit × World Tally :=
  match refuse? c s.refusals w.state with
  | (some failure, tally) => (.error failure, { w with state := tally })
  | (none, tally) => (.ok (), ⟨s.affect c w.files, tally⟩)

/-- What a command prints: the answer to its text, or else the answer to its program. -/
def answer? (s : Script) (c : Command) : Option CapturedOutput :=
  ((s.outputs.lookup c.text).or (s.outputs.lookup c.program)).join

/-- Run two commands into a file, which then tells the two. -/
def pipe (s : Script) (producer consumer : Command) (dest : Path) (w : World Tally) :
    Ran Tally :=
  match s.run producer w with
  | (.error failure, after) => { result := .error failure, world := after }
  | (.ok (), after) =>
    match s.run consumer after with
    | (.error failure, later) => { result := .error failure, world := later }
    | (.ok (), later) =>
      match later.files.write dest (.ofText (producer.text ++ " | " ++ consumer.text)) with
      | .error fault => { result := .error (.io fault), world := later }
      | .ok files => { result := .ok (), world := { later with files } }

/-- The host that goes by a script. -/
def host (s : Script) : Host Tally where
  run c w :=
    let (result, world) := s.run c w
    { result, world }
  capture c w :=
    match s.answer? c with
    | some output => (.ok output, w)
    | none => (.error (.commandSpawn c.text .unknownEntity), w)
  pipe := s.pipe
  locate program _ := if s.installed.contains program then some (.ofText program) else none

end Script

end ReleaseBuilder
