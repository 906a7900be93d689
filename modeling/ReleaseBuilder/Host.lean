/-
# Hosts

A host is what a release is run on: it runs commands, finds programs, and holds files.
Everything a host does may depend on the files and on a state of its own, and may change
both, so a scripted host and a host with real processes are hosts in the same sense, and
a statement about every host covers them all.
-/

import ReleaseBuilder.Command
import ReleaseBuilder.Failure
import ReleaseBuilder.FileSystem.Operations

namespace ReleaseBuilder

/-- The files of a host and its own state. -/
structure World (σ : Type) where
  files : FileSystem
  state : σ

/-- What commands showed on the terminal: what they printed, and what they complained of. -/
structure Shown where
  printed : String := ""
  complained : String := ""
  deriving DecidableEq

/-- What a call that shows itself on the terminal left: its result, what was shown, and the
world after it. -/
structure Ran (σ : Type) where
  result : Except Failure Unit
  shown : Shown := {}
  world : World σ

/-- How commands behave. -/
structure Host (σ : Type) where
  /-- Run a command on the terminal and wait for it. Ending without success is a failure. -/
  run : Command → World σ → Ran σ
  /-- Run a command and collect what it prints. Ending without success is reported, and no
  failure. -/
  capture : Command → World σ → Except Failure CapturedOutput × World σ
  /-- Run two commands, the output of the first as the input of the second, whose output
  goes into a file. -/
  pipe : Command → Command → Path → World σ → Ran σ
  /-- Where a program is, if it is installed. -/
  locate : String → World σ → Option Path

end ReleaseBuilder
