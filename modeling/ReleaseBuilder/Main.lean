/-
# The program

The command line, with the arguments it is called with. Its commands are run on a machine
that nobody has used yet, from the directory for what is not to be kept.
-/

import ReleaseBuilder.Console
import ReleaseBuilder.Machine.Execution

namespace ReleaseBuilder.Console

/-- What the program depends on besides its arguments. The machine has one processor, and its
clock stands still. -/
def usualSetting : Setting where
  jobsFlag := "-j1"
  elapsed := "0.00s"

/-- Print what a call prints, complain where it complains, and give its code. -/
def Outcome.tell (outcome : Outcome σ) : IO UInt32 := do
  IO.print outcome.shown.printed
  IO.eprint outcome.shown.complained
  return UInt32.ofNat outcome.code

end ReleaseBuilder.Console

/-- Answer a call of the program. -/
def main (args : List String) : IO UInt32 :=
  let files := ReleaseBuilder.Machine.files.enter ReleaseBuilder.Machine.scratchDirectory
  let world : ReleaseBuilder.Machine.World := ⟨files, ReleaseBuilder.Machine.environment⟩
  (ReleaseBuilder.Console.run ReleaseBuilder.Machine.host ReleaseBuilder.Console.usualSetting args
    world).tell
