/-
# Selecting compilers

A build needs GNU compilers. On linux the plain names are GNU compilers; on mac they are
not, so the versioned names are tried in order before the plain ones. A compiler shows
its family in what it prints for `--version`, and the selected pair is checked once more
before it is used. Windows builds choose their compilers themselves.
-/

import ReleaseBuilder.Compilers.Pair
import ReleaseBuilder.Release.Work
import ReleaseBuilder.Text.Search

namespace ReleaseBuilder.Compilers

/-- The query for a compiler's version. -/
def versionQuery (compiler : String) : Command :=
  { program := compiler, args := ["--version"] }

/-- What a GNU C compiler prints somewhere in its version, in lower case. -/
def cSignature : String := "gcc"

/-- What a GNU C++ compiler prints somewhere in its version, in lower case. -/
def cxxSignature : String := "g++"

/-- Whether a version text holds a signature, case ignored. The signatures have ASCII
characters only, and no other character has one of them as its lower case, so lowering
the ASCII letters is enough. -/
def shows (signature : String) (output : CapturedOutput) : Bool :=
  Text.contains (Text.lowerAscii output.stdout) signature

/-- Whether a compiler's version holds a signature. A compiler that cannot be started shows
nothing; whether it ended with success does not matter. -/
def reports (compiler signature : String) : Work σ Bool :=
  tryCatch
    (return shows signature (← Work.capture (versionQuery compiler)))
    fun _ => return false

/-- Whether both compilers of a pair are installed; the second is looked for only if the
first is there. -/
def installed (pair : Compilers) : Work σ Bool := do
  if (← Work.locate pair.cxx).isSome then return (← Work.locate pair.cc).isSome
  else return false

/-- Whether both compilers show the GNU C signature; the second is asked only if the first
does. -/
def identifies (pair : Compilers) : Work σ Bool := do
  if ← reports pair.cxx cSignature then reports pair.cc cSignature else return false

/-- The first version whose pair is installed and shows the GNU family. -/
def probe? : List UInt32 → Work σ (Option Compilers)
  | [] => return none
  | version :: rest => do
    let pair := versioned version
    if ← installed pair then
      if ← identifies pair then return some pair else probe? rest
    else probe? rest

/-- Check that both compilers show their GNU signatures. Both are asked in any case. -/
def validate (pair : Compilers) : Work σ Unit := do
  let cxx ← reports pair.cxx cxxSignature
  let cc ← reports pair.cc cSignature
  if cxx && cc then return ()
  else Work.fail (.toolchainMismatch pair.cc pair.cxx)

/-- The pair for a system that builds with a makefile, before it is checked. -/
def candidate (system : OperatingSystem) (versions : List UInt32) : Work σ Compilers :=
  match system with
  | .mac => return (← probe? versions).getD standard
  | .linux | .windows => return standard

/-- Select the compilers for a system. -/
def select (system : OperatingSystem) (versions : List UInt32) : Work σ (Option Compilers) :=
  match system with
  | .windows => return none
  | .linux | .mac => do
    let pair ← candidate system versions
    validate pair
    return some pair

end ReleaseBuilder.Compilers
