/-
# Building

The commands that fetch, clean and build. All of them run in the project root and carry
the variables of the developer environment. On linux and mac a makefile is given the
selected compilers; on Windows the solution is built, and nothing is cleaned.
-/

import ReleaseBuilder.Compilers.Pair
import ReleaseBuilder.Release.Work
import ReleaseBuilder.Settings
import ReleaseBuilder.Variables

namespace ReleaseBuilder

/-- What the build commands depend on. -/
structure Build where
  platform : Platform
  root : Path
  env : Variables := .empty
  settings : Settings
  /-- The make option for parallel jobs. -/
  jobsFlag : String

namespace Build

/-- A command in the project root with the variables of the build. -/
def command (b : Build) (program : String) (args : List String) : Command :=
  ((b.env.apply { program }).within b.root).withArgs args

/-- Fetch the submodules. -/
def fetchCommand (b : Build) : Command :=
  b.command "git" ["submodule", "update", "--init", "--recursive",
    "--jobs=" ++ toString b.settings.submoduleJobs.toNat]

/-- Remove what an earlier build made. -/
def cleanCommand (b : Build) : Command :=
  b.command b.platform.system.makeProgram ["clean"]

/-- The target that the makefile is asked for. -/
def target (b : Build) : String :=
  match b.settings.platformMode with
  | .generic => "generic"
  | .native => b.platform.tag

/-- Build the solution. -/
def solutionCommand (b : Build) : Command :=
  b.command "devenv" [b.settings.solution, "/Build", b.settings.windowsConfiguration]

/-- Run the makefile with a pair of compilers. -/
def makeCommand (b : Build) (compilers : Compilers) : Command :=
  b.command b.platform.system.makeProgram
    ["CXX=" ++ compilers.cxx, "CC=" ++ compilers.cc, "PLATFORM=" ++ b.target,
      "STATIC_LINK=true", b.jobsFlag]

/-- The build command. A makefile cannot be run without compilers. -/
def buildCommand (b : Build) (compilers : Option Compilers) : Except Failure Command :=
  match b.platform.system, compilers with
  | .windows, _ => .ok b.solutionCommand
  | _, some pair => .ok (b.makeCommand pair)
  | _, none => .error (.toolchainMismatch "<none>" "<none>")

/-- Fetch the submodules. -/
def fetch (b : Build) : Work σ Unit :=
  Work.run b.fetchCommand

/-- Remove what an earlier build made; nothing is removed on Windows. -/
def clean (b : Build) : Work σ Unit :=
  match b.platform.system with
  | .windows => return ()
  | .linux | .mac => Work.run b.cleanCommand

/-- Build. -/
def build (b : Build) (compilers : Option Compilers) : Work σ Unit := do
  Work.run (← Work.ofExcept (b.buildCommand compilers))

end Build

end ReleaseBuilder
