/-
# Events of a release

A release is told as a list of events: that it started, with what is known by then, and
the beginning and end of each of its steps.
-/

import ReleaseBuilder.Compilers.Pair
import ReleaseBuilder.FileSystem.Path
import ReleaseBuilder.Platform

namespace ReleaseBuilder

/-- The steps of a release. -/
inductive Step where
  | fetchSubmodules
  | selectToolchain
  | bootstrapEnvironment
  | clean
  | build
  | package
  | finalClean
  deriving DecidableEq, Repr

/-- What a step is called on the terminal. -/
def Step.label : Step → String
  | fetchSubmodules => "Fetching submodules"
  | selectToolchain => "Selecting compilers"
  | bootstrapEnvironment => "Initialising Visual Studio environment"
  | clean => "Cleaning"
  | build => "Building"
  | package => "Packaging"
  | finalClean => "Cleaning up"

/-- What a release tells as it goes. -/
inductive Event where
  /-- The platform and the version are known. -/
  | started (version : String) (platform : Platform) (tag : String)
  | stepStarted (step : Step)
  | stepFinished (step : Step)
  deriving DecidableEq

/-- What a finished release reports. -/
structure Report where
  platform : Platform
  version : String
  tag : String
  /-- The compilers that were selected; a Windows build selects none. -/
  compilers : Option Compilers
  archive : Path
  deriving DecidableEq

end ReleaseBuilder
