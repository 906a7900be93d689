/-
# Running a release

A release finds out the platform and the version, and then takes its steps in order:
fetch the submodules, prepare the compilers or the developer environment, clean, build,
package, and clean up. Each step starts only after the one before it has succeeded, and
the first failure ends the release.
-/

import ReleaseBuilder.Archive.Packing
import ReleaseBuilder.Compilers.Selection
import ReleaseBuilder.Release.Build
import ReleaseBuilder.Release.Detection
import ReleaseBuilder.Release.Version
import ReleaseBuilder.Variables.Developer

namespace ReleaseBuilder

/-- A release that is to be made. -/
structure Release where
  /-- The root of the project. -/
  root : Path
  settings : Settings := {}
  /-- Where the archive goes, if not into the root. -/
  outputDir : Option Path := none
  /-- Whether submodules are fetched first. -/
  fetchSubmodules : Bool := true
  /-- The platform, if it is not the host's. -/
  platform : Option Platform := none
  /-- The make option for parallel jobs. -/
  jobsFlag : String
  /-- The variables that the release itself inherits. -/
  inherited : String → Option String := fun _ => none

namespace Release

/-- The platform the release is made for. -/
def findPlatform (r : Release) : Work σ Platform :=
  match r.platform with
  | some platform => return platform
  | none => Platform.detect

/-- The version in the sources. -/
def findVersion (r : Release) : Work σ String := do
  Work.ofExcept (Version.resolve (← Work.files) (r.root.join r.settings.versionFile)
    r.settings.versionMarker)

/-- The path of the archive. -/
def archivePath (r : Release) (platform : Platform) (version : String) : Path :=
  (r.outputDir.getD r.root).join (.ofText (Archive.fileName r.settings.product version platform))

/-- What the build commands depend on. -/
def buildFor (r : Release) (platform : Platform) (env : Variables) : Build where
  platform := platform
  root := r.root
  env := env
  settings := r.settings
  jobsFlag := r.jobsFlag

/-- The plan of the archive: the named binaries on Windows, elsewhere all that the build
left in its output directory. -/
def plan (r : Release) (files : FileSystem) (platform : Platform) (version : String) :
    Except Failure Archive.Plan :=
  let output := r.archivePath platform version
  match platform.system with
  | .windows =>
    Archive.Plan.ofFiles files output (r.root.join r.settings.windowsOutputDir)
      r.settings.windowsBinaries
  | .linux | .mac =>
    Archive.Plan.ofDirectory files output (r.root.join r.settings.unixOutputDir)

/-- Package what was built. -/
def package (r : Release) (platform : Platform) (version : String) : Work σ Path := do
  let plan ← Work.ofExcept (r.plan (← Work.files) platform version)
  Archive.package platform.system r.settings.compressor plan

/-- Fetch the submodules, if that is asked for. -/
def fetch (r : Release) (platform : Platform) : Work σ Unit := do
  if r.fetchSubmodules then
    Work.step .fetchSubmodules (r.buildFor platform .empty).fetch

/-- The steps on Windows. -/
def stepsInDeveloperEnvironment (r : Release) (platform : Platform) (version : String) :
    Work σ Path := do
  let env ← Work.step .bootstrapEnvironment (Variables.developer r.settings r.inherited)
  Work.step .build ((r.buildFor platform env).build none)
  Work.step .package (r.package platform version)

/-- The steps where a makefile is used. -/
def stepsWithMakefile (r : Release) (platform : Platform) (version : String) :
    Work σ (Option Compilers × Path) := do
  let build := r.buildFor platform .empty
  let compilers ←
    Work.step .selectToolchain (Compilers.select platform.system r.settings.gnuCandidates)
  Work.step .clean build.clean
  Work.step .build (build.build compilers)
  let archive ← Work.step .package (r.package platform version)
  Work.step .finalClean build.clean
  return (compilers, archive)

/-- The steps of a platform, fetching apart: the compilers that were selected, and the
archive. -/
def steps (r : Release) (platform : Platform) (version : String) :
    Work σ (Option Compilers × Path) :=
  match platform.system with
  | .windows => return (none, ← r.stepsInDeveloperEnvironment platform version)
  | .linux | .mac => r.stepsWithMakefile platform version

/-- Make the release. -/
def run (r : Release) : Work σ Report := do
  let platform ← r.findPlatform
  let version ← r.findVersion
  Work.emit (.started version platform platform.tag)
  r.fetch platform
  let (compilers, archive) ← r.steps platform version
  return { platform, version, tag := platform.tag, compilers, archive }

end Release

end ReleaseBuilder
