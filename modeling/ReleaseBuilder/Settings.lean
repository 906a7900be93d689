/-
# Settings of a release

The conventions of the project being released. The usual values describe the bkc source
tree; a settings document may replace any of them.
-/

import ReleaseBuilder.FileSystem.Path

namespace ReleaseBuilder

/-- Which target the makefile is asked for. -/
inductive PlatformMode where
  /-- Portable binaries. -/
  | generic
  /-- Binaries for the hardware of the host. -/
  | native
  deriving DecidableEq, Repr

namespace PlatformMode

/-- The name of the mode in a settings document. -/
def name : PlatformMode → String
  | generic => "generic"
  | native => "native"

/-- All modes. -/
def all : List PlatformMode := [generic, native]

/-- The mode of a name. -/
def ofName? : String → Option PlatformMode
  | "generic" => some generic
  | "native" => some native
  | _ => none

@[simp] theorem ofName?_name (mode : PlatformMode) : ofName? mode.name = some mode := by
  cases mode <;> rfl

end PlatformMode

/-- The conventions of the project being released. Paths are relative to the project root
unless they are absolute. -/
structure Settings where
  /-- The product name at the front of archive names. -/
  product : String := "bkc"
  /-- The file with the version. -/
  versionFile : Path := .ofText "src/common/defs.h"
  /-- The token that marks the version's line. -/
  versionMarker : String := "BKC_VERSION"
  /-- The compiler versions tried on mac, in order. -/
  gnuCandidates : List UInt32 := [13, 12, 11, 10]
  /-- Parallel jobs of the submodule fetch. -/
  submoduleJobs : UInt32 := 8
  /-- The solution built on Windows. -/
  solution : String := "bkc.sln"
  /-- The configuration built on Windows. -/
  windowsConfiguration : String := "Release|x64"
  /-- The directory with the binaries built on Windows. -/
  windowsOutputDir : Path := .ofText "x64/Release"
  /-- The binaries packed on Windows. -/
  windowsBinaries : List String := ["bkc.exe", "bkc_dump.exe"]
  /-- The directory packed on linux and mac. -/
  unixOutputDir : Path := .ofText "bin"
  /-- Where the Visual Studio installer is, with `%NAME%` references. -/
  vswherePath : String := "%ProgramFiles(x86)%/Microsoft Visual Studio/Installer/vswhere.exe"
  /-- The environment script, relative to the Visual Studio installation. -/
  vcvarsScript : Path := .ofText "VC/Auxiliary/Build/vcvars64.bat"
  /-- The compressor, which reads its standard input. -/
  compressor : String := "pigz"
  platformMode : PlatformMode := .generic
  deriving DecidableEq

end ReleaseBuilder
