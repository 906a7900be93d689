/-
# Failures

Everything that ends a release early. No failure is recovered from: there are no
retries and no partial releases. A failure has a message for the log and, where the
user can do something about it, a hint.
-/

import ReleaseBuilder.FileSystem.Fault
import ReleaseBuilder.FileSystem.Path

namespace ReleaseBuilder

/-- Why a release, or a part of it, ended early. -/
inductive Failure where
  /-- The host is outside the known set. -/
  | unsupportedPlatform (reason : String)
  /-- The version file has no version to read. -/
  | missingVersion (path : Path) (marker reason : String)
  /-- The compilers do not identify themselves as GNU compilers. -/
  | toolchainMismatch (cc cxx : String)
  /-- The developer environment cannot be had. -/
  | environmentSetup (reason : String)
  /-- A build output is not where it should be. -/
  | missingArtifact (path : Path)
  /-- A command ran and ended without success. -/
  | commandFailed (command status : String)
  /-- A command could not be started. -/
  | commandSpawn (command : String) (fault : Fault)
  /-- The settings cannot be read or do not fit. -/
  | config (reason : String)
  /-- A file could not be read or written. -/
  | io (fault : Fault)
  deriving DecidableEq

namespace Failure

/-- The message of a failure. -/
def message : Failure → String
  | unsupportedPlatform reason => "unsupported platform: " ++ reason
  | missingVersion path marker reason =>
    "cannot read " ++ marker ++ " version from " ++ path.shown ++ ": " ++ reason
  | toolchainMismatch cc cxx =>
    "the selected C++ compiler (" ++ cxx ++ ") or C compiler (" ++ cc ++ ") is not GNU g++/gcc"
  | environmentSetup reason => "environment setup failed: " ++ reason
  | missingArtifact path => "missing build output: " ++ path.shown
  | commandFailed command status => "`" ++ command ++ "` failed with " ++ status
  | commandSpawn command fault => "failed to run `" ++ command ++ "`: " ++ fault.message
  | config reason => "configuration error: " ++ reason
  | io fault => "IO error: " ++ fault.message

/-- What the user may do about a failure. Nothing general can be said where a command or
the system failed. -/
def hint? : Failure → Option String
  | unsupportedPlatform _ =>
    some "release builds are only defined for windows, linux and mac on x64 or arm64"
  | missingVersion _ _ _ =>
    some ("run from the project root or pass --root; " ++
      "the version file must define the marker as a quoted string")
  | toolchainMismatch _ _ =>
    some "if you are using macOS, you may install GNU g++ with Homebrew (https://brew.sh/)"
  | environmentSetup _ =>
    some ("install Visual Studio with the C++ workload; " ++
      "vswhere.exe ships with the Visual Studio Installer")
  | missingArtifact _ => some "the build step did not produce the expected binaries"
  | config _ => some "check bkc-release.toml or the file passed with --config"
  | commandFailed _ _ | commandSpawn _ _ | io _ => none

/-- The message, with the hint on a line of its own if there is one. -/
def messageWithHint (f : Failure) : String :=
  match f.hint? with
  | some hint => f.message ++ "\n  hint: " ++ hint
  | none => f.message

end Failure

end ReleaseBuilder
