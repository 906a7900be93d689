/-
# Calls for a release

A call with arguments for a release is a run of that release and nothing else. The project root is
the one that is named, or else the working directory, and the archive goes into the working
directory in either case; the settings are those of the file that is named, which then are read
from no other file, or else those of the project. The code, what is printed and what is complained
of follow from the result of the run, from its events, and from what its commands showed.

If there is no release to run, because there is no working directory, no such root or no settings,
the call complains and that is all.
-/

import Mathlib.Data.List.Nodup
import ReleaseBuilder.Console
import ReleaseBuilder.Host.Scripted
import ReleaseBuilder.Proofs.Console.Arguments

namespace ReleaseBuilder

variable {σ : Type}

namespace Settings

end Settings

namespace Console

/-! ## The release that is asked for -/

namespace Arguments

variable (a : Arguments)

/-- Whether an option is given. -/
def gives (c : Choice) : Bool :=
  a.given.any (·.choice = c)

/-- The root that is named, or else the working directory. -/
def root (here : Path) : Path :=
  (a.given.findSome? Argument.root?).getD here

/-- The settings file that is named. -/
def config? : Option Path :=
  a.given.findSome? Argument.config?

/-- The settings in the file that is named, or else those of the project, with the platform's own
tag if that is asked for. -/
def settings (s : Setting) (files : FileSystem) (root : Path) : Except Failure Settings := do
  let settings ←
    match a.config? with
    | some path => Settings.load files path s.explain
    | none => Settings.discover files root s.explain
  return { settings with
    platformMode := if a.gives .nativePlatform then .native else settings.platformMode }

/-- The release with these settings, from a working directory. -/
def release (s : Setting) (here : Path) (settings : Settings) : Release where
  root := a.root here
  settings := settings
  outputDir := some here
  fetchSubmodules := !a.gives .skipSubmodules
  platform := none
  jobsFlag := s.jobsFlag
  inherited := s.inherited

end Arguments

/-! ## What is printed -/

/-- A step in words. -/
def stepWords : Step → String
  | .fetchSubmodules => "Fetching submodules"
  | .selectToolchain => "Selecting compilers"
  | .bootstrapEnvironment => "Initialising Visual Studio environment"
  | .clean => "Cleaning"
  | .build => "Building"
  | .package => "Packaging"
  | .finalClean => "Cleaning up"

/-- An operating system in a word. -/
def systemWord : OperatingSystem → String
  | .windows => "windows"
  | .linux => "linux"
  | .mac => "mac"

/-- A kind of hardware in a word. -/
def hardwareWord : Hardware → String
  | .x64 => "x64"
  | .arm64 => "arm64"

/-- What is printed of the start of a release, control sequences and line ends included. -/
def startedText (version : String) (platform : Platform) (tag : String) : String :=
  "\x1b[1m" ++ "building" ++ "\x1b[0m" ++ "\n" ++
    "\tVersion: " ++ "\x1b[36m" ++ version ++ "\x1b[0m" ++ "\n" ++
    "\tOperating system: " ++ systemWord platform.system ++ "\n" ++
    "\tHardware: " ++ hardwareWord platform.hardware ++ "\n" ++
    "\t" ++ "\x1b[2m" ++ "Platform tag: " ++ tag ++ "\x1b[0m" ++ "\n" ++
    "\n"

/-- What is printed of an event. -/
def eventText : Event → String
  | .started version platform tag => startedText version platform tag
  | .stepStarted step =>
    "\x1b[34m" ++ "  ◆ " ++ stepWords step ++ "\x1b[0m" ++ " ..." ++ "\n"
  | .stepFinished step =>
    "\x1b[32m" ++ "  ✓ " ++ stepWords step ++ "\x1b[0m" ++ "\n"

/-- What is printed behind a release: the archive, the compilers if there are any, and the time, or
nothing if the release failed. -/
def lastText (elapsed : String) : Except Failure Report → String
  | .ok report =>
    let compilers :=
      match report.compilers with
      | none => ""
      | some pair =>
        "\x1b[2m" ++ "Compilers:" ++ "\x1b[0m" ++ " " ++ pair.cc ++ " / " ++ pair.cxx ++ "\n"
    "\n" ++
      "\x1b[32m" ++ "Archive:" ++ "\x1b[0m" ++ " " ++ report.archive.shown ++ "\n" ++
      compilers ++
      "\x1b[2m" ++ "Time:" ++ "\x1b[0m" ++ " " ++ elapsed ++ "\n"
  | .error _ => ""

/-- What is complained of behind a release: the reason for which it failed, if it did. -/
def lastComplaint : Except Failure Report → String
  | .ok _ => ""
  | .error failure => "Error: " ++ failure.messageWithHint ++ "\n"

/-- A part of what is printed. -/
inductive Part where
  /-- What the program itself prints. -/
  | own (text : String)
  /-- What a command printed. -/
  | others (text : String)

namespace Part

def text : Part → String
  | own text | others text => text

def own? : Part → Option String
  | own text => some text
  | others _ => none

def others? : Part → Option String
  | own _ => none
  | others text => some text

end Part

/-- What commands showed by themselves, in order. -/
def shownBy (record : List Occurrence) : List Shown :=
  record.filterMap fun
    | .ran _ _ shown | .piped _ _ _ _ shown => some shown
    | .event _ | .captured _ _ | .located _ _ => none

/-- The parts of what is printed in the course of a release, in order. -/
def partsOf (record : List Occurrence) : List Part :=
  record.filterMap fun
    | .event e => some (.own (eventText e))
    | .ran _ _ shown | .piped _ _ _ _ shown => some (.others shown.printed)
    | .captured _ _ | .located _ _ => none

section Parts

variable (record : List Occurrence)

end Parts

/-! ## How calls come out -/

/-- A call that begins nothing, whatever the host would do: it prints nothing, complains of the
reason, fails, and leaves the world as it is. -/
structure Refuses (call : Host σ → Outcome σ) (w : World σ) (reason : String) : Prop where
  code : ∀ host, (call host).code = failureCode
  told : ∀ host, (call host).shown.printed = ""
  complained : ∀ host, (call host).shown.complained = "Error: " ++ reason ++ "\n"
  world : ∀ host, (call host).world = w

/-- A call that shows how a release goes: its events and what its commands print as they come, and
then its report, or the reason for which it failed. -/
structure Shows (outcome : Outcome σ) (elapsed : String) (result : Except Failure Report)
    (session : Session σ) : Prop where
  world : outcome.world = session.world
  code : outcome.code = 0 ↔ ∃ report, result = .ok report
  told : outcome.shown.printed =
    String.join ((partsOf session.record).map Part.text) ++ lastText elapsed result
  own : (partsOf session.record).filterMap Part.own? = (eventsOf session.record).map eventText
  others : (partsOf session.record).filterMap Part.others? =
    (shownBy session.record).map Shown.printed
  complained : outcome.shown.complained =
    String.join ((shownBy session.record).map Shown.complained) ++ lastComplaint result

section Release

variable {s : Setting} {o : Options} {w : World σ}

end Release

end Console
end ReleaseBuilder
