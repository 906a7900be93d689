/-
# What is shown on the terminal

The texts of the command line: its help, its version, the events of a release as they
happen, and the report at the end. Colours are written with the usual control sequences.
-/

import ReleaseBuilder.Release.Work

namespace ReleaseBuilder.Console

/-- The name of the program. -/
def programName : String := "bkc-release"

/-- The version of the program. -/
def programVersion : String := "0.1.0"

/-- The version of the program as it is shown. -/
def versionLines : List String :=
  [programName ++ " " ++ programVersion]

/-- The help. -/
def helpLines : List String :=
  ["Build bkc for this host and package a versioned release archive",
    "",
    "Usage: " ++ programName ++ " [OPTIONS]",
    "",
    "Options:",
    "      --root <ROOT>      Project root (defaults to the current directory). " ++
      "The archive is always written to the current directory",
    "      --config <CONFIG>  Configuration file " ++
      "(defaults to bkc-release.toml in the project root)",
    "      --skip-submodules  Do not run `git submodule update` before building",
    "      --native-platform  Pass the host platform tag to make instead of PLATFORM=generic",
    "  -v, --verbose          Enable verbose logging",
    "  -h, --help             Print help",
    "  -V, --version          Print version"]

/-- The styles of text on the terminal. -/
inductive Style where
  | bold
  | dim
  | green
  | blue
  | cyan
  deriving DecidableEq

/-- The number of a style in a control sequence. -/
def Style.number : Style → Nat
  | bold => 1
  | dim => 2
  | green => 32
  | blue => 34
  | cyan => 36

/-- The control sequence of a number. -/
def sequence (n : Nat) : String :=
  "\x1b[" ++ toString n ++ "m"

/-- A text in a style. -/
def styled (s : Style) (text : String) : String :=
  sequence s.number ++ text ++ sequence 0

/-- The lines that tell an event. -/
def eventLines : Event → List String
  | .started version platform tag =>
    [styled .bold "building",
      "\tVersion: " ++ styled .cyan version,
      "\tOperating system: " ++ platform.system.name,
      "\tHardware: " ++ platform.hardware.name,
      "\t" ++ styled .dim ("Platform tag: " ++ tag),
      ""]
  | .stepStarted step => [styled .blue ("  ◆ " ++ step.label) ++ " ..."]
  | .stepFinished step => [styled .green ("  ✓ " ++ step.label)]

/-- The lines that tell how a release ended well, with the time it took. -/
def reportLines (r : Report) (elapsed : String) : List String :=
  ["", styled .green "Archive:" ++ " " ++ r.archive.shown] ++
    (r.compilers.map fun pair =>
      styled .dim "Compilers:" ++ " " ++ pair.cc ++ " / " ++ pair.cxx).toList ++
    [styled .dim "Time:" ++ " " ++ elapsed]

/-- Lines as a text, each one ended. -/
def printed (lines : List String) : String :=
  String.join (lines.map (· ++ "\n"))

/-- What an occurrence shows on the terminal. A command that is not captured shows itself. -/
def occurrenceShown : Occurrence → Shown
  | .event e => { printed := printed (eventLines e) }
  | .ran _ _ shown | .piped _ _ _ _ shown => shown
  | .captured _ _ | .located _ _ => {}

end ReleaseBuilder.Console
