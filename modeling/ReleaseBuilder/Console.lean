/-
# The command line

A call of the program, from its arguments to what it prints and the code it ends with.
The project root is the working directory unless another one is named, and the archive
goes into the working directory in any case.
-/

import ReleaseBuilder.Console.Display
import ReleaseBuilder.Console.Request
import ReleaseBuilder.Release.Run
import ReleaseBuilder.Settings.File

namespace ReleaseBuilder.Console

/-- How a call of the program ended. -/
structure Outcome (σ : Type) where
  code : Nat
  /-- What was shown on the terminal. -/
  shown : Shown := {}
  world : World σ

/-- The code of a call that cannot be meant. -/
def misuseCode : Nat := 2

/-- The code of a call that failed. -/
def failureCode : Nat := 1

/-- What a call depends on besides its arguments and its world. -/
structure Setting where
  /-- The make option for parallel jobs. -/
  jobsFlag : String
  /-- The variables that the program inherits. -/
  inherited : String → Option String := fun _ => none
  /-- The time that a release took, in words. -/
  elapsed : String
  /-- What is said of a settings file whose text is no document. -/
  explain : String → String := fun _ => ""

/-- The settings for a release: those of the named file, or else those of the project. -/
def settingsFor (s : Setting) (o : Options) (files : FileSystem) (root : Path) :
    Except Failure Settings := do
  let settings ←
    match o.config with
    | some path => Settings.load files path s.explain
    | none => Settings.discover files root s.explain
  return if o.nativePlatform then { settings with platformMode := .native } else settings

/-- The path of the working directory, unless it was removed. -/
def workingDirectory (files : FileSystem) : Except SystemError Path :=
  if (files.directoryAt? files.cwd).isSome then .ok (FileSystem.absolute files.cwd)
  else .error .noEntry

/-- Why a release cannot be begun, or the release. -/
def releaseFor (s : Setting) (o : Options) (files : FileSystem) : Except String Release :=
  match workingDirectory files with
  | .error cause => .error cause.message
  | .ok here =>
    let root := o.root.getD here
    if !files.isDirectory root then .error ("Project root not found: " ++ root.shown)
    else
      match settingsFor s o files root with
      | .error failure => .error failure.messageWithHint
      | .ok settings =>
        .ok
          { root
            settings
            outputDir := some here
            fetchSubmodules := !o.skipSubmodules
            jobsFlag := s.jobsFlag
            inherited := s.inherited }

/-- The words that stand before a reason for which there is no release. -/
def complaintMark : String := "Error: "

/-- The lines of a reason for which there is no release. -/
def complaint (reason : String) : String :=
  complaintMark ++ reason ++ "\n"

/-- Make a release and show it as it goes. -/
def release (host : Host σ) (s : Setting) (o : Options) (w : World σ) : Outcome σ :=
  match releaseFor s o w.files with
  | .error reason =>
    { code := failureCode, shown := { complained := complaint reason }, world := w }
  | .ok r =>
    let (result, session) := r.run.perform host w
    let shown := session.record.map occurrenceShown
    let told := String.join (shown.map Shown.printed)
    let complained := String.join (shown.map Shown.complained)
    match result with
    | .ok report =>
      { code := 0
        shown := ⟨told ++ printed (reportLines report s.elapsed), complained⟩
        world := session.world }
    | .error failure =>
      { code := failureCode
        shown := ⟨told, complained ++ complaint failure.messageWithHint⟩
        world := session.world }

/-- Answer a call of the program. -/
def run (host : Host σ) (s : Setting) (args : List String) (w : World σ) : Outcome σ :=
  match Request.read? args with
  | none => { code := misuseCode, world := w }
  | some .help => { code := 0, shown := { printed := printed helpLines }, world := w }
  | some .version => { code := 0, shown := { printed := printed versionLines }, world := w }
  | some (.release o) => release host s o w

end ReleaseBuilder.Console
