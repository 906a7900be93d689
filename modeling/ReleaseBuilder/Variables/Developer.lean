/-
# The developer environment

On Windows the compilers are found only in a developer environment. The installer knows
where the latest Visual Studio is; a script there sets the environment up, and what is
then printed is read as a table of variables. The environment of the release itself is
never changed.
-/

import ReleaseBuilder.Release.Work
import ReleaseBuilder.Settings
import ReleaseBuilder.Text.Blank
import ReleaseBuilder.Variables
import ReleaseBuilder.Variables.Template

namespace ReleaseBuilder.Variables

/-- Why there is no developer environment. -/
inductive NoEnvironment where
  | noInstaller (path : Path)
  | noInstallation
  | nothingPrinted (script : Path)
  deriving DecidableEq

/-- The words for a missing environment. -/
def NoEnvironment.words : NoEnvironment → String
  | noInstaller path => "vswhere.exe not found at: " ++ path.shown
  | noInstallation => "vswhere.exe found no Visual Studio installation"
  | nothingPrinted script => script.shown ++ " did not print an environment"

/-- The failure of a missing environment. -/
def NoEnvironment.failure (n : NoEnvironment) : Failure :=
  .environmentSetup n.words

/-- The query for the latest installation. -/
def installationQuery (installer : Path) : Command :=
  { program := installer.shown, args := ["-latest", "-property", "installationPath"] }

/-- Run an environment script and print the variables it leaves. -/
def environmentScript (script : Path) : Command :=
  { program := "cmd", args := ["/C", "call", script.shown, "&&", "set"] }

/-- The installation that the installer names; blanks after it do not count. -/
def installation (installer : Path) : Work σ Path := do
  let output ← Work.capture (installationQuery installer)
  let dir := Text.trimEnd output.stdout
  if dir.isEmpty then Work.fail NoEnvironment.noInstallation.failure
  else return .ofText dir

/-- The variables of the developer environment. `lookup` gives the variables to which the
installer's path may refer. -/
def developer (settings : Settings) (lookup : String → Option String) : Work σ Variables := do
  let installer : Path := .ofText (expand settings.vswherePath lookup)
  unless (← Work.files).pathExists installer do
    Work.fail (NoEnvironment.noInstaller installer).failure
  let script := (← installation installer).join settings.vcvarsScript
  let output ← Work.capture (environmentScript script)
  let env := parse output.stdout
  if env.isEmpty then Work.fail (NoEnvironment.nothingPrinted script).failure
  else return env

end ReleaseBuilder.Variables
