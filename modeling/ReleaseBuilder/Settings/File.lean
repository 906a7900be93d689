/-
# Settings files

Settings are read from a text, from the file at a path, or from the file of the usual
name in a project's root, which need not be there. What is said of a text that is no document
is up to the parser of documents; `explain` gives its words.
-/

import ReleaseBuilder.Failure
import ReleaseBuilder.FileSystem.Operations
import ReleaseBuilder.Settings.Document
import ReleaseBuilder.Toml.Reading

namespace ReleaseBuilder.Settings

/-- Why a file gives no settings. -/
inductive NoSettings where
  | unreadable (fault : Fault)
  /-- The text is no document, for this reason. -/
  | noDocument (reason : String)
  | misfit (source : String) (m : Misfit)

/-- The words for missing settings. -/
def NoSettings.words : NoSettings → String
  | unreadable fault => fault.message
  | noDocument reason => reason
  | misfit source m => m.words source

/-- The settings that a text writes. -/
def read (source : String) (explain : String → String := fun _ => "") :
    Except NoSettings Settings :=
  match Toml.read? source with
  | none => .error (.noDocument (explain source))
  | some document => (ofDocument document).mapError (.misfit source)

/-- The settings of a text. -/
def ofToml (source : String) (explain : String → String := fun _ => "") :
    Except Failure Settings :=
  (read source explain).mapError fun none => .config none.words

/-- The settings in the file at a path. -/
def readFile (files : FileSystem) (path : Path) (explain : String → String := fun _ => "") :
    Except NoSettings Settings :=
  match files.readText path with
  | .error fault => .error (.unreadable fault)
  | .ok source => read source explain

/-- The settings in the file at a path; a failure names the path. -/
def load (files : FileSystem) (path : Path) (explain : String → String := fun _ => "") :
    Except Failure Settings :=
  (readFile files path explain).mapError fun none => .config (path.shown ++ ": " ++ none.words)

/-- The usual name of a settings file. -/
def fileName : Path := .ofText "bkc-release.toml"

/-- The settings of a project: those in its settings file, or the usual ones if no regular
file has that name. -/
def discover (files : FileSystem) (root : Path) (explain : String → String := fun _ => "") :
    Except Failure Settings :=
  let path := root.join fileName
  if files.isFile path then load files path explain else .ok {}

end ReleaseBuilder.Settings
