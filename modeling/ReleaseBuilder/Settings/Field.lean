/-
# The fields of the settings

The names under which settings stand in a document.
-/

import ReleaseBuilder.Settings

namespace ReleaseBuilder

/-- A setting. -/
inductive Field where
  | product
  | versionFile
  | versionMarker
  | gnuCandidates
  | submoduleJobs
  | solution
  | windowsConfiguration
  | windowsOutputDir
  | windowsBinaries
  | unixOutputDir
  | vswherePath
  | vcvarsScript
  | compressor
  | platformMode
  deriving DecidableEq, Repr

namespace Field

/-- All fields, in the order in which they are listed to the user. -/
def all : List Field :=
  [product, versionFile, versionMarker, gnuCandidates, submoduleJobs, solution,
    windowsConfiguration, windowsOutputDir, windowsBinaries, unixOutputDir, vswherePath,
    vcvarsScript, compressor, platformMode]

/-- The name of a field in a document. -/
def name : Field → String
  | product => "product"
  | versionFile => "version_file"
  | versionMarker => "version_marker"
  | gnuCandidates => "gnu_candidates"
  | submoduleJobs => "submodule_jobs"
  | solution => "solution"
  | windowsConfiguration => "windows_configuration"
  | windowsOutputDir => "windows_output_dir"
  | windowsBinaries => "windows_binaries"
  | unixOutputDir => "unix_output_dir"
  | vswherePath => "vswhere_path"
  | vcvarsScript => "vcvars_script"
  | compressor => "compressor"
  | platformMode => "platform_mode"

/-- The field of a name. -/
def ofName? (s : String) : Option Field :=
  all.find? (·.name = s)

@[simp] theorem ofName?_name (f : Field) : ofName? f.name = some f := by
  cases f <;> decide

end Field

end ReleaseBuilder
