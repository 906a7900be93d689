/-
# What fields hold

There are more fields than kinds of them. A field is read and kept according to its kind alone, so
what holds of one field of a kind holds of all of them. Settings are told by what their fields hold.
-/

import ReleaseBuilder.Settings.Document

namespace ReleaseBuilder

/-- What a field is made of. -/
inductive Kind where
  | text
  | path
  | number
  | numbers
  | texts
  | mode
  deriving DecidableEq

/-- What a field of a kind holds. -/
def Kind.Content : Kind → Type
  | text => String
  | path => Path
  | number => UInt32
  | numbers => List UInt32
  | texts => List String
  | mode => PlatformMode

/-- The kind of a field. -/
def Field.kind : Field → Kind
  | product | versionMarker | solution | windowsConfiguration | vswherePath | compressor => .text
  | versionFile | windowsOutputDir | unixOutputDir | vcvarsScript => .path
  | submoduleJobs => .number
  | gnuCandidates => .numbers
  | windowsBinaries => .texts
  | platformMode => .mode

theorem Field.name_inj {f g : Field} (same : f.name = g.name) : f = g := by
  have named := Field.ofName?_name f
  rwa [same, Field.ofName?_name, Option.some.injEq, eq_comm] at named

theorem Field.ofName?_eq_some_iff {name : String} {f : Field} :
    Field.ofName? name = some f ↔ name = f.name := by
  constructor
  · intro found
    have named := List.find?_some found
    simpa using (of_decide_eq_true named).symm
  · rintro rfl
    exact Field.ofName?_name f

namespace Settings

/-- What a field holds. -/
def get (s : Settings) : (f : Field) → f.kind.Content
  | .product => s.product
  | .versionFile => s.versionFile
  | .versionMarker => s.versionMarker
  | .gnuCandidates => s.gnuCandidates
  | .submoduleJobs => s.submoduleJobs
  | .solution => s.solution
  | .windowsConfiguration => s.windowsConfiguration
  | .windowsOutputDir => s.windowsOutputDir
  | .windowsBinaries => s.windowsBinaries
  | .unixOutputDir => s.unixOutputDir
  | .vswherePath => s.vswherePath
  | .vcvarsScript => s.vcvarsScript
  | .compressor => s.compressor
  | .platformMode => s.platformMode

/-- Give a field another content. -/
def put (s : Settings) : (f : Field) → f.kind.Content → Settings
  | .product, c => { s with product := c }
  | .versionFile, c => { s with versionFile := c }
  | .versionMarker, c => { s with versionMarker := c }
  | .gnuCandidates, c => { s with gnuCandidates := c }
  | .submoduleJobs, c => { s with submoduleJobs := c }
  | .solution, c => { s with solution := c }
  | .windowsConfiguration, c => { s with windowsConfiguration := c }
  | .windowsOutputDir, c => { s with windowsOutputDir := c }
  | .windowsBinaries, c => { s with windowsBinaries := c }
  | .unixOutputDir, c => { s with unixOutputDir := c }
  | .vswherePath, c => { s with vswherePath := c }
  | .vcvarsScript, c => { s with vcvarsScript := c }
  | .compressor, c => { s with compressor := c }
  | .platformMode, c => { s with platformMode := c }

variable {s t : Settings} {f g : Field}

@[simp] theorem get_put_self (s : Settings) (f : Field) (c : f.kind.Content) :
    (s.put f c).get f = c := by
  cases f <;> rfl

theorem get_put_of_ne (s : Settings) (c : f.kind.Content) (apart : g ≠ f) :
    (s.put f c).get g = s.get g := by
  cases f <;> cases g <;> first | rfl | exact absurd rfl apart

theorem ext_get (same : ∀ f, s.get f = t.get f) : s = t := by
  cases s
  cases t
  rw [Settings.mk.injEq]
  exact ⟨same .product, same .versionFile, same .versionMarker, same .gnuCandidates,
    same .submoduleJobs, same .solution, same .windowsConfiguration, same .windowsOutputDir,
    same .windowsBinaries, same .unixOutputDir, same .vswherePath, same .vcvarsScript,
    same .compressor, same .platformMode⟩

/-- Read a value as the content of a kind. -/
def ofValue : (k : Kind) → Toml.Value → Except Misfit k.Content
  | .text => text .text
  | .path => path
  | .number => number
  | .numbers => sequence number
  | .texts => sequence (text .text)
  | .mode => mode

/-- Every field is set from the content that its kind reads in the value. -/
theorem set_eq (s : Settings) (f : Field) (value : Toml.Value) :
    s.set f value = (ofValue f.kind value).map (s.put f) := by
  cases f <;> rfl

end Settings

end ReleaseBuilder
