/-
# Settings from a document

A document of settings gives fields their values, each at most once; fields that it does
not name keep their usual values. The entries are looked at in order, and the first one
that does not fit is reported: a key that names no field, or a value that is not what the
field is made of.
-/

import ReleaseBuilder.Settings.Misfit

namespace ReleaseBuilder

open Toml (Document Key Value)

namespace Settings

/-- The text of a value. -/
def text (expected : Expected) : Value → Except Misfit String
  | .string _ s => .ok s
  | value => .error (.at value (.wrongType value expected))

/-- The path of a value. -/
def path (value : Value) : Except Misfit Path :=
  (text .path value).map Path.ofText

/-- The largest number that fits a setting, and one. -/
def numberLimit : Nat := Nat.pow 2 32

/-- The number of a value. -/
def number : Value → Except Misfit UInt32
  | .integer span n =>
    if 0 ≤ n ∧ n < numberLimit then .ok (UInt32.ofNat n.toNat)
    else .error ⟨some span, .outOfRange n⟩
  | value => .error (.at value (.wrongType value .number))

/-- The values of a sequence, each read in the same way; the first that does not fit is
reported. -/
def each (one : Value → Except Misfit α) : List Value → Except Misfit (List α)
  | [] => .ok []
  | value :: rest =>
    match one value with
    | .error misfit => .error misfit
    | .ok first => (each one rest).map (first :: ·)

/-- The items of a sequence. -/
def sequence (one : Value → Except Misfit α) : Value → Except Misfit (List α)
  | .array _ items => each one items
  | .tables _ items => each one (items.map .table)
  | value => .error (.at value (.wrongType value .sequence))

/-- The mode of a name. -/
def modeNamed (name : String) (span : Toml.Span) : Except Misfit PlatformMode :=
  match PlatformMode.ofName? name with
  | some mode => .ok mode
  | none => .error ⟨some span, .unknownMode name⟩

/-- Check that the table of a mode is empty; an empty array is as good. -/
def checkBare : Value → Except Misfit Unit
  | .table t => if t.entries.isEmpty then .ok () else .error ⟨t.span, .modeWithContent⟩
  | .array span items => if items.isEmpty then .ok () else .error ⟨some span, .modeWithContent⟩
  | .tables span _ => .error ⟨span, .modeWithTables⟩
  | value => .error (.at value (.modeWithValue value))

/-- The mode of a value: its name, or a table with its name as the one key and an empty table
or array behind it. -/
def mode : Value → Except Misfit PlatformMode
  | .string span s => modeNamed s span
  | .table t =>
    match t.entries with
    | [] => .error ⟨t.span, .noKey⟩
    | [(key, value)] => do
      let mode ← modeNamed key.name key.span
      (checkBare value).mapError fun misfit => misfit.within t.span
      .ok mode
    | _ => .error ⟨t.span, .manyKeys⟩
  | value => .error (.at value .noMode)

/-- Give a field a value. -/
def set (s : Settings) (field : Field) (value : Value) : Except Misfit Settings :=
  match field with
  | .product => (text .text value).map fun v => { s with product := v }
  | .versionFile => (path value).map fun v => { s with versionFile := v }
  | .versionMarker => (text .text value).map fun v => { s with versionMarker := v }
  | .gnuCandidates => (sequence number value).map fun v => { s with gnuCandidates := v }
  | .submoduleJobs => (number value).map fun v => { s with submoduleJobs := v }
  | .solution => (text .text value).map fun v => { s with solution := v }
  | .windowsConfiguration =>
    (text .text value).map fun v => { s with windowsConfiguration := v }
  | .windowsOutputDir => (path value).map fun v => { s with windowsOutputDir := v }
  | .windowsBinaries =>
    (sequence (text .text) value).map fun v => { s with windowsBinaries := v }
  | .unixOutputDir => (path value).map fun v => { s with unixOutputDir := v }
  | .vswherePath => (text .text value).map fun v => { s with vswherePath := v }
  | .vcvarsScript => (path value).map fun v => { s with vcvarsScript := v }
  | .compressor => (text .text value).map fun v => { s with compressor := v }
  | .platformMode => (mode value).map fun v => { s with platformMode := v }

/-- Take in one entry of a document. -/
def take (s : Settings) (key : Key) (value : Value) : Except Misfit Settings :=
  match Field.ofName? key.name with
  | none => .error ⟨some key.span, .unknownField key.name⟩
  | some field => (s.set field value).mapError fun misfit => misfit.within key.span

/-- Take in the entries of a document in order. -/
def takeAll (s : Settings) : List (Key × Value) → Except Misfit Settings
  | [] => .ok s
  | (key, value) :: rest =>
    match s.take key value with
    | .error misfit => .error misfit
    | .ok taken => takeAll taken rest

/-- The settings of a document. -/
def ofDocument (document : Document) : Except Misfit Settings :=
  takeAll {} document.entries

end Settings

end ReleaseBuilder
