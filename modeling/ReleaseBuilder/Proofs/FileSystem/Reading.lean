/-
# Reading a file as a text

A path at which something is leads to a node. A file is read as a text exactly if its octets are
what that text is spelled with. Where the system gives the content out and there is no such text,
the fault says so.
-/

import ReleaseBuilder.FileSystem.Operations
import ReleaseBuilder.Proofs.Text.Utf8

namespace ReleaseBuilder

theorem Content.text?_eq_some_iff {content : Content} {source : String} :
    content.text? = some source ↔ content = .ofText source := by
  cases content with
  | octets data => rw [text?, Text.decode?_eq_some_iff, ofText, octets.injEq]
  | tarball entries => simp [text?, ofText]
  | program name => simp [text?, ofText]

theorem Content.ofText_inj {source other : String} (h : ofText source = ofText other) :
    source = other := by
  have spelled := text?_eq_some_iff.mpr h
  rwa [text?_eq_some_iff.mpr rfl, Option.some.injEq] at spelled

namespace FileSystem

variable {files : FileSystem} {path : Path}

theorem find?_eq_some_iff {found : Location × Node} :
    files.find? path = some found ↔ files.find path = .ok found := by
  rw [find?]
  cases files.find path <;> simp [Except.toOption]

theorem pathExists_iff :
    files.pathExists path ↔ ∃ loc node, files.find path = .ok (loc, node) := by
  rw [pathExists, Option.isSome_iff_exists, Prod.exists]
  simp only [find?_eq_some_iff]

theorem isFile_iff :
    files.isFile path ↔ ∃ loc file, files.find path = .ok (loc, .file file) := by
  rw [isFile, Option.any_eq_true, Prod.exists]
  simp only [find?_eq_some_iff]
  constructor
  · rintro ⟨loc, node, found, isFile⟩
    cases node with
    | file file => exact ⟨loc, file, found⟩
    | directory | link | device => cases isFile
  · rintro ⟨loc, file, found⟩
    exact ⟨loc, .file file, found, rfl⟩

/-- Content that no text is spelled with. -/
def Textless (content : Content) : Prop :=
  ∀ source, content ≠ .ofText source

theorem textless_iff {content : Content} : Textless content ↔ content.text? = none := by
  rw [Option.eq_none_iff_forall_ne_some]
  exact forall_congr' fun source => not_congr Content.text?_eq_some_iff.symm

theorem readText_eq_ok_iff {source : String} :
    files.readText path = .ok source ↔ files.read path = .ok (.ofText source) := by
  rw [readText]
  cases files.read path with
  | error fault => simp
  | ok content =>
    rw [Except.ok.injEq, ← Content.text?_eq_some_iff]
    cases spelled : content.text? with
    | none => simp [spelled]
    | some text => simp [spelled]

theorem readText_eq_error_iff {fault : Fault} :
    files.readText path = .error fault ↔
      files.read path = .error fault ∨
        ∃ content, files.read path = .ok content ∧ Textless content ∧ fault = .notText := by
  simp only [textless_iff]
  rw [readText]
  cases files.read path with
  | error refused => simp
  | ok content =>
    cases spelled : content.text? with
    | none => simp [spelled, eq_comm]
    | some text => simp [spelled]

end FileSystem

end ReleaseBuilder
