/-
# Writing an archive

A plan whose members are all there, and have names that an archive takes, is written: the archive is
a file with one entry for each member, in the order of the plan, and nothing changes but where that
file stands. A member that is a file gives what it holds, and a directory gives no more than itself.
The archive is opened before the members are read, which changes none of them unless it is one of
them.
-/

import ReleaseBuilder.Proofs.Archive.Entries

namespace ReleaseBuilder.Archive

open Tarball (Entry directoryName nameIn Acceptable storedName?_of_acceptable)

variable {files before opened : FileSystem} {plan : Plan} {member : Member} {number : Nat}

/-! ## Members -/

/-- A member that can be packed into the archive that is the file of a number: its source is a
directory, or another file, which may be read, and an archive takes its name. -/
structure Fits (files : FileSystem) (number : Nat) (member : Member) : Prop where
  source : (∃ loc access, files.find member.source = .ok (loc, .directory access)) ∨
    ∃ loc f, files.find member.source = .ok (loc, .file f) ∧ f.number ≠ number ∧
      f.access.allows .read
  named : Acceptable member.name

/-- What a member gives to an archive: a file all that it holds, a directory nothing of what is
in it. -/
inductive Packs (files : FileSystem) (member : Member) : Entry → Prop
  | file {loc : Location} {f : File} (found : files.find member.source = .ok (loc, .file f)) :
      Packs files member ⟨nameIn member.name, f.access.mode, .file f.content.data⟩
  | directory {loc : Location} {access : Access}
      (found : files.find member.source = .ok (loc, .directory access)) :
      Packs files member ⟨directoryName (nameIn member.name), access.mode, .directory⟩

theorem entry_of_directory {stored : String} {loc : Location} {access : Access}
    (found : files.find member.source = .ok (loc, .directory access))
    (taken : Tarball.storedName? member.name = some stored) :
    member.entry files = .ok ⟨directoryName stored, access.mode, .directory⟩ := by
  simp [Member.entry, FileSystem.find?_eq_some_iff.mpr found, entryOf, taken, Node.isFile,
    Node.isDirectory]

/-- Whatever has been written to the archive by then, a member that can be packed has one entry. -/
theorem Fits.exists_entry {output : Path} (opens : files.Opens output number before)
    (h : Fits files number member) :
    ∃ entry, Packs files member entry ∧
      ∀ content, member.entry (before.pour (.file number) content) = .ok entry := by
  have taken := storedName?_of_acceptable h.named
  rcases h.source with ⟨loc, access, found⟩ | ⟨loc, f, found, different, readable⟩
  · refine ⟨_, .directory found, fun content => ?_⟩
    exact entry_of_directory (FileSystem.find_of_extends (opens.extends content) found) taken
  · refine ⟨_, .file found, fun content => ?_⟩
    exact entry_of_file (opens.find_other found different content) readable taken

/-! ## Plans -/

/-- A directory with a file, a directory and a link in it. -/
def assorted : FileSystem where
  nodes := [
    (["d"], .directory ⟨0o755, .user⟩),
    (["d", "a"], .file ⟨0, .ofText "1", ⟨0o644, .user⟩⟩),
    (["d", "sub"], .directory ⟨0o750, .user⟩),
    (["d", "sub", "b"], .file ⟨1, .ofText "2", ⟨0o644, .user⟩⟩),
    (["d", "l"], .link "a")]
  next := 2

/-- A plan for members of the directory. -/
def planOf (members : List Member) : Plan :=
  ⟨⟨"d/out.tar.gz"⟩, ⟨"d"⟩, members⟩

theorem exists_opened : ∃ opened, assorted.create ⟨"d/out.tar.gz"⟩ = .ok (.file 2, opened) :=
  FileSystem.exists_create_iff.mpr (by decide +kernel)

end ReleaseBuilder.Archive
