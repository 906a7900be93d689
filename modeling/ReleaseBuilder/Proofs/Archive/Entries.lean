/-
# The entries of named files

Written directly, an archive of named files holds one entry for each of them, in the order of the
names: the file's octets and permissions, under a name that leads along the same names. The archive
itself is opened before the files are read, which changes none of them unless it is one of them.
-/

import Mathlib.Data.List.Forall2
import ReleaseBuilder.Archive.Packing
import ReleaseBuilder.Proofs.Archive.Naming
import ReleaseBuilder.Proofs.FileSystem.Creating
import ReleaseBuilder.Proofs.FileSystem.Reading

namespace ReleaseBuilder.Archive

open Tarball (Entry EntryKind storedName?)

/-! ## Planning named files -/

theorem membersOf_of_isFile {files : FileSystem} {dir : Path} {names : List String}
    (all : ∀ name ∈ names, files.isFile (dir.join (.ofText name))) :
    Plan.membersOf files dir names = .ok (names.map (memberIn dir)) := by
  induction names with
  | nil => rfl
  | cons name rest ih =>
      have there : files.isFile (memberIn dir name).source := all name List.mem_cons_self
      rw [Plan.membersOf, if_pos there, ih fun other member => all other (.tail _ member)]
      rfl

theorem membersOf_of_missing {files : FileSystem} {dir : Path} {before after : List String}
    {name : String} (earlier : ∀ other ∈ before, files.isFile (dir.join (.ofText other)))
    (missing : ¬ files.isFile (dir.join (.ofText name))) :
    Plan.membersOf files dir (before ++ name :: after) =
      .error (.missingArtifact (dir.join (.ofText name))) := by
  induction before with
  | nil =>
      have absent : ¬ files.isFile (memberIn dir name).source := missing
      rw [List.nil_append, Plan.membersOf, if_neg absent]
      rfl
  | cons other rest ih =>
      have there : files.isFile (memberIn dir other).source := earlier other List.mem_cons_self
      rw [List.cons_append, Plan.membersOf, if_pos there,
        ih fun another member => earlier another (.tail _ member)]

theorem isFile_of_membersOf {files : FileSystem} {dir : Path} {names : List String}
    {members : List Member} (planned : Plan.membersOf files dir names = .ok members) :
    ∀ name ∈ names, files.isFile (dir.join (.ofText name)) := by
  induction names generalizing members with
  | nil => exact nofun
  | cons name rest ih =>
      rw [Plan.membersOf] at planned
      split at planned
      · next there =>
        split at planned
        · next others => exact List.forall_mem_cons.mpr ⟨there, ih others⟩
        · cases planned
      · cases planned

/-- Named files are planned if all of them are there, under the names that are given. -/
theorem ofFiles_eq_ok_iff {files : FileSystem} {output dir : Path} {names : List String}
    {plan : Plan} :
    Plan.ofFiles files output dir names = .ok plan ↔
      (∀ name ∈ names, files.isFile (dir.join (.ofText name))) ∧
        plan = ⟨output, dir, names.map (memberIn dir)⟩ := by
  constructor
  · intro planned
    cases found : Plan.membersOf files dir names with
    | error failure =>
      rw [Plan.ofFiles, found] at planned
      cases planned
    | ok members =>
      have all := isFile_of_membersOf found
      rw [Plan.ofFiles, membersOf_of_isFile all] at planned
      cases planned
      exact ⟨all, rfl⟩
  · rintro ⟨all, rfl⟩
    rw [Plan.ofFiles, membersOf_of_isFile all]

/-! ## Gathering entries -/

/-- An entry holds a named file of a directory: its octets and its permissions, under a name that
leads along the same names. -/
structure HoldsFile (files : FileSystem) (dir : Path) (name : String) (entry : Entry) : Prop where
  stored : storedName? name = some entry.name
  sameNames : (Path.mk entry.name).names = (Path.mk name).names
  holds : ∃ loc f, files.find (dir.join (.ofText name)) = .ok (loc, .file f) ∧
    entry.mode = f.access.mode ∧ entry.kind = .file f.content.data

/-- A named file of a directory that can be packed into the archive that is the file of a number:
it is another file, it may be read, and an archive can store its name. -/
structure Packable (files : FileSystem) (dir : Path) (number : Nat) (name : String) : Prop where
  file : ∃ loc f, files.find (dir.join (.ofText name)) = .ok (loc, .file f) ∧ f.number ≠ number ∧
    f.access.allows .read
  stored : (storedName? name).isSome

/-- Whether a node is a file that may be read, and not the file of a number. -/
def isPackable (number : Nat) : Node → Bool
  | .file f => f.number ≠ number && f.access.allows .read
  | _ => false

theorem packable_iff {files : FileSystem} {dir : Path} {number : Nat} {name : String} :
    Packable files dir number name ↔
      (files.find? (dir.join (.ofText name))).any (fun found => isPackable number found.2) ∧
        (storedName? name).isSome := by
  rw [FileSystem.find?]
  constructor
  · rintro ⟨⟨loc, f, found, different, readable⟩, stored⟩
    rw [found]
    exact ⟨by simp [Except.toOption, isPackable, different, readable], stored⟩
  · rintro ⟨other, stored⟩
    rcases found : files.find (dir.join (.ofText name)) with fault | ⟨loc, node⟩
    · rw [found] at other
      cases other
    · rw [found] at other
      cases node with
      | file f =>
        simp only [Except.toOption, Option.any_some, isPackable, Bool.and_eq_true,
          decide_eq_true_eq] at other
        exact ⟨⟨loc, f, found, other⟩, stored⟩
      | _ => cases other

instance (files : FileSystem) (dir : Path) (number : Nat) (name : String) :
    Decidable (Packable files dir number name) :=
  decidable_of_iff _ packable_iff.symm

theorem Packable.isFile {files : FileSystem} {dir : Path} {number : Nat} {name : String}
    (h : Packable files dir number name) : files.isFile (dir.join (.ofText name)) := by
  obtain ⟨loc, f, found, -, -⟩ := h.file
  simp [FileSystem.isFile, FileSystem.find?, found, Except.toOption, Node.isFile]

/-- A file that is found gives an entry with what it holds. -/
theorem entry_of_file {files : FileSystem} {member : Member} {stored : String} {loc : Location}
    {f : File} (found : files.find member.source = .ok (loc, .file f))
    (readable : f.access.allows .read) (taken : storedName? member.name = some stored) :
    member.entry files = .ok ⟨stored, f.access.mode, .file f.content.data⟩ := by
  have allowed : (Node.file f).allows .read = true := readable
  simp [Member.entry, FileSystem.find?_eq_some_iff.mpr found, allowed, entryOf, taken, Node.isFile]

theorem gather_of_forall₂ {begun : FileSystem} {members : List Member} {entries : List Entry}
    (each : List.Forall₂ (fun member entry => member.entry begun = .ok entry) members entries) :
    Plan.gather none begun begun members = (entries, none) := by
  induction each with
  | nil => rfl
  | cons now rest ih =>
      rw [Plan.gather, now]
      simp only [ih]

/-- Where every member has the same entry before and after anything is written, these are
gathered. -/
theorem gather_eq {files begun : FileSystem} {members : List Member} {entries : List Entry}
    (before : List.Forall₂ (fun member entry => member.entry files = .ok entry) members entries)
    (after : List.Forall₂ (fun member entry => member.entry begun = .ok entry) members entries) :
    Plan.gather none files begun members = (entries, none) := by
  cases before with
  | nil => rfl
  | cons now rest =>
    cases after with
    | cons _ later =>
      rw [Plan.gather, now]
      simp only [gather_of_forall₂ later]

/-! ## Writing -/

/-- A plan whose members have the same entries whatever has been written by then is packed with
these, and the archive is found where it was created. -/
theorem write_of_entries {files before : FileSystem} {plan : Plan} {number : Nat}
    {entries : List Entry} (opens : files.Opens plan.output number before)
    (created : files.create plan.output = .ok (.file number, before.pour (.file number) .empty))
    (each : List.Forall₂ (fun member entry => ∀ content,
      member.entry (before.pour (.file number) content) = .ok entry) plan.members entries) :
    ∃ loc access,
      plan.write files = (.ok (), before.pour (.file number) (.tarball entries)) ∧
      (before.pour (.file number) (.tarball entries)).find plan.output =
        .ok (loc, .file ⟨number, .tarball entries, access⟩) := by
  obtain ⟨loc, access, found⟩ := opens.find (.tarball entries)
  refine ⟨loc, access, ?_, found⟩
  have seen (content : Content) : List.Forall₂
      (fun member entry => member.entry (before.pour (.file number) content) = .ok entry)
      plan.members entries := each.imp fun _ _ always => always content
  have gathered := gather_eq (seen .empty) (seen .archiveFront)
  rw [Plan.write, created]
  dsimp only
  rw [FileSystem.pour_pour, Outlet.refusal?_file, gathered]
  dsimp only
  rw [FileSystem.pour_pour]

theorem exists_forall₂ {α β : Type} {R : α → β → Prop} {as : List α}
    (each : ∀ a ∈ as, ∃ b, R a b) : ∃ bs, List.Forall₂ R as bs := by
  induction as with
  | nil => exact ⟨[], .nil⟩
  | cons a rest ih =>
      obtain ⟨b, now⟩ := each a List.mem_cons_self
      obtain ⟨bs, later⟩ := ih fun other member => each other (.tail _ member)
      exact ⟨b :: bs, .cons now later⟩

/-- Whatever has been written to the archive by then, a file that can be packed has one entry. -/
theorem Packable.exists_entry {files before : FileSystem} {output dir : Path} {number : Nat}
    {name : String} (opens : files.Opens output number before)
    (h : Packable files dir number name) :
    ∃ entry, HoldsFile files dir name entry ∧
      ∀ content, (memberIn dir name).entry (before.pour (.file number) content) = .ok entry := by
  obtain ⟨⟨loc, f, found, different, readable⟩, taken⟩ := h
  obtain ⟨stored, taken⟩ := Option.isSome_iff_exists.mp taken
  refine ⟨⟨stored, f.access.mode, .file f.content.data⟩, ?_, fun content => ?_⟩
  · exact ⟨taken, Tarball.names_of_storedName? taken, loc, f, found, rfl, rfl⟩
  · exact entry_of_file (opens.find_other found different content) readable taken

/-- Named files that can be packed are packed, and the archive is found where it was created. -/
theorem write_of_packable {files opened : FileSystem} {output dir : Path} {number : Nat}
    {names : List String} (created : files.create output = .ok (.file number, opened))
    (packable : ∀ name ∈ names, Packable files dir number name) :
    ∃ entries behind loc access,
      Plan.write files ⟨output, dir, names.map (memberIn dir)⟩ = (.ok (), behind) ∧
      behind.find output = .ok (loc, .file ⟨number, .tarball entries, access⟩) ∧
      List.Forall₂ (HoldsFile files dir) names entries := by
  obtain ⟨before, opens, rfl⟩ := FileSystem.opens_of_create created
  obtain ⟨entries, each⟩ := exists_forall₂ fun name member =>
    (packable name member).exists_entry opens
  obtain ⟨loc, access, written, found⟩ :=
    @write_of_entries files before ⟨output, dir, names.map (memberIn dir)⟩ number entries opens
      created (List.forall₂_map_left_iff.mpr (each.imp fun _ _ both => both.2))
  exact ⟨entries, _, loc, access, written, found, each.imp fun _ _ both => both.1⟩

end ReleaseBuilder.Archive
