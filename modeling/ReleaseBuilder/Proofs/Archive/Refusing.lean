/-
# An archive that cannot be written

A plan is not written if one of its members cannot be. The first such member tells the failure: it
is missing if nothing is at its source, whatever its name, and otherwise the fault is told that it
is refused for. However many members were written before it, nothing is where the archive was
created, and nothing is changed but what its path denotes. A plan whose archive cannot be created
changes nothing at all.
-/

import ReleaseBuilder.Proofs.Archive.Packing
import ReleaseBuilder.Proofs.Archive.Writing
import ReleaseBuilder.Proofs.FileSystem.Finding

namespace ReleaseBuilder.Archive

open Tarball (storedName?)

variable {files seen opened : FileSystem} {plan : Plan} {member : Member} {node : Node}
  {outlet : Outlet} {fault : Fault} {failure : Failure}

/-! ## Members that cannot be written -/

/-- The name that a member is stored under. What is neither a file nor a directory goes by its own
path. -/
def Member.nameFor (member : Member) (node : Node) : String :=
  if node.isFile || node.isDirectory then member.name else member.source.shown

/-- Why what is at the source of a member is not written to an outlet. A file is opened before its
name is looked at, and nothing is written before that. -/
inductive Refuses (outlet : Outlet) (member : Member) (node : Node) : Fault → Prop
  | closed (isFile : node.isFile = true) (denied : node.allows .read = false) :
      Refuses outlet member node (.system .denied)
  | unnamed (readable : node.isFile = true → node.allows .read = true)
      (refused : storedName? (member.nameFor node) = none) :
      Refuses outlet member node .memberName
  | full {fault : Fault} (readable : node.isFile = true → node.allows .read = true)
      (named : storedName? (member.nameFor node) ≠ none) (taken : outlet.refusal? = some fault) :
      Refuses outlet member node fault

/-- Why a member cannot be written to an outlet. If nothing is at its source, its name does not
matter. -/
inductive Hinders (files : FileSystem) (outlet : Outlet) (member : Member) : Failure → Prop
  | missing (nothing : files.find? member.source = none) :
      Hinders files outlet member (.missingArtifact member.source)
  | refused {loc : Location} {node : Node} {fault : Fault}
      (found : files.find? member.source = some (loc, node))
      (refuses : Refuses outlet member node fault) : Hinders files outlet member (.io fault)

theorem Refuses.of_bare {shown : Node} (same : shown.bare = node.bare)
    (h : Refuses outlet member node fault) : Refuses outlet member shown fault := by
  have isFile : node.isFile = shown.isFile := by
    rw [← Node.isFile_bare, ← same, Node.isFile_bare]
  have isDirectory : node.isDirectory = shown.isDirectory := by
    rw [← Node.isDirectory_bare, ← same, Node.isDirectory_bare]
  have allows : node.allows .read = shown.allows .read := by
    rw [Node.allows, Node.allows, Node.access_eq_of_bare same]
  have name : member.nameFor node = member.nameFor shown := by
    rw [Member.nameFor, Member.nameFor, isFile, isDirectory]
  cases h with
  | closed file denied => exact .closed (isFile ▸ file) (allows ▸ denied)
  | unnamed readable refused => exact .unnamed (isFile ▸ allows ▸ readable) (name ▸ refused)
  | full readable named taken => exact .full (isFile ▸ allows ▸ readable) (name ▸ named) taken

/-- A member is hindered by the same where its source shows the same, whatever it holds. -/
theorem Hinders.of_bare
    (same : (seen.find? member.source).map (·.2.bare) = (files.find? member.source).map (·.2.bare))
    (h : Hinders files outlet member failure) : Hinders seen outlet member failure := by
  cases h with
  | missing nothing =>
    rw [nothing] at same
    exact .missing (Option.map_eq_none_iff.mp same)
  | refused found refuses =>
    rw [found] at same
    obtain ⟨⟨loc, shown⟩, isShown, bare⟩ := Option.map_eq_some_iff.mp same
    exact .refused isShown (refuses.of_bare bare)

theorem hinders_congr
    (same : (seen.find? member.source).map (·.2.bare) = (files.find? member.source).map (·.2.bare)) :
    Hinders seen outlet member failure ↔ Hinders files outlet member failure :=
  ⟨.of_bare same.symm, .of_bare same⟩

/-- A member that is not there is missing, and any other failure is a fault. -/
theorem Hinders.missing_or_io (h : Hinders files outlet member failure) :
    if files.pathExists member.source then ∃ fault, failure = .io fault
    else failure = .missingArtifact member.source := by
  cases h with
  | missing nothing => simp [FileSystem.pathExists, nothing]
  | refused found refuses => simp [FileSystem.pathExists, found]

/-! ## Entries -/

theorem entryOf_eq_error_iff {name : String} :
    entryOf node name = .error failure ↔ storedName? name = none ∧ failure = .io .memberName := by
  rw [entryOf]
  cases storedName? name with
  | none => simp [eq_comm]
  | some stored => cases node <;> simp

theorem entry_of_closed {loc : Location} (found : files.find? member.source = some (loc, node))
    (isFile : node.isFile = true) (denied : node.allows .read = false) :
    member.entry files = .error (.io (.system .denied)) := by
  simp [Member.entry, found, isFile, denied]

theorem entry_of_readable {loc : Location} (found : files.find? member.source = some (loc, node))
    (readable : node.isFile = true → node.allows .read = true) :
    member.entry files = entryOf node (member.nameFor node) := by
  have open_ : (node.isFile && !node.allows .read) = false := by
    cases isFile : node.isFile with
    | false => rfl
    | true => simp [readable isFile]
  simp only [Member.entry, found, open_, Member.nameFor]
  cases node.isFile || node.isDirectory <;> rfl

/-- What is at a source hinders its member if it has no entry, or if the outlet does not take any. -/
theorem hinders_iff_of_found {loc : Location}
    (found : files.find? member.source = some (loc, node)) :
    Hinders files outlet member failure ↔
      member.entry files = .error failure ∨
        ∃ entry fault, member.entry files = .ok entry ∧ outlet.refusal? = some fault ∧
          failure = .io fault := by
  by_cases closed : node.isFile = true ∧ node.allows .read = false
  · rw [entry_of_closed found closed.1 closed.2]
    constructor
    · rintro (nothing | ⟨shown, refuses⟩)
      · cases found.symm.trans nothing
      · cases found.symm.trans shown
        cases refuses with
        | closed isFile denied => exact .inl rfl
        | unnamed readable refused => simp [readable closed.1] at closed
        | full readable named taken => simp [readable closed.1] at closed
    · rintro (same | ⟨entry, fault, isEntry, -⟩)
      · cases same
        exact .refused found (.closed closed.1 closed.2)
      · cases isEntry
  · have readable : node.isFile = true → node.allows .read = true := by
      intro isFile
      simpa [isFile] using closed
    rw [entry_of_readable found readable]
    constructor
    · rintro (nothing | ⟨shown, refuses⟩)
      · cases found.symm.trans nothing
      · cases found.symm.trans shown
        cases refuses with
        | closed isFile denied => exact absurd ⟨isFile, denied⟩ closed
        | unnamed _ refused => exact .inl (entryOf_eq_error_iff.mpr ⟨refused, rfl⟩)
        | full _ named taken =>
          cases stored : entryOf node (member.nameFor node) with
          | error failure => exact absurd (entryOf_eq_error_iff.mp stored).1 named
          | ok entry => exact .inr ⟨entry, _, rfl, taken, rfl⟩
    · rintro (unnamed | ⟨entry, fault, isEntry, taken, rfl⟩)
      · obtain ⟨refused, rfl⟩ := entryOf_eq_error_iff.mp unnamed
        exact .refused found (.unnamed readable refused)
      · refine .refused found (.full readable (fun refused => ?_) taken)
        cases isEntry.symm.trans (entryOf_eq_error_iff.mpr ⟨refused, rfl⟩)

/-- A member is hindered if it has no entry, or if the outlet does not take any. -/
theorem hinders_iff :
    Hinders files outlet member failure ↔
      member.entry files = .error failure ∨
        ∃ entry fault, member.entry files = .ok entry ∧ outlet.refusal? = some fault ∧
          failure = .io fault := by
  cases found : files.find? member.source with
  | some pair => exact hinders_iff_of_found found
  | none =>
    have missing : member.entry files = .error (.missingArtifact member.source) := by
      rw [Member.entry, found]
    rw [missing]
    constructor
    · rintro (nothing | ⟨shown, refuses⟩)
      · exact .inl rfl
      · cases found.symm.trans shown
    · rintro (same | ⟨entry, fault, isEntry, -⟩)
      · cases same
        exact .missing found
      · cases isEntry

/-- A member that nothing hinders has an entry, and the outlet takes it. -/
theorem unhindered_iff :
    (∀ failure, ¬ Hinders files outlet member failure) ↔
      outlet.refusal? = none ∧ ∃ entry, member.entry files = .ok entry := by
  simp only [hinders_iff]
  cases member.entry files with
  | error failure => simp
  | ok entry => cases outlet.refusal? <;> simp

/-! ## The first member that cannot be written -/

/-- The first member that is hindered tells the failure, whatever has been written by then. -/
theorem gather_of_hindered {front rest : List Member} {content : Content}
    (alike : ∀ other failure,
      Hinders seen outlet other failure ↔ Hinders opened outlet other failure)
    (earlier : ∀ other ∈ front, ∀ failure, ¬ Hinders opened outlet other failure)
    (hindered : Hinders opened outlet member failure) :
    (Plan.gather outlet.refusal? seen (opened.pour outlet content) (front ++ member :: rest)).2 =
      some failure := by
  induction front generalizing seen with
  | nil =>
      rw [← alike, hinders_iff] at hindered
      rw [List.nil_append, Plan.gather]
      rcases hindered with unpacked | ⟨entry, fault, isEntry, taken, rfl⟩
      · rw [unpacked]
      · rw [isEntry, taken]
  | cons other front ih =>
      have unhindered : ∀ failure, ¬ Hinders seen outlet other failure := fun failure h =>
        earlier other List.mem_cons_self failure ((alike other failure).mp h)
      obtain ⟨takes, entry, isEntry⟩ := unhindered_iff.mp unhindered
      -- The other members are seen as they are once something has been written.
      have further := ih (fun another failure =>
          hinders_congr (opened.map_bare_find?_pour outlet content another.source))
        (fun another there => earlier another (.tail _ there))
      rw [takes] at further
      rw [List.cons_append, Plan.gather, isEntry, takes]
      exact further

/-- Of members that some are hindered of there is a first. -/
theorem exists_first_hindered {members : List Member}
    (some_hindered : ∃ member ∈ members, ∃ failure, Hinders files outlet member failure) :
    ∃ front member rest failure, members = front ++ member :: rest ∧
      (∀ other ∈ front, ∀ failure, ¬ Hinders files outlet other failure) ∧
      Hinders files outlet member failure := by
  classical
  obtain ⟨member, there, hindered⟩ := some_hindered
  obtain ⟨first, found⟩ := Option.isSome_iff_exists.mp <| List.find?_isSome
    (p := fun other => decide (∃ failure, Hinders files outlet other failure)).mpr
    ⟨member, there, decide_eq_true hindered⟩
  obtain ⟨isHindered, front, rest, split, earlier⟩ := List.find?_eq_some_iff_append.mp found
  obtain ⟨failure, hinders⟩ := of_decide_eq_true isHindered
  refine ⟨front, first, rest, failure, split, fun other inFront failure hinders => ?_, hinders⟩
  have unhindered := earlier other inFront
  simp only [decide_eq_false_iff_not, Bool.not_eq_true'] at unhindered
  exact unhindered ⟨failure, hinders⟩

/-! ## Writing -/

theorem write_of_gather (created : files.create plan.output = .ok (outlet, opened))
    (failed : (Plan.gather outlet.refusal? opened (opened.pour outlet .archiveFront)
      plan.members).2 = some failure) :
    ∃ entries, plan.write files = (.error failure,
      ((opened.pour outlet (.tarball entries)).remove plan.output).toOption.getD
        (opened.pour outlet (.tarball entries))) := by
  rw [Plan.write, created]
  dsimp only
  rw [failed]
  exact ⟨_, rfl⟩

/-- An archive that cannot be created changes nothing. Otherwise the first member that cannot be
written tells the failure, nothing is where the archive was created, and nothing but what its path
denotes is changed. Whether a member can be written is seen once the archive was created, which
makes a difference only for one whose source leads to the archive. -/
theorem write_by_first_hindered (files : FileSystem) (plan : Plan)
    (removable : ∀ outlet opened, files.create plan.output = .ok (outlet, opened) →
      opened.Removable plan.output) :
    (∀ fault, files.create plan.output = .error fault →
      plan.write files = (.error (.io fault), files)) ∧
    ∀ outlet opened, files.create plan.output = .ok (outlet, opened) →
      (∀ member failure,
        (∀ loc f, opened.find member.source = .ok (loc, .file f) → outlet ≠ .file f.number) →
        (Hinders opened outlet member failure ↔ Hinders files outlet member failure)) ∧
      ((∃ member ∈ plan.members, ∃ failure, Hinders opened outlet member failure) →
        ∃ front member rest failure behind,
          plan.members = front ++ member :: rest ∧
          (∀ other ∈ front, ∀ failure, ¬ Hinders opened outlet other failure) ∧
          Hinders opened outlet member failure ∧
          (if opened.pathExists member.source then ∃ fault, failure = .io fault
            else failure = .missingArtifact member.source) ∧
          plan.write files = (.error failure, behind) ∧
          behind.Absent plan.output ∧
          files.SameBesides plan.output behind) := by
  refine ⟨fun fault uncreated => by rw [Plan.write, uncreated], ?_⟩
  intro outlet opened created
  constructor
  · intro member failure apart
    exact hinders_congr (FileSystem.map_bare_find?_of_create created apart)
  · intro some_hindered
    obtain ⟨front, member, rest, failure, split, earlier, hinders⟩ :=
      exists_first_hindered some_hindered
    have failed : (Plan.gather outlet.refusal? opened (opened.pour outlet .archiveFront)
        plan.members).2 = some failure := by
      rw [split]
      exact gather_of_hindered (fun _ _ => Iff.rfl) earlier hinders
    obtain ⟨entries, written⟩ := write_of_gather created failed
    obtain ⟨cleared, removed⟩ := (removable outlet opened created).of_extends
      (FileSystem.extends_pour outlet (.tarball entries))
    have same := Plan.sameBesides_write files plan
    rw [removed] at written
    rw [written] at same
    exact ⟨front, member, rest, failure, cleared, split, earlier, hinders, hinders.missing_or_io,
      written, FileSystem.absent_of_remove removed, same⟩

/-- Behind a file that was written, a member is missing whose name would not be taken either. -/
theorem write_of_missing_behind_file :
    let plan := planOf [⟨⟨"d/a"⟩, "a"⟩, ⟨⟨"d/gone"⟩, ".."⟩, ⟨⟨"d/sub"⟩, "sub"⟩]
    (∀ outlet opened, assorted.create plan.output = .ok (outlet, opened) →
      opened.Removable plan.output) ∧
    ∃ behind, plan.write assorted = (.error (.missingArtifact ⟨"d/gone"⟩), behind) ∧
      behind.Absent plan.output ∧ assorted.SameBesides plan.output behind := by
  intro plan
  have removable : ∀ outlet opened, assorted.create plan.output = .ok (outlet, opened) →
      opened.Removable plan.output :=
    FileSystem.forall_create_iff.mpr (by decide +kernel)
  refine ⟨removable, ?_⟩
  obtain ⟨opened, created⟩ := exists_opened
  have gone : ∀ outlet opened, assorted.create plan.output = .ok (outlet, opened) →
      opened.find? ⟨"d/gone"⟩ = none :=
    FileSystem.forall_create_iff.mpr (by decide +kernel)
  have hinders : Hinders opened (.file 2) ⟨⟨"d/gone"⟩, ".."⟩ (.missingArtifact ⟨"d/gone"⟩) :=
    .missing (gone _ opened created)
  obtain ⟨front, member, rest, failure, behind, -, -, -, -, written, absent, same⟩ :=
    ((write_by_first_hindered assorted plan removable).2 _ opened created).2
      ⟨_, by simp [plan, planOf], _, hinders⟩
  have told : (plan.write assorted).1 = .error (.missingArtifact ⟨"d/gone"⟩) := by decide +kernel
  rw [written] at told
  cases told
  exact ⟨behind, written, absent, same⟩

/-- An older archive in a directory, which has another name there, and a link to the directory. -/
def twiceNamed : FileSystem where
  nodes := [
    (["d"], .directory ⟨0o755, .user⟩),
    (["d", "out.tar.gz"], .file ⟨0, .ofText "old", ⟨0o644, .user⟩⟩),
    (["d", "kept"], .file ⟨0, .ofText "old", ⟨0o644, .user⟩⟩),
    (["l"], .link "d")]
  next := 1

/-- An older archive is lost under all its names and by all ways to it, although its path is no
link. -/
theorem write_of_missing_under_other_names :
    let plan : Plan := ⟨⟨"l/out.tar.gz"⟩, ⟨"d"⟩, [⟨⟨"d/gone"⟩, "gone"⟩]⟩
    let behind := (plan.write twiceNamed).2
    (twiceNamed.stat false plan.output).toOption.map (·.2.isFile) = some true ∧
    (∀ outlet opened, twiceNamed.create plan.output = .ok (outlet, opened) →
      opened.Removable plan.output) ∧
    (plan.write twiceNamed).1 = .error (.missingArtifact ⟨"d/gone"⟩) ∧
    (twiceNamed.pathExists ⟨"d/out.tar.gz"⟩ = true ∧ behind.pathExists ⟨"d/out.tar.gz"⟩ = false) ∧
    twiceNamed.readText ⟨"d/kept"⟩ = .ok "old" ∧ behind.readText ⟨"d/kept"⟩ = .error .notText :=
  ⟨by decide +kernel, FileSystem.forall_create_iff.mpr (by decide +kernel), by decide +kernel,
    ⟨by decide +kernel, by decide +kernel⟩, by decide +kernel, by decide +kernel⟩

end ReleaseBuilder.Archive
