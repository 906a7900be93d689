/-
# Collecting the members of a directory

On linux and mac the visible names of a directory are handed to `tar` as they show, in the order of
their octets, and what stands in the names is not looked at. A name with a hyphen in front is
therefore no member but an option, as nothing in the command says where the options end.
-/

import ReleaseBuilder.Host.Scripted
import ReleaseBuilder.Proofs.Release.Course

namespace ReleaseBuilder.Archive

variable {σ : Type}

/-! ## Operands -/

/-- Whether a command that reads its arguments as `tar` does takes one for an operand: no hyphen is
in front of it, or a `--` stands before it. -/
def IsOperand (earlier : List String) (argument : String) : Prop :=
  argument.toList.head? ≠ some '-' ∨ "--" ∈ earlier

/-- Behind the first arguments of a command all are operands. -/
def AllOperands (first args : List String) : Prop :=
  ∀ before a after, args = before ++ a :: after → IsOperand (first ++ before) a

/-- Where no `--` comes first, the operands are what has no hyphen in front: a `--` among them would
be the first that is none. -/
theorem allOperands_iff {first args : List String} (unmarked : "--" ∉ first) :
    AllOperands first args ↔ ∀ a ∈ args, a.toList.head? ≠ some '-' := by
  constructor
  · intro operands
    induction args generalizing first with
    | nil => exact fun a member => nomatch member
    | cons a rest ih =>
      have plain : a.toList.head? ≠ some '-' := by
        have operand := operands [] a rest rfl
        rw [List.append_nil] at operand
        exact operand.resolve_right unmarked
      have still : "--" ∉ first ++ [a] := by
        rw [List.mem_append, List.mem_singleton]
        rintro (early | rfl)
        · exact unmarked early
        · exact plain (by decide)
      have others := ih still fun before b after split => by
        rw [List.append_assoc]
        exact operands (a :: before) b after (congrArg (a :: ·) split)
      intro b member
      rcases List.mem_cons.mp member with rfl | member
      · exact plain
      · exact others b member
  · rintro plain before a after rfl
    exact .inl (plain a (by simp))

/-! ## The plan of a directory -/

theorem list_of_find {files : FileSystem} {dir : Path} {loc : Location} {access : Access}
    (found : files.find dir = .ok (loc, .directory access)) (readable : access.allows .read) :
    files.list dir = .ok (files.namesIn loc) := by
  simp only [FileSystem.list, found, readable, if_true]

theorem ofDirectory_of_find {files : FileSystem} {dir : Path} {loc : Location} {access : Access}
    (found : files.find dir = .ok (loc, .directory access)) (readable : access.allows .read)
    (output : Path) :
    Plan.ofDirectory files output dir =
      if visibleMembers dir (files.namesIn loc) = [] then .error (.missingArtifact dir)
      else .ok ⟨output, dir, visibleMembers dir (files.namesIn loc)⟩ := by
  have directory : files.isDirectory dir = true := by
    simp [FileSystem.isDirectory, FileSystem.find?, found, Except.toOption, Node.isDirectory]
  simp only [Plan.ofDirectory, directory, list_of_find found readable, Bool.not_true,
    Bool.false_eq_true, if_false, List.isEmpty_iff]

theorem ofDirectory_of_not_directory {files : FileSystem} {dir : Path}
    (missing : ∀ loc access, files.find dir ≠ .ok (loc, .directory access)) (output : Path) :
    Plan.ofDirectory files output dir = .error (.missingArtifact dir) := by
  have noDirectory : files.isDirectory dir = false := by
    cases found : files.find dir with
    | error fault => simp [FileSystem.isDirectory, FileSystem.find?, found, Except.toOption]
    | ok pair =>
      obtain ⟨loc, node⟩ := pair
      cases node with
      | directory access => exact absurd found (missing loc access)
      | _ =>
        simp [FileSystem.isDirectory, FileSystem.find?, found, Except.toOption, Node.isDirectory]
  simp [Plan.ofDirectory, noDirectory]

/-! ## Packing by commands -/

/-- Packing by commands is one pipe from `tar` to the compressor. -/
theorem record_of_packing_by_commands {system : OperatingSystem} (unix : system ≠ .windows)
    (compressor : String) (plan : Plan) (host : Host σ) (world : World σ) :
    ∃ result shown, ((package system compressor plan).perform host world).2.record =
      [.piped { program := "tar", args := "-c" :: plan.names, dir := some plan.dir }
        { program := compressor } plan.output result shown] := by
  rw [Release.packing_by_commands unix, Work.perform_map, Work.perform_pipe]
  exact ⟨_, _, rfl⟩

/-- When the plan of a directory is packed by commands, the members are what its visible entries
show as, and all of them are operands exactly if no name in the directory has a hyphen in front. -/
theorem members_are_operands_iff {files : FileSystem} {output dir : Path} {plan : Plan}
    (planned : Plan.ofDirectory files output dir = .ok plan) {system : OperatingSystem}
    (unix : system ≠ .windows) (compressor : String) (host : Host σ) (world : World σ) :
    ∃ entries members result shown, files.list dir = .ok entries ∧
      (∀ name, name ∈ members ↔
        ∃ entry ∈ entries, entry.toList.head? ≠ some '.' ∧ Text.widen entry = name) ∧
      ((package system compressor plan).perform host world).2.record =
        [.piped { program := "tar", args := "-c" :: members, dir := some dir }
          { program := compressor } output result shown] ∧
      (AllOperands ["-c"] members ↔ ∀ entry ∈ entries, entry.toList.head? ≠ some '-') := by
  obtain ⟨entries, listed, -, rfl⟩ := Release.ofDirectory_eq_ok planned
  obtain ⟨result, shown, recorded⟩ :=
    record_of_packing_by_commands unix compressor _ host world
  rw [names_visibleMembers] at recorded
  refine ⟨entries, visibleNames entries, result, shown, listed, fun name => ?_, recorded, ?_⟩
  · simp only [mem_visibleNames, isVisible_iff]
  rw [allOperands_iff (by decide)]
  constructor
  · intro plain entry member hyphen
    have visible : isVisible entry := by
      simp [isVisible, hyphen]
    exact plain _ (mem_visibleNames.mpr ⟨entry, member, visible, rfl⟩)
      ((Text.head?_widen (by decide) entry).mpr hyphen)
  · intro plain name member
    obtain ⟨entry, there, -, rfl⟩ := mem_visibleNames.mp member
    rw [ne_eq, Text.head?_widen (by decide)]
    exact plain entry there

/-- A directory with a binary, and a file whose name is that of an option. -/
def filesWithOption : FileSystem where
  nodes := [
    (["bin"], .directory ⟨0o755, .user⟩),
    (["bin", "bkc"], .file ⟨0, .ofText "c", ⟨0o755, .user⟩⟩),
    (["bin", "-h"], .file ⟨1, .ofText "d", ⟨0o644, .user⟩⟩)]
  next := 2

/-- The file is planned as a member, and `tar` is given its name where an option is read. -/
theorem option_among_members :
    let host : Host Script.Tally := Script.host {}
    ∃ plan, Plan.ofDirectory filesWithOption ⟨"out.tar.gz"⟩ ⟨"bin"⟩ = .ok plan ∧
      ∃ members result shown,
        ((package .linux "gzip" plan).perform host ⟨filesWithOption, []⟩).2.record =
          [.piped { program := "tar", args := "-c" :: members, dir := some ⟨"bin"⟩ }
            { program := "gzip" } ⟨"out.tar.gz"⟩ result shown] ∧
        "-h" ∈ members ∧ ¬ AllOperands ["-c"] members := by
  intro host
  have unix : OperatingSystem.linux ≠ .windows := by decide
  have found : filesWithOption.find ⟨"bin"⟩ = .ok (["bin"], .directory ⟨0o755, .user⟩) := rfl
  have inDirectory : "-h" ∈ filesWithOption.namesIn ["bin"] := by decide
  have planned := ofDirectory_of_find found (by decide) ⟨"out.tar.gz"⟩
  rw [if_neg (visibleMembers_ne_nil_iff.mpr ⟨"-h", inDirectory, by decide⟩)] at planned
  obtain ⟨entries, members, result, shown, listed, known, recorded, operands⟩ :=
    members_are_operands_iff planned unix "gzip" host ⟨filesWithOption, []⟩
  obtain rfl : filesWithOption.namesIn ["bin"] = entries :=
    Except.ok.inj ((list_of_find found (by decide)).symm.trans listed)
  refine ⟨_, planned, members, result, shown, recorded, ?_, ?_⟩
  · exact (known "-h").mpr ⟨"-h", inDirectory, by decide, by decide +kernel⟩
  · rw [operands]
    intro plain
    exact plain "-h" inDirectory (by decide)

end ReleaseBuilder.Archive
