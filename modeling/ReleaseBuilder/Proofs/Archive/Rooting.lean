/-
# Where named files lie in an archive

A named file is stored under the name that it was given, and not under its file name. Where the name
leads through directories, the archive has these directories, and only a file whose name leads
through none lies at the root of the archive.
-/

import ReleaseBuilder.Proofs.Archive.Entries

namespace ReleaseBuilder

/-! ## The last name of a path -/

namespace Path

variable {p base rest : Path} {front : List String} {last : String}

theorem names_concat (split : p.pieces = front ++ [last]) (ordinary : last ≠ ".") :
    p.names = front.filter (· ≠ ".") ++ [last] := by
  simp [names, split, ordinary]

theorem fileName?_of_pieces (split : p.pieces = front ++ [last])
    (ordinary : last ≠ "." ∧ last ≠ "..") : p.fileName? = some last := by
  rw [fileName?, names_concat split ordinary.1, List.getLast?_concat]
  split
  · next same => exact absurd (Option.some.inj same) ordinary.2
  · rfl

/-- A path that ends in no separator is not joined from one that has nothing in it. -/
theorem text_ne_empty_of_join (plain : (base.join rest).endsWithSlash = false)
    (filled : (base.join rest).pieces ≠ []) : rest.text ≠ "" := by
  intro empty
  obtain ⟨text⟩ := rest
  cases empty
  have relative : (Path.mk "").isAbsolute = false := by decide
  rw [join, if_neg (by rw [relative]; decide)] at plain filled
  split at plain
  · next noSeparator =>
    rw [if_pos noSeparator] at filled
    rcases Bool.or_eq_true_iff.mp noSeparator with nothing | slash
    · obtain ⟨text⟩ := base
      obtain rfl : text = "" := by simpa using nothing
      exact filled (by decide)
    · simp [endsWithSlash] at plain slash
      exact plain slash
  · simp [endsWithSlash] at plain

/-- Whatever a path is joined to, it ends in the same piece if it ends in no separator. -/
theorem exists_pieces_of_join (plain : (base.join rest).endsWithSlash = false)
    (split : (base.join rest).pieces = front ++ [last]) :
    ∃ within, rest.pieces = within ++ [last] := by
  cases absolute : rest.isAbsolute with
  | true =>
    rw [join_of_isAbsolute absolute] at split
    exact ⟨front, split⟩
  | false =>
    have filled := text_ne_empty_of_join plain (by simp [split])
    obtain none_there | ⟨within, final, pieces⟩ := List.eq_nil_or_concat rest.pieces
    · exact absurd none_there (pieces_ne_nil absolute filled)
    · rw [List.concat_eq_append] at pieces
      rw [pieces_join absolute, pieces, ← List.append_assoc] at split
      obtain ⟨-, rfl⟩ := List.append_singleton_inj.mp split
      exact ⟨within, pieces⟩

end Path

/-- What a path to a file ends in is a name. -/
theorem FileSystem.exists_pieces_of_isFile {files : FileSystem} {p : Path}
    (there : files.isFile p) :
    p.endsWithSlash = false ∧
      ∃ front last, p.pieces = front ++ [last] ∧ last ≠ "." ∧ last ≠ ".." := by
  obtain ⟨loc, file, found⟩ := isFile_iff.mp there
  exact (stat_eq_ok_iff.mp found).2.last_of_found rfl rfl

namespace Archive

open Tarball (Entry storedName? names_of_storedName?)

variable {files : FileSystem} {output dir : Path} {names : List String} {plan : Plan}

/-- A file is stored under the name of its member. -/
theorem storedName?_of_entry {member : Member} {entry : Entry}
    (there : files.isFile member.source) (packed : member.entry files = .ok entry) :
    storedName? member.name = some entry.name := by
  obtain ⟨loc, file, found⟩ := FileSystem.isFile_iff.mp there
  rw [Member.entry, FileSystem.find?_eq_some_iff.mpr found] at packed
  dsimp only at packed
  split at packed
  · cases packed
  · rw [if_pos (by simp [Node.isFile]), entryOf] at packed
    cases stored : storedName? member.name with
    | none =>
      rw [stored] at packed
      cases packed
    | some name =>
      rw [stored] at packed
      cases packed
      rfl

/-- A file of a directory goes by the name that it was given, which ends in its file name. -/
theorem exists_names_of_isFile {name : String} (there : files.isFile (dir.join (.ofText name))) :
    ∃ folders last, (dir.join (.ofText name)).fileName? = some (Text.narrow last) ∧
      (Path.mk name).names = folders ++ [last] ∧ (name = last ↔ '/' ∉ name.toList) := by
  obtain ⟨plain, front, spelled, split, ordinary⟩ := FileSystem.exists_pieces_of_isFile there
  obtain ⟨within, pieces⟩ := Path.exists_pieces_of_join plain split
  rw [Path.pieces_ofText] at pieces
  obtain ⟨before, only, written, -, one⟩ := List.map_eq_append_iff.mp pieces
  obtain ⟨last, rfl, rfl⟩ := List.map_eq_singleton_iff.mp one
  have dotted : last ≠ "." := by
    rintro rfl
    exact ordinary.1 Text.narrow_dot
  refine ⟨_, last, Path.fileName?_of_pieces split ordinary, Path.names_concat written dotted, ?_⟩
  have member : last ∈ (Path.mk name).pieces := by simp [written]
  have isPiece := Path.isPiece_of_mem_pieces member
  constructor
  · rintro rfl
    exact isPiece.2
  · intro noSlash
    have filled : name ≠ "" := by
      rintro rfl
      exact absurd written (by simp [show (Path.mk "").pieces = [] by decide])
    have one := Path.pieces_of_isPiece (p := ⟨name⟩) ⟨filled, noSlash⟩
    rw [one] at member
    exact (List.mem_singleton.mp member).symm

/-- Named files are planned under the names that are given. The file name of each is the last of the
names that its name leads along, and the others are directories that it lies in in the archive. So
it has its file name in the plan only if its name has no separator, and lies at the root of the
archive only if there are no others. -/
theorem members_lie_where_named (planned : Plan.ofFiles files output dir names = .ok plan) :
    plan.names = names ∧
    ∀ member ∈ plan.members, ∃ folders last,
      member.source.fileName? = some (Text.narrow last) ∧
      (Path.mk member.name).names = folders ++ [last] ∧
      (member.name = last ↔ '/' ∉ member.name.toList) ∧
      ∀ (seen : FileSystem) (entry : Entry), seen.isFile member.source →
        member.entry seen = .ok entry → (Path.mk entry.name).names = folders ++ [last] := by
  obtain ⟨all, rfl⟩ := ofFiles_eq_ok_iff.mp planned
  refine ⟨by simp [Plan.names, memberIn, Function.comp_def], ?_⟩
  intro member there
  obtain ⟨name, given, rfl⟩ := List.mem_map.mp there
  obtain ⟨folders, last, ends, leads, whole⟩ := exists_names_of_isFile (all name given)
  refine ⟨folders, last, ends, leads, whole, ?_⟩
  intro seen entry isFile packed
  rw [names_of_storedName? (storedName?_of_entry isFile packed)]
  exact leads

/-- A directory with a file in a directory below it. -/
def nested : FileSystem where
  nodes := [
    (["rel"], .directory ⟨0o755, .user⟩),
    (["rel", "sub"], .directory ⟨0o755, .user⟩),
    (["rel", "sub", "bkc.exe"], .file ⟨0, .ofText "1", ⟨0o644, .user⟩⟩)]
  next := 1

/-- The file is planned under the name with its directory, and the archive has that directory. -/
theorem entry_below_root :
    ∃ plan, Plan.ofFiles nested ⟨"out.tar.gz"⟩ ⟨"rel"⟩ ["sub/bkc.exe"] = .ok plan ∧
      plan.names = ["sub/bkc.exe"] ∧
      ∀ member ∈ plan.members, member.source.fileName? = some "bkc.exe" ∧
        ∃ entry, member.entry nested = .ok entry ∧
          (Path.mk entry.name).names = ["sub", "bkc.exe"] := by
  have there : nested.isFile ⟨"rel/sub/bkc.exe"⟩ = true := by decide +kernel
  have planned : Plan.ofFiles nested ⟨"out.tar.gz"⟩ ⟨"rel"⟩ ["sub/bkc.exe"] =
      .ok ⟨⟨"out.tar.gz"⟩, ⟨"rel"⟩, [⟨⟨"rel/sub/bkc.exe"⟩, "sub/bkc.exe"⟩]⟩ := by
    decide +kernel
  obtain ⟨given, placed⟩ := members_lie_where_named planned
  refine ⟨_, planned, given, ?_⟩
  intro member only
  obtain ⟨folders, last, ends, leads, -, stored⟩ := placed member only
  obtain rfl := List.mem_singleton.mp only
  have found : nested.find ⟨"rel/sub/bkc.exe"⟩ =
      .ok (["rel", "sub", "bkc.exe"], .file ⟨0, .ofText "1", ⟨0o644, .user⟩⟩) := rfl
  have taken : storedName? "sub/bkc.exe" = some "sub/bkc.exe" := by decide +kernel
  obtain ⟨entry, packed⟩ :
      ∃ entry, Member.entry nested ⟨⟨"rel/sub/bkc.exe"⟩, "sub/bkc.exe"⟩ = .ok entry :=
    ⟨_, entry_of_file found (by decide) taken⟩
  refine ⟨by decide, entry, packed, ?_⟩
  rw [stored nested _ there packed, ← leads]
  decide

end Archive

end ReleaseBuilder
