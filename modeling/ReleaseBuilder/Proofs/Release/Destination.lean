/-
# Where the archive goes

An archive is meant for the output directory, under a file name that is made of the product, the
version and the platform. The name is joined to the directory as it is. So a separator in it leads
on: into other directories, out of the directory again, or, in front of it, away from it altogether.
-/

import ReleaseBuilder.Proofs.FileSystem.Paths
import ReleaseBuilder.Proofs.Release.Packaging

namespace ReleaseBuilder

variable {σ : Type}

/-! ## Entries of a directory -/

namespace Path

/-- The path begins where that of the directory does, and goes along its names and one more. -/
def IsEntryOf (p dir : Path) : Prop :=
  p.isAbsolute = dir.isAbsolute ∧ ∃ name, p.names = dir.names ++ [name]

/-- What is joined to a directory leads to an entry of it if it goes along one name. An absolute
path leads there only by itself. -/
theorem isEntryOf_join_iff (dir rest : Path) :
    (dir.join rest).IsEntryOf dir ↔
      if rest.isAbsolute then rest.IsEntryOf dir else rest.names.length = 1 := by
  by_cases absolute : rest.isAbsolute = true
  · rw [join_of_isAbsolute absolute, if_pos absolute]
  · have relative : rest.isAbsolute = false := by simpa using absolute
    rw [if_neg absolute, IsEntryOf, isAbsolute_join relative, names_join relative,
      List.length_eq_one_iff]
    simp

end Path

/-! ## The file name of an archive -/

namespace Archive

theorem toList_fileName (product version : String) (platform : Platform) :
    (fileName product version platform).toList =
      product.toList ++ '-' :: (version.toList ++ '.' :: (platform.name.toList ++
        ".tar.gz".toList)) := by
  simp [fileName]

theorem slash_notMem_name (platform : Platform) : '/' ∉ platform.name.toList := by
  rcases platform with ⟨_ | _ | _, _ | _⟩ <;> decide

/-- Without a separator in the product or the version the file name is one piece. -/
theorem isPiece_fileName {product version : String} (noProduct : '/' ∉ product.toList)
    (noVersion : '/' ∉ version.toList) (platform : Platform) :
    Path.IsPiece (fileName product version platform) := by
  constructor
  · intro empty
    have nothing := toList_fileName product version platform
    rw [empty] at nothing
    simp at nothing
  · rw [toList_fileName]
    simp [noProduct, noVersion, slash_notMem_name platform]

theorem fileName_ne_dot (product version : String) (platform : Platform) :
    fileName product version platform ≠ "." := by
  intro same
  have lengths := congrArg (fun name => name.toList.length) same
  simp only [toList_fileName, List.length_append, List.length_cons] at lengths
  have one : ".".toList.length = 1 := rfl
  omega

/-- Without a separator in the product or the version the file name is an entry of the directory
that it is joined to. -/
theorem isEntryOf_join_fileName {product version : String} (noProduct : '/' ∉ product.toList)
    (noVersion : '/' ∉ version.toList) (platform : Platform) (dir : Path) :
    (dir.join (.ofText (fileName product version platform))).IsEntryOf dir := by
  have piece := isPiece_fileName noProduct noVersion platform
  have relative : (Path.mk (fileName product version platform)).isAbsolute = false := by
    rw [Path.isAbsolute, decide_eq_false_iff_not]
    exact fun first => piece.2 (List.mem_of_head? first)
  rw [Path.isEntryOf_join_iff, Path.isAbsolute_ofText, relative, Path.names_ofText,
    Path.names_of_isPiece (p := ⟨fileName product version platform⟩) piece
      (fileName_ne_dot product version platform)]
  rfl

end Archive

/-! ## The archive of a run -/

/-- What a run reports is the path of the release's archive. -/
theorem Release.archive_of_run {r : Release} {host : Host σ} {world : World σ} {report : Report}
    (made : (r.run.perform host world).1 = .ok report) :
    report.archive = r.archivePath report.platform report.version := by
  have ends := r.ends_run host world
  generalize r.run.perform host world = outcome at made ends
  obtain ⟨result, session⟩ := outcome
  obtain rfl : result = .ok report := made
  generalize result : (.ok report : Except Failure Report) = ended at ends
  cases ends with
  | platformUnknown | versionMissing => cases result
  | began finds went =>
    cases went with
    | failed => cases result
    | passed reached =>
      cases result
      exact reached.archive_eq (mem_sequence_iff.mpr trivial)

/-- The archive of a run that succeeds is its file name joined to the output directory. It is
written directly into the directory if the file name goes along one name, as it does without a
separator in the product or the version. Otherwise it is not, unless the file name is absolute and
leads into the directory by itself. -/
theorem archive_isEntryOf_iff {r : Release} {host : Host σ} {world : World σ} {report : Report}
    (made : (r.run.perform host world).1 = .ok report) :
    let dir := r.outputDir.getD r.root
    let fileName : Path :=
      .ofText (Archive.fileName r.settings.product report.version report.platform)
    report.archive = dir.join fileName ∧
      (report.archive.IsEntryOf dir ↔
        if fileName.isAbsolute then fileName.IsEntryOf dir else fileName.names.length = 1) ∧
      ('/' ∉ r.settings.product.toList → '/' ∉ report.version.toList →
        report.archive.IsEntryOf dir) := by
  intro dir fileName
  have joined : report.archive = dir.join fileName := Release.archive_of_run made
  rw [joined]
  refine ⟨rfl, Path.isEntryOf_join_iff dir fileName, fun noProduct noVersion => ?_⟩
  exact Archive.isEntryOf_join_fileName noProduct noVersion report.platform dir

/-- A product with a separator in its name takes the archive out of the directory that it is to be
written into. -/
theorem archive_beside_directory :
    let r : Release := { linuxRelease with
      settings := { linuxRelease.settings with product := "../bkc" }
      outputDir := some ⟨"bin"⟩ }
    let world : World Script.Tally := ⟨sourcesWith "1.0.0", readyScript.freshTally⟩
    ∃ report, (r.run.perform readyScript.host world).1 = .ok report ∧
      report.archive = ⟨"bin/../bkc-1.0.0.linux.x64.tar.gz"⟩ ∧
      ¬ report.archive.IsEntryOf ⟨"bin"⟩ := by
  intro r world
  have told : (r.run.perform readyScript.host world).1.toOption.map (fun report =>
      (report.platform, report.version)) = some (⟨.linux, .x64⟩, "1.0.0") := by
    decide +kernel
  cases made : (r.run.perform readyScript.host world).1 with
  | error failure =>
    rw [made] at told
    cases told
  | ok report =>
    rw [made] at told
    obtain ⟨platform, version⟩ := Prod.mk.inj (Option.some.inj told)
    obtain ⟨joined, entry, -⟩ := archive_isEntryOf_iff made
    rw [platform, version] at joined entry
    rw [if_neg (by decide +kernel)] at entry
    refine ⟨report, rfl, joined.trans (by decide +kernel), fun isEntry => ?_⟩
    exact absurd (entry.mp isEntry) (by decide +kernel)

end ReleaseBuilder
