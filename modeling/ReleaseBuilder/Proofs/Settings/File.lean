/-
# Which settings a file gives

A text gives settings exactly if it is a document all of whose entries fit, and otherwise the first
entry that does not fit is reported. A file gives the settings of its text, and whatever is wrong
with it is reported behind its path. The settings file of a project counts where its path leads to
a file, or to a device with nothing to read; where something else is in its place, a directory or a
symbolic link to nowhere, the usual settings are taken as if nothing were there. What is said of a
text that is no document may be anything.
-/

import ReleaseBuilder.Proofs.FileSystem.Reading
import ReleaseBuilder.Proofs.FileSystem.Writing
import ReleaseBuilder.Proofs.Settings.Fitting
import ReleaseBuilder.Settings.File

namespace ReleaseBuilder

/-! ## An entry behind what is found -/

namespace FileSystem

variable {fs : FileSystem} {p : Path}

/-- What a walk finds has an entry at the end of the way, a symbolic link perhaps. -/
theorem Walks.exists_entry {links : Nat} {arrival : Arrival} {here : Location}
    {names : List String} {place : Place} (walks : Walks fs links arrival here names place)
    {loc : Location} {node : Node} (found : place = .found loc node) :
    ∃ loc node, Walks fs links arrival.asking here names (.found loc node) := by
  induction walks with
  | arrived => exact ⟨_, _, .arrived⟩
  | stay mayEnter goesOn ih =>
    obtain ⟨loc, node, there⟩ := ih found
    exact ⟨loc, node, .stay mayEnter there⟩
  | up mayEnter goesOn ih =>
    obtain ⟨loc, node, there⟩ := ih found
    exact ⟨loc, node, .up mayEnter there⟩
  | vacant passes nothing => cases found
  | link passes isLink still plain => exact ⟨_, _, .link (passes.looking rfl) isLink rfl plain⟩
  | @detour links arrival here name target rest place passes isLink followed goesOn ih =>
    by_cases asked : rest = [] → arrival.directory = true
    · obtain ⟨loc, node, there⟩ := ih found
      exact ⟨loc, node, .detour (passes.looking rfl) isLink (fun last => .inr (asked last)) there⟩
    · obtain ⟨rfl, plain⟩ := Classical.not_imp.mp asked
      exact ⟨_, _, .link (passes.looking rfl) isLink rfl (Bool.eq_false_iff.mpr plain)⟩
  | descend passes isDirectory goesOn ih =>
    obtain ⟨loc, node, there⟩ := ih found
    exact ⟨loc, node, .descend (passes.looking rfl) isDirectory there⟩
  | node passes isNode noDirectory noLink plain =>
    exact ⟨_, _, .node (passes.looking rfl) isNode noDirectory noLink plain⟩

theorem Absent.not_find (absent : fs.Absent p) (loc : Location) (node : Node) :
    fs.find p ≠ .ok (loc, node) := by
  intro found
  obtain ⟨usable, walks⟩ := stat_eq_ok_iff.mp found
  obtain ⟨loc, node, there⟩ := walks.exists_entry rfl
  exact absent loc node (stat_eq_ok_iff.mpr ⟨usable, there⟩)

/-- A path leads to something that has a content: symbolic links followed, a file is there, or the
device that has nothing to read. -/
def LeadsToContent (fs : FileSystem) (p : Path) : Prop :=
  ∃ loc node, fs.find p = .ok (loc, node) ∧ (node.isFile ∨ node = .device .null)

/-- A path leads to a device that can be read without end. -/
def LeadsToEndless (fs : FileSystem) (p : Path) : Prop :=
  ∃ loc device, fs.find p = .ok (loc, .device device) ∧ device ≠ .null

/-- Where a path does not lead to a content, nothing can be read to its end. -/
theorem exists_read_eq_error (leadsNowhere : ¬ fs.LeadsToContent p) :
    ∃ fault, fs.read p = .error fault := by
  rw [read]
  cases found : fs.find p with
  | error fault => exact ⟨fault, rfl⟩
  | ok there =>
    obtain ⟨loc, node⟩ := there
    by_cases readable : node.allows .read = true
    · dsimp only
      rw [readable]
      cases node with
      | file f => exact absurd ⟨loc, _, found, .inl rfl⟩ leadsNowhere
      | directory access => exact ⟨.system .isDirectory, rfl⟩
      | link target => exact ⟨.system .linkLoop, rfl⟩
      | device d =>
        cases d with
        | null => exact absurd ⟨loc, _, found, .inr rfl⟩ leadsNowhere
        | zero | full | random => exact ⟨.endless, rfl⟩
    · exact ⟨.system .denied, by simp [readable]⟩

end FileSystem

namespace Settings

open FileSystem (Textless)

variable {explain : String → String}

/-! ## Texts -/

theorem decides_ofToml {source : String} {document : Toml.Document}
    (valid : Toml.read? source = some document) :
    Decides (ofToml source explain) (Gives {} document.entries) fun failure =>
      ∃ misfit, First FitsEntry OffendsEntry document.entries misfit ∧
        failure = .config (misfit.words source) := by
  have taken := decides_takeAll {} document.entries
  refine ⟨fun s gives => ?_, ?_, ?_⟩
  · rw [ofToml, read, valid]
    simp only [ofDocument, taken.ok s gives]
    rfl
  · rintro failure ⟨misfit, first, rfl⟩
    rw [ofToml, read, valid]
    simp only [ofDocument, taken.error misfit first]
    rfl
  · exact taken.total.imp_right fun ⟨misfit, first⟩ => ⟨_, misfit, first, rfl⟩

/-- Whatever is wrong with a text, its settings cannot be read. -/
theorem exists_reason {source : String} {failure : Failure}
    (failed : ofToml source explain = .error failure) : ∃ reason, failure = .config reason := by
  rw [ofToml] at failed
  cases result : read source explain with
  | ok s =>
    rw [result] at failed
    cases failed
  | error missing =>
    rw [result] at failed
    cases failed
    exact ⟨_, rfl⟩

@[simp] theorem ofToml_empty : ofToml "" explain = .ok {} := by
  have valid : Toml.read? "" = some (.empty .stated) := by with_unfolding_all rfl
  exact (decides_ofToml valid).ok {} .done

/-! ## Files -/

/-- Why the file at a path gives no settings. -/
inductive Lacks (explain : String → String) (files : FileSystem) (path : Path) : String → Prop
  | unreadable {fault : Fault} (refused : files.read path = .error fault) :
      Lacks explain files path fault.message
  | notText {content : Content} (isRead : files.read path = .ok content)
      (textless : Textless content) : Lacks explain files path "stream did not contain valid UTF-8"
  | unfit {source reason : String} (isRead : files.read path = .ok (.ofText source))
      (refused : ofToml source explain = .error (.config reason)) : Lacks explain files path reason

variable {files : FileSystem} {path : Path}

theorem load_of_refused {fault : Fault} (refused : files.readText path = .error fault) :
    load files path explain = .error (.config (path.shown ++ ": " ++ fault.message)) := by
  rw [load, readFile, refused]
  rfl

theorem load_of_source {source : String} (isRead : files.read path = .ok (.ofText source)) :
    load files path explain = (read source explain).mapError fun missing =>
      .config (path.shown ++ ": " ++ missing.words) := by
  rw [load, readFile, FileSystem.readText_eq_ok_iff.mpr isRead]

/-- No file is left without an answer: it gives the settings of its text, or what is wrong is
reported behind its path. -/
theorem decides_load (explain : String → String) (files : FileSystem) (path : Path) :
    Decides (load files path explain)
      (fun s => ∃ source, files.read path = .ok (.ofText source) ∧ ofToml source explain = .ok s)
      (fun failure => ∃ reason, Lacks explain files path reason ∧
        failure = .config (path.shown ++ ": " ++ reason)) where
  ok := by
    rintro s ⟨source, isRead, fits⟩
    rw [load_of_source isRead]
    rw [ofToml] at fits
    cases result : read source explain with
    | ok t =>
      rw [result] at fits
      cases fits
      rfl
    | error missing =>
      rw [result] at fits
      cases fits
  error := by
    rintro failure ⟨reason, lacks, rfl⟩
    cases lacks with
    | unreadable refused =>
      exact load_of_refused (FileSystem.readText_eq_error_iff.mpr (.inl refused))
    | notText isRead textless =>
      exact load_of_refused
        (FileSystem.readText_eq_error_iff.mpr (.inr ⟨_, isRead, textless, rfl⟩))
    | @unfit source reason isRead refused =>
      rw [load_of_source isRead]
      rw [ofToml] at refused
      cases result : read source explain with
      | ok t =>
        rw [result] at refused
        cases refused
      | error missing =>
        rw [result] at refused
        cases refused
        rfl
  total := by
    match isRead : files.read path with
    | .error fault => exact .inr ⟨_, _, .unreadable isRead, rfl⟩
    | .ok content =>
      by_cases textless : Textless content
      · exact .inr ⟨_, _, .notText isRead textless, rfl⟩
      · obtain ⟨source, rfl⟩ := Classical.not_forall_not.mp textless
        match result : ofToml source explain with
        | .ok s => exact .inl ⟨s, source, rfl, result⟩
        | .error failure =>
          obtain ⟨reason, rfl⟩ := exists_reason result
          exact .inr ⟨_, reason, .unfit isRead result, rfl⟩

/-- A document gives settings exactly if each of its keys is the name of a field and the value fits
the field; a field then holds what its entry means, and its usual content if it has none. Otherwise
the first entry that does not fit is reported at its place, whatever comes behind it. A file gives
the settings of its text, if it can be read as one, and every failure carries the path in front of
its reason. -/
theorem settings_by_first_misfit (explain : String → String) :
    (∀ source document, Toml.read? source = some document →
      ((∃ s, ofToml source explain = .ok s) ↔ ∀ entry ∈ document.entries, FitsEntry entry) ∧
      (∀ s, ofToml source explain = .ok s → ∀ f : Field,
        (∃ entry ∈ document.entries, entry.1.name = f.name ∧ Means f.kind entry.2 (s.get f)) ∨
          (∀ entry ∈ document.entries, entry.1.name ≠ f.name) ∧ s.get f = ({} : Settings).get f) ∧
      ∀ failure, ofToml source explain = .error failure ↔
        ∃ misfit, First FitsEntry OffendsEntry document.entries misfit ∧
          failure = .config (misfit.words source)) ∧
    ∀ files path,
      (∀ s, load files path explain = .ok s ↔
        ∃ source, files.read path = .ok (.ofText source) ∧ ofToml source explain = .ok s) ∧
      ∀ failure, load files path explain = .error failure ↔
        ∃ reason, Lacks explain files path reason ∧
          failure = .config (path.shown ++ ": " ++ reason) := by
  refine ⟨fun source document valid => ?_, fun files path => ?_⟩
  · have decided := @decides_ofToml explain _ _ valid
    refine ⟨?_, fun s isOk => (decided.eq_ok_iff.mp isOk).get, fun failure => decided.eq_error_iff⟩
    rw [← exists_gives_iff]
    exact exists_congr fun s => decided.eq_ok_iff
  · exact ⟨fun s => (decides_load explain files path).eq_ok_iff,
      fun failure => (decides_load explain files path).eq_error_iff⟩

/-- A document whose second item is the first thing that does not fit, with an unknown name behind
it. -/
def unfitSource : String :=
  "submodule_jobs = 4\ngnu_candidates = [13, -1, \"x\"]\nprodukt = 1\n"

theorem misfit_of_second_item :
    ∃ document misfit, Toml.read? unfitSource = some document ∧
      First FitsEntry OffendsEntry document.entries misfit ∧
      ofToml unfitSource = .error (.config (misfit.words unfitSource)) ∧
      (Failure.config (misfit.words unfitSource)).message =
        "configuration error: TOML parse error at line 2, column 23\n  |\n" ++
          "2 | gnu_candidates = [13, -1, \"x\"]\n  |                       ^^\n" ++
          "invalid value: integer `-1`, expected u32\n" := by
  have valid : (Toml.read? unfitSource).isSome = true := by decide +kernel
  have told :
      (match ofToml unfitSource with | .ok _ => none | .error failure => some failure.message) =
        some ("configuration error: TOML parse error at line 2, column 23\n  |\n" ++
          "2 | gnu_candidates = [13, -1, \"x\"]\n  |                       ^^\n" ++
          "invalid value: integer `-1`, expected u32\n") := by decide +kernel
  obtain ⟨document, isDocument⟩ := Option.isSome_iff_exists.mp valid
  obtain ⟨-, -, refused⟩ := (settings_by_first_misfit fun _ => "").1 unfitSource document isDocument
  match result : ofToml unfitSource with
  | .ok s =>
    rw [result] at told
    cases told
  | .error failure =>
    rw [result] at told
    obtain ⟨misfit, first, rfl⟩ := (refused failure).mp result
    exact ⟨document, misfit, isDocument, first, rfl, Option.some.inj told⟩

/-! ## Projects -/

theorem isFile_of_find {loc : Location} {node : Node} (found : files.find path = .ok (loc, node)) :
    files.isFile path = node.isFile := by
  rw [FileSystem.isFile, FileSystem.find?_eq_some_iff.mpr found]
  rfl

/-- The device that has nothing to read gives the settings of an empty text. -/
theorem load_of_null {loc : Location} (found : files.find path = .ok (loc, .device .null)) :
    load files path explain = .ok {} := by
  have empty : files.read path = .ok (.ofText "") := by
    rw [FileSystem.read, found]
    rfl
  exact (decides_load explain files path).ok {} ⟨"", empty, ofToml_empty⟩

/-- The settings file of a project counts where its path leads to something with a content. Where
nothing is in its place the usual settings are taken. So they are where something is there that
does not lead to a content, although it would be refused if it were read; only a device that can be
read without end would not even be refused. What does count is read or refused behind its path. -/
theorem discover_by_what_is_there (explain : String → String) (files : FileSystem) (root : Path) :
    (files.Absent (root.join fileName) → discover files root explain = .ok {}) ∧
    (files.LeadsToContent (root.join fileName) →
      discover files root explain = load files (root.join fileName) explain) ∧
    (¬ files.LeadsToContent (root.join fileName) →
      discover files root explain = .ok {} ∧
        (¬ files.LeadsToEndless (root.join fileName) →
          ∃ fault, files.read (root.join fileName) = .error fault ∧
            load files (root.join fileName) explain =
              .error (.config ((root.join fileName).shown ++ ": " ++ fault.message)))) ∧
    ∀ failure, discover files root explain = .error failure →
      ∃ reason, failure = .config ((root.join fileName).shown ++ ": " ++ reason) := by
  generalize isPath : root.join fileName = path
  have ignored (leadsNowhere : ¬ files.LeadsToContent path) :
      discover files root explain = .ok {} := by
    have noFile : files.isFile path = false := by
      refine Bool.eq_false_iff.mpr fun isFile => leadsNowhere ?_
      obtain ⟨loc, file, found⟩ := FileSystem.isFile_iff.mp isFile
      exact ⟨loc, _, found, .inl rfl⟩
    simp [discover, isPath, noFile]
  have refused (leadsNowhere : ¬ files.LeadsToContent path) :
      ∃ fault, files.read path = .error fault ∧
        load files path explain = .error (.config (path.shown ++ ": " ++ fault.message)) := by
    obtain ⟨fault, isRefused⟩ := FileSystem.exists_read_eq_error leadsNowhere
    exact ⟨fault, isRefused,
      (decides_load explain files path).error _ ⟨_, .unreadable isRefused, rfl⟩⟩
  have counts (leads : files.LeadsToContent path) :
      discover files root explain = load files path explain := by
    obtain ⟨loc, node, found, isFile | rfl⟩ := leads
    · simp [discover, isPath, isFile_of_find found, isFile]
    · -- A device is no file, so the usual settings are taken; its text is empty and gives the same.
      rw [load_of_null found]
      simp [discover, isPath, isFile_of_find found, Node.isFile]
  refine ⟨fun absent => ignored ?_, counts,
    fun leadsNowhere => ⟨ignored leadsNowhere, fun _ => refused leadsNowhere⟩,
    fun failure failed => ?_⟩
  · rintro ⟨loc, node, found, -⟩
    exact absent.not_find loc node found
  · by_cases leads : files.LeadsToContent path
    · rw [counts leads] at failed
      obtain ⟨reason, -, rfl⟩ := (decides_load explain files path).eq_error_iff.mp failed
      exact ⟨reason, rfl⟩
    · rw [ignored leads] at failed
      cases failed

/-- A project with a directory in the place of its settings file, and one with a symbolic link that
leads nowhere. -/
def filesWithOddSettings : FileSystem where
  nodes := [
    (["proj"], .directory ⟨0o755, .user⟩),
    (["proj", "bkc-release.toml"], .directory ⟨0o755, .user⟩),
    (["other"], .directory ⟨0o755, .user⟩),
    (["other", "bkc-release.toml"], .link "gone.toml")]

/-- What is there is ignored, although it cannot be read. -/
theorem discover_of_odd_settings :
    (¬ filesWithOddSettings.Absent ⟨"proj/bkc-release.toml"⟩ ∧
      discover filesWithOddSettings ⟨"proj"⟩ = .ok {} ∧
      load filesWithOddSettings ⟨"proj/bkc-release.toml"⟩ =
        .error (.config "proj/bkc-release.toml: Is a directory (os error 21)")) ∧
    ¬ filesWithOddSettings.Absent ⟨"other/bkc-release.toml"⟩ ∧
      discover filesWithOddSettings ⟨"other"⟩ = .ok {} ∧
      load filesWithOddSettings ⟨"other/bkc-release.toml"⟩ =
        .error (.config "other/bkc-release.toml: No such file or directory (os error 2)") := by
  have directory : filesWithOddSettings.find ⟨"proj/bkc-release.toml"⟩ =
      .ok (["proj", "bkc-release.toml"], .directory ⟨0o755, .user⟩) := rfl
  have dangling : filesWithOddSettings.find ⟨"other/bkc-release.toml"⟩ =
      .error (.system .noEntry) := rfl
  have noContent : ¬ filesWithOddSettings.LeadsToContent ⟨"proj/bkc-release.toml"⟩ := by
    rintro ⟨loc, node, found, isContent⟩
    rw [directory] at found
    cases found
    rcases isContent with isFile | isNull
    · cases isFile
    · cases isNull
  have nowhere : ¬ filesWithOddSettings.LeadsToContent ⟨"other/bkc-release.toml"⟩ := by
    rintro ⟨loc, node, found, isContent⟩
    rw [dangling] at found
    cases found
  have notEndless : ¬ filesWithOddSettings.LeadsToEndless ⟨"proj/bkc-release.toml"⟩ := by
    rintro ⟨loc, device, found, -⟩
    rw [directory] at found
    cases found
  have notEndlessToo : ¬ filesWithOddSettings.LeadsToEndless ⟨"other/bkc-release.toml"⟩ := by
    rintro ⟨loc, device, found, -⟩
    rw [dangling] at found
    cases found
  have place : (Path.mk "proj").join fileName = ⟨"proj/bkc-release.toml"⟩ := by decide +kernel
  have placeToo : (Path.mk "other").join fileName = ⟨"other/bkc-release.toml"⟩ := by decide +kernel
  obtain ⟨-, -, ignored, -⟩ :=
    discover_by_what_is_there (fun _ => "") filesWithOddSettings ⟨"proj"⟩
  obtain ⟨-, -, ignoredToo, -⟩ :=
    discover_by_what_is_there (fun _ => "") filesWithOddSettings ⟨"other"⟩
  rw [place] at ignored
  rw [placeToo] at ignoredToo
  obtain ⟨usual, loads⟩ := ignored noContent
  obtain ⟨usualToo, loadsToo⟩ := ignoredToo nowhere
  obtain ⟨fault, refused, loaded⟩ := loads notEndless
  obtain ⟨faultToo, refusedToo, loadedToo⟩ := loadsToo notEndlessToo
  have isDirectory : filesWithOddSettings.read ⟨"proj/bkc-release.toml"⟩ =
      .error (.system .isDirectory) := rfl
  have noEntry : filesWithOddSettings.read ⟨"other/bkc-release.toml"⟩ =
      .error (.system .noEntry) := rfl
  cases isDirectory.symm.trans refused
  cases noEntry.symm.trans refusedToo
  exact ⟨⟨by decide, usual, loaded⟩, by decide, usualToo, loadedToo⟩

end Settings

end ReleaseBuilder
