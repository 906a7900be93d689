/-
# What a failed release leaves behind

Where nothing stands at the path of the archive, only packaging makes something there, and only
if it succeeds. So a release that fails leaves no archive, with one exception: the cleaning
behind packaging can fail too, and by then the archive has been written and is not taken away.
-/

import ReleaseBuilder.Host.Scripted
import ReleaseBuilder.Proofs.Archive.Packing
import ReleaseBuilder.Proofs.Release.Report
import ReleaseBuilder.Proofs.Release.Telling
import ReleaseBuilder.Proofs.Work.Leaving

namespace ReleaseBuilder

variable {σ : Type}

/-- A host makes nothing at a path unless it pipes into it with success. -/
structure Host.Spares (host : Host σ) (path : Path) : Prop where
  leaves : host.Leaves fun files => files.Absent path
  pipe : ∀ producer consumer world failure, world.files.Absent path →
    (host.pipe producer consumer path world).result = .error failure →
    (host.pipe producer consumer path world).world.files.Absent path

/-- A host makes something at a path if it pipes into it with success, and never removes it. -/
structure Host.Delivers (host : Host σ) (path : Path) : Prop where
  leaves : host.Leaves fun files => ¬ files.Absent path
  pipe : ∀ producer consumer world,
    (host.pipe producer consumer path world).result = .ok () →
    ¬ (host.pipe producer consumer path world).world.files.Absent path

/-! ## Hosts that go by a script -/

namespace Script

variable {s : Script}

theorem files_run (still : s.effects = []) (c : Command) (w : World Tally) :
    (s.run c w).2.files = w.files := by
  unfold run
  split
  · rfl
  · simp [affect, still]

theorem leaves_host (still : s.effects = []) (P : FileSystem → Prop) : s.host.Leaves P where
  run := by
    intro c w holds
    change P (s.run c w).2.files
    rwa [files_run still]
  capture := by
    intro c w holds
    simp only [host]
    cases s.answer? c with
    | some output => exact holds
    | none => exact holds

/-- A pipe that fails changes no files, and one that succeeds has written its file. -/
theorem files_pipe (still : s.effects = []) (producer consumer : Command) (dest : Path)
    (w : World Tally) :
    (∃ failure, (s.pipe producer consumer dest w).result = .error failure ∧
      (s.pipe producer consumer dest w).world.files = w.files) ∨
    (s.pipe producer consumer dest w).result = .ok () ∧ ∃ content,
      w.files.write dest content = .ok (s.pipe producer consumer dest w).world.files := by
  have first := files_run still producer w
  unfold pipe
  generalize s.run producer w = outcome at first ⊢
  obtain ⟨failure | _, after⟩ := outcome
  · exact .inl ⟨failure, rfl, first⟩
  · have second := files_run still consumer after
    dsimp only at first ⊢
    generalize s.run consumer after = outcome at second ⊢
    obtain ⟨failure | _, later⟩ := outcome
    · exact .inl ⟨failure, rfl, second.trans first⟩
    · have unchanged : later.files = w.files := second.trans first
      dsimp only
      rw [unchanged]
      cases written : w.files.write dest (.ofText (producer.text ++ " | " ++ consumer.text)) with
      | error fault => exact .inl ⟨_, rfl, unchanged⟩
      | ok files => exact .inr ⟨rfl, _, written⟩

theorem spares_host (still : s.effects = []) (path : Path) : s.host.Spares path where
  leaves := leaves_host still _
  pipe := by
    intro producer consumer w failure absent failed
    change (s.pipe producer consumer path w).result = _ at failed
    change (s.pipe producer consumer path w).world.files.Absent path
    obtain ⟨_, -, unchanged⟩ | ⟨done, -⟩ := files_pipe still producer consumer path w
    · rwa [unchanged]
    · cases failed.symm.trans done

theorem delivers_host (still : s.effects = []) (path : Path) : s.host.Delivers path where
  leaves := leaves_host still _
  pipe := by
    intro producer consumer w piped
    change (s.pipe producer consumer path w).result = _ at piped
    change ¬ (s.pipe producer consumer path w).world.files.Absent path
    obtain ⟨failure, failed, -⟩ | ⟨-, content, written⟩ := files_pipe still producer consumer path w
    · cases piped.symm.trans failed
    · exact FileSystem.not_absent_of_write written

end Script

/-! ## The work of a step -/

section Steps

variable {r : Release} {platform : Platform} {version : String} {host : Host σ}
  {P : FileSystem → Prop}

theorem Compilers.leaves_reports (h : host.Leaves P) (compiler family : String) :
    (reports compiler family).Leaves host P :=
  ((Work.leaves_capture h _).bind fun _ => Work.leaves_pure _).tryCatch fun _ => Work.leaves_pure _

theorem Release.leaves_findPlatform (h : host.Leaves P) : r.findPlatform.Leaves host P := by
  refine composes_findPlatform Work.composes_leaves (fun flag _ => ?_) r
  rw [Platform.askName_eq]
  exact (Work.leaves_capture h _).bind fun _ => Work.composes_leaves.ofExcept _

/-- Only packaging writes itself, so all other work leaves alone what the commands leave alone. -/
theorem Release.holds_behind_work (h : host.Leaves P) {p : Progress} {x : Step}
    (other : x ≠ .package) {world : World σ} {result : Except Failure Progress} {s : Session σ}
    (works : (r.work platform version p x).perform host world = (result, s))
    (holds : P world.files) : P s.world.files := by
  have leaves := composes_work Work.composes_leaves (Work.leaves_run h)
    (fun c _ => Work.leaves_capture h c) (Compilers.leaves_reports h) r platform version p x
    fun packaging => absurd packaging other
  have behind := leaves.perform holds
  rwa [works] at behind

/-- How packaging goes: nothing is done, or a plan is written directly, or it is piped. -/
theorem Release.package_cases {world : World σ} {result : Except Failure Path} {s : Session σ}
    (h : (r.package platform version).perform host world = (result, s)) :
    (∃ failure, result = .error failure ∧ s.world = world) ∨
    (∃ plan : Archive.Plan, plan.output = r.archivePath platform version ∧
      result = (plan.write world.files).1.map (fun _ => plan.output) ∧
      s.world.files = (plan.write world.files).2) ∨
    (∃ producer consumer,
      result = (host.pipe producer consumer (r.archivePath platform version) world).result.map
        (fun _ => r.archivePath platform version) ∧
      s.world = (host.pipe producer consumer (r.archivePath platform version) world).world) := by
  rw [perform_package] at h
  cases planned : r.plan world.files platform version with
  | error failure =>
    rw [planned] at h
    cases h
    exact .inl ⟨failure, rfl, rfl⟩
  | ok plan =>
    rw [planned] at h
    dsimp only at h
    by_cases windows : platform.system = .windows
    · rw [windows, packing_directly, Work.perform_map, Work.perform_onFiles] at h
      cases h
      exact .inr (.inl ⟨plan, output_of_plan planned, rfl, rfl⟩)
    · rw [packing_by_commands windows, Work.perform_map, Work.perform_pipe,
        output_of_plan planned] at h
      cases h
      exact .inr (.inr ⟨plan.collector, { program := r.settings.compressor }, rfl, rfl⟩)

private theorem error_of_map {α β : Type} {f : α → β} {result : Except Failure α}
    {failure : Failure} (h : .error failure = result.map f) : result = .error failure := by
  cases result with
  | error other =>
    cases h
    rfl
  | ok a => cases h

private theorem exists_ok_of_map {α β : Type} {f : α → β} {result : Except Failure α} {b : β}
    (h : .ok b = result.map f) : ∃ a, result = .ok a := by
  cases result with
  | error failure => cases h
  | ok a => exact ⟨a, rfl⟩

/-- Packaging that fails makes nothing where nothing was. -/
theorem Release.absent_of_package {world : World σ} {failure : Failure} {s : Session σ}
    (spares : host.Spares (r.archivePath platform version))
    (absent : world.files.Absent (r.archivePath platform version))
    (fails : (r.package platform version).perform host world = (.error failure, s)) :
    s.world.files.Absent (r.archivePath platform version) := by
  rcases package_cases fails with
    ⟨_, -, unchanged⟩ | ⟨plan, output, unwritten, left⟩ | ⟨producer, consumer, unpiped, left⟩
  · rw [unchanged]
    exact absent
  · rw [left]
    rw [← output] at absent ⊢
    exact Archive.Plan.absent_of_write (error_of_map unwritten) absent
  · rw [left]
    exact spares.pipe producer consumer world failure absent (error_of_map unpiped)

/-- Packaging that succeeds makes the archive. -/
theorem Release.not_absent_of_package {world : World σ} {archive : Path} {s : Session σ}
    (delivers : host.Delivers (r.archivePath platform version))
    (succeeds : (r.package platform version).perform host world = (.ok archive, s)) :
    ¬ s.world.files.Absent (r.archivePath platform version) := by
  rcases package_cases succeeds with
    ⟨_, failed, -⟩ | ⟨plan, output, written, left⟩ | ⟨producer, consumer, piped, left⟩
  · cases failed
  · obtain ⟨_, done⟩ := exists_ok_of_map written
    rw [left, ← output]
    exact Archive.Plan.not_absent_of_write done
  · obtain ⟨_, done⟩ := exists_ok_of_map piped
    rw [left]
    exact delivers.pipe producer consumer world done

/-! ## The steps that were passed -/

/-- Until packaging is passed, what the commands leave alone stays as it is. -/
theorem Release.Reaches.holds {start : World σ} {done : List Step} {p : Progress}
    {world : World σ} {record : List Occurrence} (h : host.Leaves P)
    (reached : r.Reaches platform version host start done p world record)
    (holds : P start.files) (unpacked : .package ∉ done) : P world.files := by
  induction reached with
  | start => exact holds
  | @step done p after world record x s reached succeeds ih =>
      rw [List.mem_append, List.mem_singleton, not_or] at unpacked
      exact holds_behind_work h (Ne.symm unpacked.2) succeeds (ih unpacked.1)

/-- Once packaging is passed the archive is there. -/
theorem Release.Reaches.not_absent {start : World σ} {done : List Step} {p : Progress}
    {world : World σ} {record : List Occurrence}
    (delivers : host.Delivers (r.archivePath platform version))
    (reached : r.Reaches platform version host start done p world record)
    (packed : .package ∈ done) : ¬ world.files.Absent (r.archivePath platform version) := by
  induction reached with
  | start => cases packed
  | @step done p after world record x s reached succeeds ih =>
      by_cases now : x = .package
      · subst now
        obtain ⟨archive, packs, -⟩ := known_of_work succeeds
        exact not_absent_of_package delivers packs
      · rw [List.mem_append, List.mem_singleton] at packed
        have earlier := packed.resolve_right (Ne.symm now)
        exact holds_behind_work delivers.leaves now succeeds (ih earlier)

/-- A step that fails leaves nothing at the path of the archive, unless it comes behind
packaging. -/
theorem Release.absent_of_fails {start : World σ} {done left : List Step} {x : Step} {p : Progress}
    {world : World σ} {record : List Occurrence} {failure : Failure} {s : Session σ}
    (spares : host.Spares (r.archivePath platform version))
    (split : r.sequence platform = done ++ x :: left)
    (reached : r.Reaches platform version host start done p world record)
    (absent : start.files.Absent (r.archivePath platform version))
    (fails : (r.work platform version p x).perform host world = (.error failure, s))
    (before : x ≠ .finalClean) : s.world.files.Absent (r.archivePath platform version) := by
  have unpacked : .package ∉ done := by
    rw [mem_before_iff split]
    rintro ⟨-, lower⟩
    cases x with
    | finalClean => exact before rfl
    | _ => exact absurd lower (by decide)
  have here := reached.holds spares.leaves absent unpacked
  by_cases packaging : x = .package
  · subst packaging
    rw [work_package] at fails
    exact absent_of_package spares here (Work.of_perform_map_error fails)
  · exact holds_behind_work spares.leaves packaging fails here

/-- The cleaning behind packaging, if it fails, leaves the archive. -/
theorem Release.not_absent_of_fails {start : World σ} {done left : List Step} {p : Progress}
    {world : World σ} {record : List Occurrence} {failure : Failure} {s : Session σ}
    (delivers : host.Delivers (r.archivePath platform version))
    (split : r.sequence platform = done ++ .finalClean :: left)
    (reached : r.Reaches platform version host start done p world record)
    (fails : (r.work platform version p .finalClean).perform host world = (.error failure, s)) :
    ¬ s.world.files.Absent (r.archivePath platform version) := by
  have packed : .package ∈ done :=
    (mem_before_iff split).mpr ⟨mem_sequence_iff.mpr trivial, by decide⟩
  exact holds_behind_work delivers.leaves (by decide) fails (reached.not_absent delivers packed)

end Steps

/-! ## A whole run -/

/-- What a run that fails leaves, if at first nothing is at the path of the archive that it would
make: nothing, unless it fails in the cleaning behind packaging. Then the archive is left. -/
theorem archive_of_failed_run {r : Release} {host : Host σ} {world : World σ} {path : Path}
    {failure : Failure} {s : Session σ} (failed : r.run.perform host world = (.error failure, s))
    (named : ∀ version platform tag, .started version platform tag ∈ eventsOf s.record →
      path = r.archivePath platform version)
    (absent : world.files.Absent path) (spares : host.Spares path) :
    ((eventsOf s.record).getLast? ≠ some (.stepStarted .finalClean) → s.world.files.Absent path) ∧
      (host.Delivers path → (eventsOf s.record).getLast? = some (.stepStarted .finalClean) →
        ¬ s.world.files.Absent path) := by
  have quiet := r.orderly_findPlatform.quiet host world
  have detected : (r.findPlatform.perform host world).2.world.files.Absent path :=
    (Release.leaves_findPlatform spares.leaves).perform absent
  have ends := r.ends_run host world
  rw [failed] at ends
  generalize result : (.error failure : Except Failure Report) = outcome at ends
  cases ends with
  | platformUnknown unknown =>
    rw [unknown] at quiet detected
    refine ⟨fun _ => detected, fun _ last => ?_⟩
    rw [quiet] at last
    cases last
  | versionMissing known missing =>
    rw [known] at quiet detected
    refine ⟨fun _ => detected, fun _ last => ?_⟩
    rw [quiet] at last
    cases last
  | @began platform version s' steps behind record finds went =>
    rw [finds.platform] at quiet detected
    have started := eventsOf_behind_quiet quiet (.started version platform platform.tag) record
    obtain rfl : path = r.archivePath platform version :=
      named version platform platform.tag (by rw [started]; exact List.mem_cons_self)
    cases went with
    | passed reached => cases result
    | @failed done left x p here before failure t split reached fails =>
      rw [started, reached.eventsOf_failed fails, ← List.cons_append, List.getLast?_concat]
      constructor
      · intro other
        have before : x ≠ .finalClean := by
          rintro rfl
          exact other rfl
        have gone := Release.absent_of_fails spares split reached detected fails before
        exact gone
      · rintro delivers ⟨⟩
        have left_there := Release.not_absent_of_fails delivers split reached fails
        exact left_there

/-! The exception is met by a scripted host: what fails is the second cleaning only. -/

/-- A script by which all is well until the second cleaning. -/
def uncleanScript : Script where
  outputs := [("uname -s", some ⟨"Linux", true⟩), ("uname -m", some ⟨"x86_64", true⟩),
    ("g++", some ⟨"g++ (GCC)", true⟩), ("gcc", some ⟨"gcc (GCC)", true⟩)]
  refusals := [⟨"make clean", some "exit status: 2", some 2⟩]

/-- Nothing is at the path of the archive at first, the release fails, and the archive is there. -/
theorem archive_left_by_final_clean :
    let world : World Script.Tally := ⟨sourcesWith "1.0.0", uncleanScript.freshTally⟩
    let outcome := smallRelease.run.perform uncleanScript.host world
    let archive := smallRelease.archivePath ⟨.linux, .x64⟩ "1.0.0"
    uncleanScript.host.Spares archive ∧ uncleanScript.host.Delivers archive ∧
      world.files.Absent archive ∧
      (eventsOf outcome.2.record).head? = some (.started "1.0.0" ⟨.linux, .x64⟩ "avx") ∧
      (∃ failure, outcome.1 = .error failure) ∧ ¬ outcome.2.world.files.Absent archive := by
  intro world outcome archive
  have spares : uncleanScript.host.Spares archive := Script.spares_host rfl archive
  have delivers : uncleanScript.host.Delivers archive := Script.delivers_host rfl archive
  have absent : world.files.Absent archive := by decide +kernel
  have told : eventsOf outcome.2.record =
      .started "1.0.0" ⟨.linux, .x64⟩ "avx" ::
        (toldOf [.selectToolchain, .clean, .build, .package] ++ [.stepStarted .finalClean]) := by
    decide +kernel
  have failed : outcome.1.toOption = none := by decide +kernel
  rcases result : outcome with ⟨failure | report, s⟩
  · rw [result] at told failed
    refine ⟨spares, delivers, absent, ?_, ⟨failure, rfl⟩, ?_⟩
    · rw [told]
      rfl
    · refine (archive_of_failed_run result ?_ absent spares).2 delivers ?_
      · intro version platform tag started
        rw [told] at started
        simp [toldOf, Step.told] at started
        obtain ⟨rfl, rfl, -⟩ := started
        rfl
      · rw [told]
        rfl
  · rw [result] at failed
    cases failed

end ReleaseBuilder
