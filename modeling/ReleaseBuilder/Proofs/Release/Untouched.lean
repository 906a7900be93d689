/-
# What a release leaves untouched

A release writes one file itself, the archive, and that only in packaging. So if the commands that
it calls leave the files alone, apart from a pipe that changes its destination, then behind a run
everything but the archive is as it was before, whether the run succeeds or fails. And as long as no
archive is planned nothing is changed at all.
-/

import ReleaseBuilder.Proofs.Release.Remains

namespace ReleaseBuilder

variable {σ : Type} {host : Host σ}

/-- Commands leave the files as they are, and a pipe changes its destination only. -/
structure Host.ChangesPipedOnly (host : Host σ) : Prop where
  run : ∀ c w, (host.run c w).world.files = w.files
  capture : ∀ c w, (host.capture c w).2.files = w.files
  pipe : ∀ producer consumer dest (w : World σ),
    w.files.SameBesides dest (host.pipe producer consumer dest w).world.files

/-- Whatever is true of the files stays true, as long as nothing is piped. -/
theorem Host.ChangesPipedOnly.leaves (only : host.ChangesPipedOnly) (P : FileSystem → Prop) :
    host.Leaves P where
  run c w holds := by rwa [only.run]
  capture c w holds := by rwa [only.capture]

/-- A script without effects changes what is piped only. -/
theorem Script.changesPipedOnly_host {s : Script} (still : s.effects = []) :
    s.host.ChangesPipedOnly where
  run := files_run still
  capture c w := (leaves_host still (· = w.files)).capture c w rfl
  pipe producer consumer dest w := by
    change w.files.SameBesides dest (s.pipe producer consumer dest w).world.files
    obtain ⟨_, -, unchanged⟩ | ⟨-, content, written⟩ := files_pipe still producer consumer dest w
    · rw [unchanged]
      exact .refl w.files dest
    · exact FileSystem.sameBesides_write written

theorem stepStarted_mem_toldOf {steps : List Step} {x : Step} :
    .stepStarted x ∈ toldOf steps ↔ x ∈ steps := by
  simp [toldOf, Step.told]

namespace Release

variable {r : Release} {platform : Platform} {version : String}

/-! ## One step -/

/-- Packaging changes nothing but the archive. -/
theorem sameBesides_of_package (only : host.ChangesPipedOnly) {world : World σ}
    {result : Except Failure Path} {s : Session σ}
    (h : (r.package platform version).perform host world = (result, s)) :
    world.files.SameBesides (r.archivePath platform version) s.world.files := by
  rcases package_cases h with
    ⟨_, -, unchanged⟩ | ⟨plan, output, -, left⟩ | ⟨producer, consumer, -, left⟩
  · rw [unchanged]
    exact .refl world.files _
  · rw [left, ← output]
    exact plan.sameBesides_write world.files
  · rw [left]
    exact only.pipe producer consumer _ world

/-- Without a plan packaging fails and does nothing. -/
theorem perform_package_of_unplanned {world : World σ} {failure : Failure}
    (unplanned : r.plan world.files platform version = .error failure) :
    (r.package platform version).perform host world = (.error failure, ⟨world, []⟩) := by
  rw [perform_package, unplanned]

variable {start : FileSystem} {p : Progress} {world : World σ}

/-- A step changes nothing but the archive, if nothing was changed before packaging. -/
theorem sameBesides_of_work (only : host.ChangesPipedOnly) {x : Step}
    {result : Except Failure Progress} {s : Session σ}
    (works : (r.work platform version p x).perform host world = (result, s))
    (before : start.SameBesides (r.archivePath platform version) world.files)
    (unchanged : x = .package → world.files = start) :
    start.SameBesides (r.archivePath platform version) s.world.files := by
  by_cases packaging : x = .package
  · subst packaging
    rw [work_package, Work.perform_map] at works
    cases works
    rw [← unchanged rfl]
    exact sameBesides_of_package only rfl
  · exact holds_behind_work (only.leaves _) packaging works before

/-! ## The steps that were passed -/

section Reaching

variable {start : World σ} {done : List Step} {record : List Occurrence}

/-- Before packaging nothing is changed. -/
theorem Reaches.files_of_unpacked (only : host.ChangesPipedOnly)
    (reached : r.Reaches platform version host start done p world record)
    (unpacked : .package ∉ done) : world.files = start.files :=
  reached.holds (P := (· = start.files)) (only.leaves _) rfl unpacked

theorem Reaches.sameBesides (only : host.ChangesPipedOnly)
    (reached : r.Reaches platform version host start done p world record) (once : done.Nodup) :
    start.files.SameBesides (r.archivePath platform version) world.files := by
  induction reached with
  | start => exact .refl start.files _
  | @step done p after world record x s reached succeeds ih =>
      obtain ⟨once, -, apart⟩ := List.nodup_append.mp once
      refine sameBesides_of_work only succeeds (ih once) ?_
      rintro rfl
      exact reached.files_of_unpacked only fun packed =>
        apart _ packed _ (List.mem_singleton_self _) rfl

/-- Where there is no plan for the archive packaging is not passed, and nothing is changed. -/
theorem Reaches.unplanned (only : host.ChangesPipedOnly) {failure : Failure}
    (unplanned : r.plan start.files platform version = .error failure)
    (reached : r.Reaches platform version host start done p world record) :
    .package ∉ done ∧ world.files = start.files := by
  induction reached with
  | start => exact ⟨List.not_mem_nil, rfl⟩
  | @step done p after world record x s reached succeeds ih =>
      obtain ⟨unpacked, unchanged⟩ := ih
      have other : x ≠ .package := by
        rintro rfl
        rw [← unchanged] at unplanned
        rw [work_package, Work.perform_map, perform_package_of_unplanned unplanned] at succeeds
        cases succeeds
      refine ⟨?_, holds_behind_work (only.leaves (· = start.files)) other succeeds unchanged⟩
      rw [List.mem_append, List.mem_singleton, not_or]
      exact ⟨unpacked, Ne.symm other⟩

end Reaching

/-! ## A whole run -/

theorem nodup_sequence (r : Release) (platform : Platform) : (r.sequence platform).Nodup :=
  (r.pairwise_rank_sequence platform).imp fun lower same => by
    rw [same] at lower
    exact Nat.lt_irrefl _ lower

variable {start : World σ} {result : Except Failure Progress} {behind : World σ}
  {record : List Occurrence}

theorem Went.sameBesides (only : host.ChangesPipedOnly)
    (went : r.Went platform version host start (r.sequence platform) result behind record) :
    start.files.SameBesides (r.archivePath platform version) behind.files := by
  have once := r.nodup_sequence platform
  cases went with
  | passed reached => exact reached.sameBesides only once
  | @failed done left x p world before failure s split reached fails =>
    rw [split] at once
    obtain ⟨once, -, apart⟩ := List.nodup_append.mp once
    refine sameBesides_of_work only fails (reached.sameBesides only once) ?_
    rintro rfl
    exact reached.files_of_unpacked only fun packed => apart _ packed _ List.mem_cons_self rfl

/-- Until packaging begins nothing is changed. -/
theorem Went.unpacked (only : host.ChangesPipedOnly)
    (went : r.Went platform version host start (r.sequence platform) result behind record)
    (unbegun : .stepStarted .package ∉ eventsOf record) : behind.files = start.files := by
  cases went with
  | passed reached =>
    rw [reached.eventsOf_eq] at unbegun
    exact absurd (stepStarted_mem_toldOf.mpr (mem_sequence_iff.mpr trivial)) unbegun
  | @failed done left x p world before failure s split reached fails =>
    rw [reached.eventsOf_failed fails, List.mem_append, List.mem_singleton, not_or] at unbegun
    obtain ⟨unpacked, other⟩ := unbegun
    have here := reached.files_of_unpacked only fun packed =>
      unpacked (stepStarted_mem_toldOf.mpr packed)
    refine holds_behind_work (only.leaves (· = start.files)) ?_ fails here
    rintro rfl
    exact other rfl

/-- Without a plan nothing is changed, and the steps end in packaging, if they get there. -/
theorem Went.unplanned (only : host.ChangesPipedOnly) {failure : Failure}
    (unplanned : r.plan start.files platform version = .error failure)
    (went : r.Went platform version host start (r.sequence platform) result behind record) :
    behind.files = start.files ∧
      (.stepStarted .package ∈ eventsOf record → result = .error failure) := by
  cases went with
  | passed reached =>
    exact absurd (mem_sequence_iff.mpr trivial) (reached.unplanned only unplanned).1
  | @failed done left x p world before other s split reached fails =>
    obtain ⟨unpacked, unchanged⟩ := reached.unplanned only unplanned
    by_cases packaging : x = .package
    · subst packaging
      rw [← unchanged] at unplanned
      rw [work_package, Work.perform_map, perform_package_of_unplanned unplanned] at fails
      cases fails
      exact ⟨unchanged, fun _ => rfl⟩
    · refine ⟨holds_behind_work (only.leaves (· = start.files)) packaging fails unchanged, ?_⟩
      intro begun
      rw [reached.eventsOf_failed fails, List.mem_append, List.mem_singleton] at begun
      rcases begun with packed | same
      · exact absurd (stepStarted_mem_toldOf.mp packed) unpacked
      · cases same
        exact absurd rfl packaging

end Release

/-- A run changes nothing but what the path of the archive denotes, whether it succeeds or fails, on
a host whose commands leave the files alone, apart from a pipe that changes its destination. Until
packaging begins it changes nothing at all. Nor does it if there is no plan for the archive: then it
fails for that reason if it gets to packaging. -/
theorem files_of_run (r : Release) (host : Host σ) (world : World σ)
    (only : host.ChangesPipedOnly) :
    let outcome := r.run.perform host world
    (.stepStarted .package ∉ eventsOf outcome.2.record →
      outcome.2.world.files = world.files) ∧
    ∀ version platform tag, .started version platform tag ∈ eventsOf outcome.2.record →
      world.files.SameBesides (r.archivePath platform version) outcome.2.world.files ∧
        ∀ failure, r.plan world.files platform version = .error failure →
          outcome.2.world.files = world.files ∧
            (.stepStarted .package ∈ eventsOf outcome.2.record → outcome.1 = .error failure) := by
  intro outcome
  have quiet := r.orderly_findPlatform.quiet host world
  have detected : (r.findPlatform.perform host world).2.world.files = world.files :=
    (Release.leaves_findPlatform (only.leaves (· = world.files))).perform rfl
  have ends := r.ends_run host world
  change r.Ends host world outcome.1 outcome.2 at ends
  generalize outcome = outcome at ends
  obtain ⟨result, session⟩ := outcome
  cases ends with
  | platformUnknown unknown =>
    rw [unknown] at quiet detected
    refine ⟨fun _ => detected, fun version platform tag told => ?_⟩
    rw [quiet] at told
    cases told
  | versionMissing known missing =>
    rw [known] at quiet detected
    refine ⟨fun _ => detected, fun version platform tag told => ?_⟩
    rw [quiet] at told
    cases told
  | @began platform version s steps behind record finds went =>
    rw [finds.platform] at quiet detected
    dsimp only at quiet detected ⊢
    rw [eventsOf_behind_quiet quiet, ← detected]
    refine ⟨fun unbegun => went.unpacked only (List.not_mem_of_not_mem_cons unbegun), ?_⟩
    intro version' platform' tag told
    cases went.eq_of_started told
    refine ⟨went.sameBesides only, fun failure unplanned => ?_⟩
    obtain ⟨unchanged, ends⟩ := went.unplanned only unplanned
    refine ⟨unchanged, fun begun => ?_⟩
    rw [ends ((List.mem_cons.mp begun).resolve_left nofun)]

/-- A run that fails in the second cleaning has made the archive, and nothing else. -/
theorem archive_alone_of_unclean_run :
    let world : World Script.Tally := ⟨sourcesWith "1.0.0", uncleanScript.freshTally⟩
    let outcome := smallRelease.run.perform uncleanScript.host world
    let archive := smallRelease.archivePath ⟨.linux, .x64⟩ "1.0.0"
    uncleanScript.host.ChangesPipedOnly ∧ outcome.1.toOption = none ∧
      world.files.SameBesides archive outcome.2.world.files ∧
      world.files.Absent archive ∧ ¬ outcome.2.world.files.Absent archive := by
  intro world outcome archive
  have only : uncleanScript.host.ChangesPipedOnly := Script.changesPipedOnly_host rfl
  have told : .started "1.0.0" ⟨.linux, .x64⟩ "avx" ∈ eventsOf outcome.2.record := by
    decide +kernel
  obtain ⟨same, -⟩ := (files_of_run smallRelease uncleanScript.host world only).2 _ _ _ told
  exact ⟨only, by decide +kernel, same, by decide +kernel, by decide +kernel⟩

end ReleaseBuilder
