/-
# Behind the build

A run whose build succeeds comes to packaging with the files as the build left them. `Built` says
of a run that it has come so far, and in which world; its events show it. From there the rest of
the run is what packaging does and, on linux and mac, a last cleaning.
-/

import ReleaseBuilder.Proofs.Release.Telling

namespace ReleaseBuilder

variable {σ : Type}

namespace Release

/-! ## Going on behind steps that were passed -/

section Passing

variable {r : Release} {platform : Platform} {version : String} {host : Host σ} {start : World σ}

/-- Behind steps that were passed the others are taken from where these led. -/
theorem Reaches.perform_take {done : List Step} {p : Progress} {here : World σ}
    {record : List Occurrence} (reached : r.Reaches platform version host start done p here record)
    (rest : List Step) :
    (r.take platform version (done ++ rest) {}).perform host start =
      (((r.take platform version rest p).perform host here).1,
        Session.followedBy ⟨here, record⟩
          ((r.take platform version rest p).perform host here).2) := by
  induction reached generalizing rest with
  | start => simp [Session.followedBy]
  | @step done p after world record x s reached succeeds ih =>
      rw [List.append_assoc, List.singleton_append, ih, take,
        Work.perform_bind host world (r.addsToRecord_take platform version rest),
        Work.perform_step host world (r.orderly_work platform version p x).adds, succeeds]
      simp [Session.followedBy, passage]

/-- The last of the steps that were passed is one that succeeded. -/
theorem Reaches.last {done : List Step} {x : Step} {after : Progress} {here : World σ}
    {record : List Occurrence}
    (reached : r.Reaches platform version host start (done ++ [x]) after here record) :
    ∃ p world before s, r.Reaches platform version host start done p world before ∧
      (r.work platform version p x).perform host world = (.ok after, s) ∧ here = s.world ∧
      record = before ++ passage x s.record := by
  generalize steps : done ++ [x] = passed at reached
  cases reached with
  | start => simp at steps
  | @step done' p after world before x' s reached succeeds =>
    obtain ⟨rfl, rfl⟩ := List.append_singleton_inj.mp steps
    exact ⟨p, world, before, s, reached, succeeds, rfl, rfl⟩

/-- Of the steps that were passed the first ones were passed before. -/
theorem Reaches.first {passed : List Step} {after : Progress} {here : World σ}
    {record : List Occurrence}
    (reached : r.Reaches platform version host start passed after here record)
    {done more : List Step} (split : passed = done ++ more) :
    ∃ p world before, r.Reaches platform version host start done p world before := by
  induction reached generalizing more with
  | start =>
      obtain ⟨rfl, -⟩ := List.append_eq_nil_iff.mp split.symm
      exact ⟨_, _, _, .start⟩
  | @step earlier p after world record x s reached succeeds ih =>
      rcases List.eq_nil_or_concat more with rfl | ⟨front, last, rfl⟩
      · rw [List.append_nil] at split
        subst split
        exact ⟨_, _, _, reached.step succeeds⟩
      · rw [List.concat_eq_append, ← List.append_assoc] at split
        exact ih (List.append_singleton_inj.mp split).1

/-- A run that has found out its platform and its version takes the steps. -/
theorem Finds.perform_run {world : World σ} {s : Session σ}
    (finds : r.Finds host world platform version s) :
    let taken := (r.take platform version (r.sequence platform) {}).perform host s.world
    r.run.perform host world = (taken.1.map (reportOf platform version),
      ⟨taken.2.world,
        s.record ++ .event (.started version platform platform.tag) :: taken.2.record⟩) := by
  intro taken
  rw [run_eq_proceed, Work.perform_bind host world fun platform =>
    r.orderly_findVersion.adds.bind (r.addsToRecord_proceed platform), finds.platform]
  simp only
  rw [Work.perform_bind host s.world (r.addsToRecord_proceed platform), perform_findVersion,
    finds.version]
  simp only [perform_proceed]
  rfl

end Passing

/-! ## The build -/

/-- What is done before the build. -/
def opening (r : Release) (platform : Platform) : List Step :=
  (if r.fetchSubmodules then [.fetchSubmodules] else []) ++
    match platform.system with
    | .windows => [.bootstrapEnvironment]
    | .linux | .mac => [.selectToolchain, .clean]

/-- What is done behind packaging. -/
def closing (platform : Platform) : List Step :=
  match platform.system with
  | .windows => []
  | .linux | .mac => [.finalClean]

theorem sequence_eq (r : Release) (platform : Platform) :
    r.sequence platform =
      r.opening platform ++ [.build] ++ .package :: closing platform := by
  rcases platform with ⟨_ | _ | _, hardware⟩ <;> simp [sequence, opening, closing]

/-- A run passes its build, for a platform and a version: the world as the build left it, and all
that is recorded by then. -/
inductive Built (r : Release) (host : Host σ) (world : World σ) (platform : Platform)
    (version : String) : World σ → List Occurrence → Prop
  | built {s : Session σ} {p : Progress} {here : World σ} {record : List Occurrence}
      (finds : r.Finds host world platform version s)
      (reached : r.Reaches platform version host s.world (r.opening platform ++ [.build]) p here
        record) :
      Built r host world platform version here
        (s.record ++ .event (.started version platform platform.tag) :: record)

variable {r : Release} {host : Host σ} {world here : World σ} {platform : Platform}
  {version : String} {record : List Occurrence}

/-- The last that is recorded is that the build command ended with success, and the world is the
one that it left. -/
theorem Built.ran (built : r.Built host world platform version here record) :
    ∃ earlier c before shown, record = earlier ++ passage .build [.ran c (.ok ()) shown] ∧
      (host.run c before).result = .ok () ∧ (host.run c before).world = here := by
  obtain @⟨found, p, _, steps, finds, reached⟩ := built
  obtain ⟨p, before, earlier, s, -, succeeds, rfl, rfl⟩ := reached.last
  rw [work_build] at succeeds
  obtain ⟨_, builds, -⟩ := Work.of_perform_map_ok succeeds
  rw [perform_build] at builds
  split at builds
  · cases builds
  · next c command =>
    rw [Work.perform_run, Prod.mk.injEq] at builds
    obtain ⟨result, rfl⟩ := builds
    refine ⟨found.record ++ .event (.started version platform platform.tag) :: earlier, c, before,
      (host.run c before).shown, ?_, result, rfl⟩
    rw [result, List.append_assoc, List.cons_append]

/-- Behind its build a run packages, and what else there is to do. -/
theorem Built.perform_run (built : r.Built host world platform version here record) :
    ∃ p : Progress,
      let rest := (r.take platform version (.package :: closing platform) p).perform host here
      r.run.perform host world = (rest.1.map (reportOf platform version),
        Session.followedBy ⟨here, record⟩ rest.2) := by
  obtain @⟨s, p, _, steps, finds, reached⟩ := built
  refine ⟨p, ?_⟩
  rw [finds.perform_run, sequence_eq, reached.perform_take]
  simp [Session.followedBy]

/-- Steps that were passed, the build among them, begin with all up to the build. -/
theorem exists_eq_opening_append {done left : List Step} {x : Step}
    (split : r.sequence platform = done ++ x :: left) (passed : .build ∈ done) :
    ∃ more, done = r.opening platform ++ [.build] ++ more := by
  have ordered := r.pairwise_rank_sequence platform
  rw [split, List.pairwise_append] at ordered
  have before := ordered.2.2 .build passed
  rw [sequence_eq] at split
  rcases List.append_eq_append_iff.mp split with ⟨more, rfl, -⟩ | ⟨more, whole, rest⟩
  · exact ⟨more, rfl⟩
  · rcases List.eq_nil_or_concat more with rfl | ⟨front, last, rfl⟩
    · exact ⟨[], by simpa using whole.symm⟩
    · -- The build would stand behind itself.
      rw [List.concat_eq_append, ← List.append_assoc] at whole
      obtain ⟨-, rfl⟩ := List.append_singleton_inj.mp whole
      have again : Step.build ∈ x :: left := by simp [rest]
      exact absurd (before .build again) (Nat.lt_irrefl _)

/-- A run passes its build exactly if it tells so. -/
theorem exists_built_iff :
    (∃ platform version here record, r.Built host world platform version here record) ↔
      .stepFinished .build ∈ eventsOf (r.run.perform host world).2.record := by
  constructor
  · rintro ⟨platform, version, here, record, built⟩
    obtain ⟨earlier, c, before, shown, rfl, -, -⟩ := built.ran
    obtain ⟨p, ran⟩ := built.perform_run
    rw [ran]
    simp [passage, eventsOf, Occurrence.event?]
  · -- What is told are the steps that were passed, so the build is one of them, and a run that has
    -- passed it has passed all before it.
    intro told
    have quiet := r.orderly_findPlatform.quiet host world
    have ends := r.ends_run host world
    generalize r.run.perform host world = outcome at ends told
    obtain ⟨result, session⟩ := outcome
    cases ends with
    | platformUnknown unknown =>
      rw [unknown] at quiet
      rw [quiet] at told
      cases told
    | versionMissing known missing =>
      rw [known] at quiet
      rw [quiet] at told
      cases told
    | @began platform version s result behind record finds went =>
      rw [finds.platform] at quiet
      rw [eventsOf_behind_quiet quiet] at told
      cases went with
      | passed reached =>
        obtain ⟨p, here, before, built⟩ := reached.first (sequence_eq r platform)
        exact ⟨platform, version, here, _, finds, built⟩
      | @failed done left x p here before failure t split reached fails =>
        rw [reached.eventsOf_failed fails] at told
        have passed : .build ∈ done := by
          simpa [toldOf, Step.told] using told
        obtain ⟨more, rfl⟩ := exists_eq_opening_append split passed
        obtain ⟨p, here, before, built⟩ := reached.first rfl
        exact ⟨platform, version, here, _, finds, built⟩

/-- Packaging that fails is the end, and packaging that succeeds is passed. -/
theorem perform_take_package (p : Progress) (rest : List Step) :
    (r.take platform version (.package :: rest) p).perform host here =
      match (r.package platform version).perform host here with
      | (.error failure, s) =>
        (.error failure, ⟨s.world, .event (.stepStarted .package) :: s.record⟩)
      | (.ok archive, s) =>
        (((r.take platform version rest { p with archive }).perform host s.world).1,
          Session.followedBy ⟨s.world, passage .package s.record⟩
            ((r.take platform version rest { p with archive }).perform host s.world).2) := by
  rw [take, Work.perform_bind host here (r.addsToRecord_take platform version rest),
    Work.perform_step host here (r.orderly_work platform version p .package).adds, work_package,
    Work.perform_map]
  rcases (r.package platform version).perform host here with ⟨failure | archive, s⟩ <;> rfl

/-- Packaging that fails ends the run. -/
theorem Built.run_of_package_error (built : r.Built host world platform version here record)
    {failure : Failure} {s : Session σ}
    (fails : (r.package platform version).perform host here = (.error failure, s)) :
    r.run.perform host world =
      (.error failure, ⟨s.world, record ++ .event (.stepStarted .package) :: s.record⟩) := by
  obtain ⟨p, ran⟩ := built.perform_run
  rw [ran, perform_take_package, fails]
  rfl

/-- Whatever packaging comes to, what it records stands behind what is recorded by then. -/
theorem Built.record_prefix (built : r.Built host world platform version here record) :
    record ++ .event (.stepStarted .package) ::
        ((r.package platform version).perform host here).2.record <+:
      (r.run.perform host world).2.record := by
  rcases packs : (r.package platform version).perform host here with ⟨failure | archive, s⟩
  · exact ⟨[], by rw [List.append_nil, built.run_of_package_error packs]⟩
  · obtain ⟨p, ran⟩ := built.perform_run
    rw [ran, perform_take_package, packs]
    simp [Session.followedBy, passage]

/-- On Windows packaging is the last step. -/
theorem Built.run_of_package (built : r.Built host world platform version here record)
    (windows : platform.system = .windows) {archive : Path} {s : Session σ}
    (packs : (r.package platform version).perform host here = (.ok archive, s)) :
    ∃ report : Report, report.archive = archive ∧
      r.run.perform host world = (.ok report, ⟨s.world, record ++ passage .package s.record⟩) := by
  obtain ⟨p, ran⟩ := built.perform_run
  have last : closing platform = [] := by
    rw [closing, windows]
  refine ⟨reportOf platform version { p with archive }, rfl, ?_⟩
  rw [ran, last, perform_take_package, packs]
  simp [Session.followedBy, take, Except.map]

end Release
end ReleaseBuilder
