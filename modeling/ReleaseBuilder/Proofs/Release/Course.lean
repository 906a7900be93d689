/-
# The course of a release

A release is a fixed sequence of steps, taken one after the other, that hand on what they
found out: the variables of the developer environment, the compilers, and the path of the
archive. This module states a run as such a sequence and says in which ways it can end:
before its first step, at a step whose work fails, or behind its last one.

Everything that is shown of a whole run is shown of one step first, and then of the steps
that were passed, by induction on how they were reached.
-/

import ReleaseBuilder.Proofs.Archive.Visible
import ReleaseBuilder.Proofs.Compilers.Selection
import ReleaseBuilder.Proofs.Release.Detection
import ReleaseBuilder.Proofs.Variables.Developer
import ReleaseBuilder.Release.Run

namespace ReleaseBuilder

variable {σ : Type}

/-- What the steps of a release have found out so far. -/
structure Progress where
  env : Variables := .empty
  compilers : Option Compilers := none
  /-- The archive, once it is written. -/
  archive : Path := ⟨""⟩

/-- The place of a step among the steps. -/
def Step.rank : Step → Nat
  | .fetchSubmodules => 0
  | .selectToolchain | .bootstrapEnvironment => 1
  | .clean => 2
  | .build => 3
  | .package => 4
  | .finalClean => 5

/-- What is told of a step that succeeds. -/
def Step.told (x : Step) : List Event :=
  [.stepStarted x, .stepFinished x]

namespace Release

/-- The version that the sources give, or why they give none. -/
def versionIn (r : Release) (files : FileSystem) : Except Failure String :=
  Version.resolve files (r.root.join r.settings.versionFile) r.settings.versionMarker

/-- The steps of a release in their order. -/
def sequence (r : Release) (platform : Platform) : List Step :=
  (if r.fetchSubmodules then [.fetchSubmodules] else []) ++
    match platform.system with
    | .windows => [.bootstrapEnvironment, .build, .package]
    | .linux | .mac => [.selectToolchain, .clean, .build, .package, .finalClean]

/-- The work of one step, and what is known behind it. -/
def work (r : Release) (platform : Platform) (version : String) (p : Progress) :
    Step → Work σ Progress
  | .fetchSubmodules => do
    (r.buildFor platform p.env).fetch
    return p
  | .selectToolchain => do
    let compilers ← Compilers.select platform.system r.settings.gnuCandidates
    return { p with compilers }
  | .bootstrapEnvironment => do
    let env ← Variables.developer r.settings r.inherited
    return { p with env }
  | .clean | .finalClean => do
    (r.buildFor platform p.env).clean
    return p
  | .build => do
    (r.buildFor platform p.env).build p.compilers
    return p
  | .package => do
    let archive ← r.package platform version
    return { p with archive }

/-- Take several steps in order. -/
def take (r : Release) (platform : Platform) (version : String) :
    List Step → Progress → Work σ Progress
  | [], p => return p
  | x :: rest, p => do
    let p ← Work.step x (r.work platform version p x)
    take r platform version rest p

/-- What is reported at the end. -/
def reportOf (platform : Platform) (version : String) (p : Progress) : Report :=
  ⟨platform, version, platform.tag, p.compilers, p.archive⟩

private theorem step_map {α β : Type} (x : Step) (work : Work σ α) (f : α → β) :
    Work.step x (f <$> work) = f <$> Work.step x work := by
  simp [Work.step]

/-- Tell that the release starts, take its steps, and report. -/
def proceed (r : Release) (platform : Platform) (version : String) : Work σ Report := do
  Work.emit (.started version platform platform.tag)
  let p ← r.take platform version (r.sequence platform) {}
  return reportOf platform version p

/-- A run is its sequence of steps, taken in order. -/
theorem run_eq_proceed (r : Release) :
    (r.run : Work σ Report) = r.findPlatform >>= fun platform =>
      r.findVersion >>= fun version => r.proceed platform version := by
  unfold run proceed fetch steps stepsInDeveloperEnvironment stepsWithMakefile
  congr 1
  funext platform
  congr 1
  funext version
  congr 1
  funext _
  rcases platform with ⟨_ | _ | _, hardware⟩ <;> cases hfetch : r.fetchSubmodules <;>
    simp [sequence, take, work, step_map, hfetch, reportOf]

/-! ## The order of the steps -/

/-- Each step stands behind those of lower rank. -/
theorem pairwise_rank_sequence (r : Release) (platform : Platform) :
    (r.sequence platform).Pairwise fun x y => x.rank < y.rank := by
  rcases platform with ⟨_ | _ | _, hardware⟩ <;> cases h : r.fetchSubmodules <;>
    simp [sequence, h, Step.rank]

theorem mem_sequence_iff {r : Release} {platform : Platform} {x : Step} :
    x ∈ r.sequence platform ↔
      match x with
      | .fetchSubmodules => r.fetchSubmodules = true
      | .bootstrapEnvironment => platform.system = .windows
      | .selectToolchain | .clean | .finalClean => platform.system ≠ .windows
      | .build | .package => True := by
  rcases platform with ⟨_ | _ | _, hardware⟩ <;> cases h : r.fetchSubmodules <;>
    cases x <;> simp [sequence, h]

/-- The steps before one are those of lower rank. -/
theorem mem_before_iff {r : Release} {platform : Platform} {done left : List Step} {x y : Step}
    (split : r.sequence platform = done ++ x :: left) :
    y ∈ done ↔ y ∈ r.sequence platform ∧ y.rank < x.rank := by
  have ordered := r.pairwise_rank_sequence platform
  rw [split, List.pairwise_append, List.pairwise_cons] at ordered
  obtain ⟨-, ⟨behind, -⟩, before⟩ := ordered
  rw [split, List.mem_append, List.mem_cons]
  constructor
  · intro member
    exact ⟨.inl member, before y member x List.mem_cons_self⟩
  · rintro ⟨member | rfl | member, lower⟩
    · exact member
    · exact absurd lower (Nat.lt_irrefl _)
    · exact absurd (behind y member) (Nat.lt_asymm lower)

/-! ## Every part of a release is orderly -/

section

variable {C : ∀ α : Type, Work σ α → Prop}

theorem composes_findPlatform (h : Work.Composes C)
    (asking : ∀ flag, (Platform.nameQuery flag).AsksForName → C String (Platform.askName flag))
    (r : Release) : C Platform r.findPlatform := by
  unfold findPlatform
  split
  · exact h.pure _
  · exact Platform.composes_detect h asking

/-- A property of a step's work is one of the calls that it makes, and of packaging. -/
theorem composes_work (h : Work.Composes C) (running : ∀ c, C Unit (Work.run c))
    (capturing : ∀ c : Command, ¬ c.AsksForName → C CapturedOutput (Work.capture c))
    (asking : ∀ compiler family, C Bool (Compilers.reports compiler family)) (r : Release)
    (platform : Platform) (version : String) (p : Progress) (x : Step)
    (packaging : x = .package → C Path (r.package platform version)) :
    C Progress (r.work platform version p x) := by
  have cleaning (b : Build) : C Unit b.clean := by
    unfold Build.clean
    split
    · exact h.pure _
    · exact running _
    · exact running _
  cases x with
  | fetchSubmodules => exact h.bind (running _) fun _ => h.pure _
  | selectToolchain =>
    exact h.bind (Compilers.composes_select h asking _ _) fun _ => h.pure _
  | bootstrapEnvironment =>
    exact h.bind (Variables.composes_developer h capturing _ _) fun _ => h.pure _
  | clean | finalClean => exact h.bind (cleaning _) fun _ => h.pure _
  | build =>
    exact h.bind (h.bind (h.ofExcept _) fun _ => running _) fun _ => h.pure _
  | package => exact h.bind (packaging rfl) fun _ => h.pure _

end

theorem orderly_findPlatform (r : Release) : (r.findPlatform : Work σ Platform).Orderly :=
  composes_findPlatform Work.composes_orderly (fun _ => Platform.orderly_askName) r

theorem orderly_findVersion (r : Release) : (r.findVersion : Work σ String).Orderly :=
  Work.orderly_files.bind fun _ => Work.orderly_ofExcept _

theorem perform_findVersion (r : Release) (host : Host σ) (world : World σ) :
    r.findVersion.perform host world = (r.versionIn world.files, ⟨world, []⟩) := by
  have one_look : (r.findVersion : Work σ String) =
      Work.files >>= fun files => Work.ofExcept (r.versionIn files) := rfl
  rw [one_look, Work.perform_bind host world fun files => Work.addsToRecord_ofExcept _,
    Work.perform_files]
  simp [Session.followedBy]

theorem orderly_package (r : Release) (platform : Platform) (version : String) :
    (r.package platform version : Work σ Path).Orderly := by
  refine Work.orderly_files.bind fun files => (Work.orderly_ofExcept _).bind fun plan => ?_
  unfold Archive.package
  split
  · exact (Work.orderly_onFiles _).bind fun _ => Work.orderly_pure _
  · exact (Work.orderly_pipe _ _ _).bind fun _ => Work.orderly_pure _
  · exact (Work.orderly_pipe _ _ _).bind fun _ => Work.orderly_pure _

theorem orderly_work (r : Release) (platform : Platform) (version : String) (p : Progress)
    (x : Step) : (r.work platform version p x : Work σ Progress).Orderly :=
  composes_work Work.composes_orderly Work.orderly_run (fun _ => Work.orderly_capture)
    Compilers.orderly_reports r platform version p x fun _ => orderly_package r platform version

theorem addsToRecord_take (r : Release) (platform : Platform) (version : String)
    (steps : List Step) (p : Progress) :
    (r.take platform version steps p : Work σ Progress).AddsToRecord := by
  induction steps generalizing p with
  | nil => exact Work.addsToRecord_pure p
  | cons x rest ih => exact ((r.orderly_work platform version p x).adds.step x).bind ih

theorem addsToRecord_proceed (r : Release) (platform : Platform) (version : String) :
    (r.proceed platform version : Work σ Report).AddsToRecord :=
  (Work.addsToRecord_emit _).bind fun _ =>
    (r.addsToRecord_take platform version _ _).bind fun _ => Work.addsToRecord_pure _

theorem perform_proceed (r : Release) (host : Host σ) (world : World σ) (platform : Platform)
    (version : String) :
    (r.proceed platform version).perform host world =
      (((r.take platform version (r.sequence platform) {}).perform host world).1.map
          (reportOf platform version),
        ⟨((r.take platform version (r.sequence platform) {}).perform host world).2.world,
          .event (.started version platform platform.tag) ::
            ((r.take platform version (r.sequence platform) {}).perform host world).2.record⟩) := by
  have adds := r.addsToRecord_take platform version (r.sequence platform) {} (σ := σ)
  rw [Work.perform_eq_within, proceed, Work.within_bind, Work.within_emit]
  simp only [Work.within_bind, adds host, Session.followedBy_world]
  rcases (r.take platform version (r.sequence platform) {}).perform host world with ⟨_ | p, s⟩ <;>
    rfl

/-! ## What the work of a step comes to -/

section Work

variable (r : Release) (platform : Platform) (version : String) (p : Progress)

theorem work_fetchSubmodules :
    (r.work platform version p .fetchSubmodules : Work σ Progress) =
      (fun _ => p) <$> Work.run (r.buildFor platform p.env).fetchCommand := by
  simp [work, Build.fetch]

theorem work_selectToolchain :
    (r.work platform version p .selectToolchain : Work σ Progress) =
      (fun compilers => { p with compilers }) <$>
        Compilers.select platform.system r.settings.gnuCandidates := by
  simp [work]

theorem work_bootstrapEnvironment :
    (r.work platform version p .bootstrapEnvironment : Work σ Progress) =
      (fun env => { p with env }) <$> Variables.developer r.settings r.inherited := by
  simp [work]

theorem work_clean : (r.work platform version p .clean : Work σ Progress) =
    (fun _ => p) <$> (r.buildFor platform p.env).clean := by
  simp [work]

theorem work_finalClean : (r.work platform version p .finalClean : Work σ Progress) =
    (fun _ => p) <$> (r.buildFor platform p.env).clean := by
  simp [work]

theorem work_build : (r.work platform version p .build : Work σ Progress) =
    (fun _ => p) <$> (r.buildFor platform p.env).build p.compilers := by
  simp [work]

theorem work_package : (r.work platform version p .package : Work σ Progress) =
    (fun archive => { p with archive }) <$> r.package platform version := by
  simp [work]

variable {platform} (host : Host σ) (world : World σ)

/-- On Windows there is nothing to clean. -/
theorem clean_of_windows {b : Build} (h : b.platform.system = .windows) :
    (b.clean : Work σ Unit) = pure () := by
  simp [Build.clean, h]

/-- Elsewhere cleaning is one command. -/
theorem perform_clean {b : Build} (h : b.platform.system ≠ .windows) :
    b.clean.perform host world = (Work.run b.cleanCommand).perform host world := by
  unfold Build.clean
  split
  · next windows => exact absurd windows h
  · rfl
  · rfl

theorem buildCommand_of_windows {b : Build} (h : b.platform.system = .windows)
    (compilers : Option Compilers) : b.buildCommand compilers = .ok b.solutionCommand := by
  simp [Build.buildCommand, h]

theorem buildCommand_some {b : Build} (h : b.platform.system ≠ .windows) (pair : Compilers) :
    b.buildCommand (some pair) = .ok (b.makeCommand pair) := by
  cases system : b.platform.system with
  | windows => exact absurd system h
  | linux | mac => simp [Build.buildCommand, system]

theorem buildCommand_none {b : Build} (h : b.platform.system ≠ .windows) :
    b.buildCommand none = .error (.toolchainMismatch "<none>" "<none>") := by
  cases system : b.platform.system with
  | windows => exact absurd system h
  | linux | mac => simp [Build.buildCommand, system]

theorem perform_build (b : Build) (compilers : Option Compilers) :
    (b.build compilers).perform host world =
      match b.buildCommand compilers with
      | .error failure => (.error failure, ⟨world, []⟩)
      | .ok c => (Work.run c).perform host world := by
  rw [Build.build]
  cases b.buildCommand compilers <;> rfl

/-- A plan of a directory packs its visible entries, of which there is at least one. -/
theorem ofDirectory_eq_ok {files : FileSystem} {output dir : Path} {plan : Archive.Plan}
    (h : Archive.Plan.ofDirectory files output dir = .ok plan) :
    ∃ entries, files.list dir = .ok entries ∧ Archive.visibleMembers dir entries ≠ [] ∧
      plan = ⟨output, dir, Archive.visibleMembers dir entries⟩ := by
  unfold Archive.Plan.ofDirectory at h
  split at h
  · cases h
  · split at h
    · cases h
    · next entries listed =>
      dsimp only at h
      split at h
      · cases h
      · next some_member =>
        cases h
        refine ⟨entries, listed, fun none_visible => some_member ?_, rfl⟩
        rw [none_visible]
        rfl

theorem ofFiles_eq_ok {files : FileSystem} {output dir : Path} {names : List String}
    {plan : Archive.Plan} (h : Archive.Plan.ofFiles files output dir names = .ok plan) :
    ∃ members, plan = ⟨output, dir, members⟩ := by
  unfold Archive.Plan.ofFiles at h
  split at h
  · cases h
    exact ⟨_, rfl⟩
  · cases h

/-- Every archive is written at the path of the release's archive. -/
theorem output_of_plan {r : Release} {files : FileSystem} {platform : Platform}
    {version : String} {plan : Archive.Plan} (h : r.plan files platform version = .ok plan) :
    plan.output = r.archivePath platform version := by
  unfold Release.plan at h
  dsimp only at h
  split at h
  · obtain ⟨members, rfl⟩ := ofFiles_eq_ok h
    rfl
  · obtain ⟨names, -, -, rfl⟩ := ofDirectory_eq_ok h
    rfl
  · obtain ⟨names, -, -, rfl⟩ := ofDirectory_eq_ok h
    rfl

/-- Packaging plans the archive with the files as they are, and packs it. -/
theorem perform_package :
    (r.package platform version).perform host world =
      match r.plan world.files platform version with
      | .error failure => (.error failure, ⟨world, []⟩)
      | .ok plan =>
        (Archive.package platform.system r.settings.compressor plan).perform host world := by
  have unfolded : (r.package platform version : Work σ Path) =
      Work.files >>= fun files =>
        Work.ofExcept (r.plan files platform version) >>= fun plan =>
          Archive.package platform.system r.settings.compressor plan := rfl
  rw [unfolded, Work.perform_eq_within, Work.within_bind, Work.within_files]
  simp only [Work.within_bind, Work.within_ofExcept]
  cases r.plan world.files platform version <;> rfl

/-- On linux and mac an archive is packed by commands. -/
theorem packing_by_commands {system : OperatingSystem} (h : system ≠ .windows)
    (compressor : String) (plan : Archive.Plan) :
    (Archive.package system compressor plan : Work σ Path) =
      (fun _ => plan.output) <$>
        Work.pipe plan.collector { program := compressor } plan.output := by
  cases system with
  | windows => exact absurd rfl h
  | linux | mac => simp [Archive.package]

/-- On Windows an archive is written directly. -/
theorem packing_directly (compressor : String) (plan : Archive.Plan) :
    (Archive.package .windows compressor plan : Work σ Path) =
      (fun _ => plan.output) <$> Work.onFiles fun files => plan.write files := by
  simp [Archive.package]

variable {r version p host world}

/-- What is known behind a step that succeeds. -/
theorem known_of_work {x : Step} {after : Progress} {s : Session σ}
    (h : (r.work platform version p x).perform host world = (.ok after, s)) :
    match x with
    | .selectToolchain => ∃ compilers,
        (Compilers.select platform.system r.settings.gnuCandidates).perform host world =
          (.ok compilers, s) ∧ after = { p with compilers }
    | .bootstrapEnvironment => ∃ env,
        (Variables.developer r.settings r.inherited).perform host world = (.ok env, s) ∧
          after = { p with env }
    | .package => ∃ archive,
        (r.package platform version).perform host world = (.ok archive, s) ∧
          after = { p with archive }
    | .fetchSubmodules | .clean | .build | .finalClean => after = p := by
  cases x with
  | selectToolchain =>
    rw [work_selectToolchain] at h
    obtain ⟨compilers, selected, rfl⟩ := Work.of_perform_map_ok h
    exact ⟨compilers, selected, rfl⟩
  | bootstrapEnvironment =>
    rw [work_bootstrapEnvironment] at h
    obtain ⟨env, prepared, rfl⟩ := Work.of_perform_map_ok h
    exact ⟨env, prepared, rfl⟩
  | package =>
    rw [work_package] at h
    obtain ⟨archive, packed, rfl⟩ := Work.of_perform_map_ok h
    exact ⟨archive, packed, rfl⟩
  | fetchSubmodules =>
    rw [work_fetchSubmodules] at h
    obtain ⟨-, -, rfl⟩ := Work.of_perform_map_ok h
    rfl
  | clean =>
    rw [work_clean] at h
    obtain ⟨-, -, rfl⟩ := Work.of_perform_map_ok h
    rfl
  | build =>
    rw [work_build] at h
    obtain ⟨-, -, rfl⟩ := Work.of_perform_map_ok h
    rfl
  | finalClean =>
    rw [work_finalClean] at h
    obtain ⟨-, -, rfl⟩ := Work.of_perform_map_ok h
    rfl

/-- The compilers are found out by their selection only. -/
theorem compilers_of_work {x : Step} {after : Progress} {s : Session σ}
    (h : (r.work platform version p x).perform host world = (.ok after, s))
    (other : x ≠ .selectToolchain) : after.compilers = p.compilers := by
  have known := known_of_work h
  cases x with
  | selectToolchain => exact absurd rfl other
  | bootstrapEnvironment | package =>
    obtain ⟨_, -, rfl⟩ := known
    rfl
  | fetchSubmodules | clean | build | finalClean =>
    obtain rfl : after = p := known
    rfl

/-- The archive is known from packaging only. -/
theorem archive_of_work {x : Step} {after : Progress} {s : Session σ}
    (h : (r.work platform version p x).perform host world = (.ok after, s))
    (other : x ≠ .package) : after.archive = p.archive := by
  have known := known_of_work h
  cases x with
  | package => exact absurd rfl other
  | bootstrapEnvironment | selectToolchain =>
    obtain ⟨_, -, rfl⟩ := known
    rfl
  | fetchSubmodules | clean | build | finalClean =>
    obtain rfl : after = p := known
    rfl

/-- What packaging gives is the path of the release's archive. -/
theorem eq_archivePath_of_package {archive : Path} {s : Session σ}
    (h : (r.package platform version).perform host world = (.ok archive, s)) :
    archive = r.archivePath platform version := by
  rw [perform_package] at h
  cases planned : r.plan world.files platform version with
  | error failure =>
    rw [planned] at h
    cases h
  | ok plan =>
    rw [planned] at h
    rw [← output_of_plan planned]
    by_cases windows : platform.system = .windows
    · rw [windows] at h
      simp only [packing_directly] at h
      obtain ⟨-, -, same⟩ := Work.of_perform_map_ok h
      exact same.symm
    · simp only [packing_by_commands windows] at h
      obtain ⟨-, -, same⟩ := Work.of_perform_map_ok h
      exact same.symm

end Work

/-! ## The steps that were passed -/

section Reaching

variable (r : Release) (platform : Platform) (version : String) (host : Host σ)

/-- What is recorded of a step that succeeds with `record` as the record of its work. -/
def passage (x : Step) (record : List Occurrence) : List Occurrence :=
  .event (.stepStarted x) :: record ++ [.event (.stepFinished x)]

/-- From the world `start`, steps are taken one after the other and all succeed: which steps
these are, what is known behind them, the world behind them, and what they recorded. -/
inductive Reaches (start : World σ) :
    List Step → Progress → World σ → List Occurrence → Prop
  | start : Reaches start [] {} start []
  | step {done : List Step} {p after : Progress} {world : World σ} {record : List Occurrence}
      {x : Step} {s : Session σ} (reached : Reaches start done p world record)
      (succeeds : (r.work platform version p x).perform host world = (.ok after, s)) :
      Reaches start (done ++ [x]) after s.world (record ++ passage x s.record)

/-- What becomes of `steps` that are taken from the world `start`: one of them fails, and those
before it are passed, or all are passed. -/
inductive Went (start : World σ) (steps : List Step) :
    Except Failure Progress → World σ → List Occurrence → Prop
  | failed {done left : List Step} {x : Step} {p : Progress} {world : World σ}
      {record : List Occurrence} {failure : Failure} {s : Session σ}
      (split : steps = done ++ x :: left)
      (reached : r.Reaches platform version host start done p world record)
      (fails : (r.work platform version p x).perform host world = (.error failure, s)) :
      Went start steps (.error failure) s.world (record ++ .event (.stepStarted x) :: s.record)
  | passed {p : Progress} {world : World σ} {record : List Occurrence}
      (reached : r.Reaches platform version host start steps p world record) :
      Went start steps (.ok p) world record

variable {r platform version host}

/-- Only the developer environment brings variables. -/
theorem Reaches.env_eq_empty {start : World σ} {done : List Step} {p : Progress} {world : World σ}
    {record : List Occurrence} (reached : r.Reaches platform version host start done p world record)
    (h : .bootstrapEnvironment ∉ done) : p.env = .empty := by
  induction reached with
  | start => rfl
  | @step done p after world record x s reached succeeds ih =>
    rw [List.mem_append, List.mem_singleton, not_or] at h
    have known := known_of_work succeeds
    cases x with
    | bootstrapEnvironment => exact absurd rfl h.2
    | selectToolchain | package =>
      obtain ⟨_, -, rfl⟩ := known
      exact ih h.1
    | fetchSubmodules | clean | build | finalClean =>
      obtain rfl : after = p := known
      exact ih h.1

/-- Taking steps behind others that were passed. -/
theorem Reaches.went {start : World σ} {done : List Step} {p : Progress} {world : World σ}
    {record : List Occurrence} (reached : r.Reaches platform version host start done p world record)
    (rest : List Step) :
    r.Went platform version host start (done ++ rest)
      ((r.take platform version rest p).perform host world).1
      ((r.take platform version rest p).perform host world).2.world
      (record ++ ((r.take platform version rest p).perform host world).2.record) := by
  induction rest generalizing done p world record with
  | nil =>
      have passed : r.Went platform version host start done (.ok p) world record := .passed reached
      simpa [take] using passed
  | cons x rest ih =>
      rw [take, Work.perform_bind host world (r.addsToRecord_take platform version rest),
        Work.perform_step host world (r.orderly_work platform version p x).adds]
      rcases outcome : (r.work platform version p x).perform host world with ⟨failure | after, s⟩
      · exact .failed rfl reached outcome
      · have went := ih (reached.step outcome)
        simpa [passage] using went

end Reaching

/-! ## How a run ends -/

/-- What a release finds out before its first step, and the session in which it does. -/
structure Finds (r : Release) (host : Host σ) (world : World σ) (platform : Platform)
    (version : String) (s : Session σ) : Prop where
  platform : r.findPlatform.perform host world = (.ok platform, s)
  version : r.versionIn s.world.files = .ok version

/-- The ways in which a run can end. -/
inductive Ends (r : Release) (host : Host σ) (world : World σ) :
    Except Failure Report → Session σ → Prop
  | platformUnknown {failure : Failure} {s : Session σ}
      (unknown : r.findPlatform.perform host world = (.error failure, s)) :
      Ends r host world (.error failure) s
  | versionMissing {platform : Platform} {failure : Failure} {s : Session σ}
      (known : r.findPlatform.perform host world = (.ok platform, s))
      (missing : r.versionIn s.world.files = .error failure) :
      Ends r host world (.error failure) s
  | began {platform : Platform} {version : String} {s : Session σ}
      {result : Except Failure Progress} {behind : World σ} {record : List Occurrence}
      (finds : r.Finds host world platform version s)
      (went : r.Went platform version host s.world (r.sequence platform) result behind record) :
      Ends r host world (result.map (reportOf platform version))
        ⟨behind, s.record ++ .event (.started version platform platform.tag) :: record⟩

/-- Every run ends in one of the ways. -/
theorem ends_run (r : Release) (host : Host σ) (world : World σ) :
    r.Ends host world (r.run.perform host world).1 (r.run.perform host world).2 := by
  rcases outcome : r.run.perform host world with ⟨result, session⟩
  rw [run_eq_proceed] at outcome
  rcases Work.perform_bind_cases (fun platform =>
      r.orderly_findVersion.adds.bind (r.addsToRecord_proceed platform)) outcome with
    ⟨failure, unknown, rfl⟩ | ⟨platform, s, t, known, goesOn, rfl⟩
  · exact .platformUnknown unknown
  · rcases Work.perform_bind_cases (r.addsToRecord_proceed platform) goesOn with
      ⟨failure, missing, rfl⟩ | ⟨version, u, v, found, tells, rfl⟩
    · rw [perform_findVersion, Prod.mk.injEq] at missing
      obtain ⟨missing, rfl⟩ := missing
      simpa [Session.followedBy] using Ends.versionMissing known missing
    · rw [perform_findVersion, Prod.mk.injEq] at found
      obtain ⟨found, rfl⟩ := found
      have atStart : r.Reaches platform version host s.world [] {} s.world [] := .start
      rw [perform_proceed, Prod.mk.injEq] at tells
      obtain ⟨rfl, rfl⟩ := tells
      exact .began ⟨known, found⟩ (atStart.went (r.sequence platform))

/-- Without a platform the run comes to nothing else. -/
theorem run_of_platformUnknown {r : Release} {host : Host σ} {world : World σ} {failure : Failure}
    {s : Session σ} (unknown : r.findPlatform.perform host world = (.error failure, s)) :
    r.run.perform host world = (.error failure, s) := by
  have ends := r.ends_run host world
  generalize r.run.perform host world = outcome at ends
  obtain ⟨result, session⟩ := outcome
  cases ends with
  | platformUnknown unknown' =>
    cases unknown.symm.trans unknown'
    rfl
  | versionMissing known => cases unknown.symm.trans known
  | began finds => cases unknown.symm.trans finds.platform

/-- Without a version the run comes to nothing beyond the queries for the platform. -/
theorem run_of_versionMissing {r : Release} {host : Host σ} {world : World σ}
    {platform : Platform} {failure : Failure} {s : Session σ}
    (known : r.findPlatform.perform host world = (.ok platform, s))
    (missing : r.versionIn s.world.files = .error failure) :
    r.run.perform host world = (.error failure, s) := by
  have ends := r.ends_run host world
  generalize r.run.perform host world = outcome at ends
  obtain ⟨result, session⟩ := outcome
  cases ends with
  | platformUnknown unknown => cases known.symm.trans unknown
  | versionMissing known' missing' =>
    cases known.symm.trans known'
    cases missing.symm.trans missing'
    rfl
  | began finds =>
    cases known.symm.trans finds.platform
    cases missing.symm.trans finds.version

end Release
end ReleaseBuilder
