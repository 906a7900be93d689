/-
# The plan of a run's commands

Which commands a release runs, and in which order, is fixed up to a few things that it finds
out on the way: the platform, the compilers, the developer environment, and what the build
left to be packed. Given these findings the plan below lists every command of a run that
succeeds. A run that fails has gone along the plan up to the call that failed.

The findings are not made up behind the run: `Findings.Fit` says where each of them stands in
what the run recorded.
-/

import Mathlib.Control.Monad.Basic
import ReleaseBuilder.Host.Scripted
import ReleaseBuilder.Proofs.Release.Course

namespace ReleaseBuilder

variable {σ α β : Type}

/-- What a run finds out that its commands depend on. -/
structure Findings where
  platform : Platform
  /-- What selecting the compilers records. -/
  selection : List Occurrence := []
  compilers : Compilers := .standard
  /-- The script that sets up the developer environment. -/
  script : Path := ⟨""⟩
  env : Variables := .empty
  /-- The names that are packed. -/
  members : List String := []

/-! ## The plan -/

namespace Release

/-- The queries that find out the platform. -/
def detectionCommands (r : Release) : List Invocation :=
  if r.platform.isSome then []
  else [⟨.capture, { program := "uname", args := ["-s"] }⟩,
    ⟨.capture, { program := "uname", args := ["-m"] }⟩]

/-- The commands of a step. -/
def commandsOf (r : Release) (f : Findings) : Step → List Invocation
  | .fetchSubmodules =>
    [⟨.run, {
      program := "git"
      args := ["submodule", "update", "--init", "--recursive",
        "--jobs=" ++ toString r.settings.submoduleJobs.toNat]
      dir := some r.root }⟩]
  | .selectToolchain => commandLog f.selection
  | .bootstrapEnvironment =>
    [⟨.capture, {
      program := Variables.expand r.settings.vswherePath r.inherited
      args := ["-latest", "-property", "installationPath"] }⟩,
    ⟨.capture, { program := "cmd", args := ["/C", "call", f.script.shown, "&&", "set"] }⟩]
  | .clean | .finalClean =>
    [⟨.run, {
      program := f.platform.system.makeProgram
      args := ["clean"]
      dir := some r.root }⟩]
  | .build =>
    match f.platform.system with
    | .windows =>
      [⟨.run, {
        program := "devenv"
        args := [r.settings.solution, "/Build", r.settings.windowsConfiguration]
        dir := some r.root
        env := f.env.entries }⟩]
    | .linux | .mac =>
      [⟨.run, {
        program := f.platform.system.makeProgram
        args := ["CXX=" ++ f.compilers.cxx, "CC=" ++ f.compilers.cc,
          "PLATFORM=" ++ (if r.settings.platformMode = .generic then "generic"
            else f.platform.tag),
          "STATIC_LINK=true", r.jobsFlag]
        dir := some r.root }⟩]
  | .package =>
    match f.platform.system with
    | .windows => []
    | .linux | .mac =>
      [⟨.producer, {
        program := "tar"
        args := "-c" :: f.members
        dir := some (r.root.join r.settings.unixOutputDir) }⟩,
      ⟨.consumer, { program := r.settings.compressor }⟩]

/-- Every command of a run that succeeds, in order. -/
def commandPlan (r : Release) (f : Findings) : List Invocation :=
  r.detectionCommands ++ (r.sequence f.platform).flatMap (r.commandsOf f)

end Release

/-! ## Logs that follow a plan -/

/-- The commands of a record are the first of a plan, and all of it if the result is no
failure. -/
def Follows (record : List Occurrence) (result : Except Failure α) (plan : List Invocation) :
    Prop :=
  commandLog record <+: plan ∧ ∀ a, result = .ok a → commandLog record = plan

theorem follows_of_eq {record : List Occurrence} {plan : List Invocation}
    (result : Except Failure α) (h : commandLog record = plan) : Follows record result plan :=
  ⟨h ▸ List.prefix_rfl, fun _ _ => h⟩

theorem follows_of_prefix {record : List Occurrence} {plan : List Invocation}
    {failure : Failure} (h : commandLog record <+: plan) :
    Follows record (.error failure : Except Failure α) plan :=
  ⟨h, fun _ same => nomatch same⟩

theorem Follows.map {record : List Occurrence} {result : Except Failure α}
    {plan : List Invocation} (h : Follows record result plan) (f : α → β) :
    Follows record (result.map f) plan := by
  cases result with
  | error failure => exact follows_of_prefix h.1
  | ok a => exact follows_of_eq _ (h.2 a rfl)

theorem ne_event_of_quiet {record : List Occurrence} (quiet : eventsOf record = [])
    {o : Occurrence} (member : o ∈ record) (e : Event) : o ≠ .event e := by
  rintro rfl
  have told : e ∈ eventsOf record := List.mem_filterMap.mpr ⟨_, member, rfl⟩
  rw [quiet] at told
  cases told

/-- There is a value that a result gives, if it gives one. -/
theorem exists_value_of_ok {ε : Type} (result : Except ε α) (otherwise : α) :
    ∃ a, ∀ found, result = .ok found → a = found := by
  cases result with
  | error failure => exact ⟨otherwise, fun _ same => nomatch same⟩
  | ok a => exact ⟨a, fun _ same => by cases same; rfl⟩

/-! ## Findings -/

open Compilers in
/-- The findings are those of a run that has gone on from the world `start` and recorded
`record`. Of what was not begun nothing is said. -/
structure Findings.Fit (f : Findings) (r : Release) (version : String) (host : Host σ)
    (start : World σ) (record : List Occurrence) : Prop where
  /-- The selection is one that can go that way, and the compilers are its result. -/
  selection : f.platform.system ≠ .windows → ∃ result,
    Selected r.settings.gnuCandidates f.platform.system f.selection result ∧
      ∀ pair, result = .ok (some pair) → f.compilers = pair
  /-- It is the one that the run recorded. -/
  selected : .event (.stepStarted .selectToolchain) ∈ record → f.selection <:+: record
  /-- The script is in the installation that was named, and the variables are those that it
  printed. -/
  prepared : .event (.stepStarted .bootstrapEnvironment) ∈ record → ∃ preparation result,
    preparation <:+: record ∧
      Variables.Prepared r.settings r.inherited preparation result ∧
      commandLog preparation <+: r.commandsOf f .bootstrapEnvironment ∧
      ∀ env, result = .ok env → f.env = env
  /-- The members are the visible names that the steps before packaging left in the output
  directory. -/
  members : .event (.stepStarted .package) ∈ record → ∃ done left p world before,
    r.sequence f.platform = done ++ .package :: left ∧
      r.Reaches f.platform version host start done p world before ∧ before <:+: record ∧
      ∀ entries, world.files.list (r.root.join r.settings.unixOutputDir) = .ok entries →
        f.members = Archive.visibleNames entries

namespace Findings

variable {r : Release} {version : String} {host : Host σ} {start : World σ}

/-- What is recorded before and behind does not matter, if no step starts there that finds
something out. -/
theorem Fit.extend {f : Findings} {record : List Occurrence}
    (fit : f.Fit r version host start record) (before after : List Occurrence)
    (h : ∀ o ∈ before ++ after, o ≠ .event (.stepStarted .selectToolchain) ∧
      o ≠ .event (.stepStarted .bootstrapEnvironment) ∧ o ≠ .event (.stepStarted .package)) :
    f.Fit r version host start (before ++ record ++ after) := by
  have within : record <:+: before ++ record ++ after := ⟨before, after, rfl⟩
  have begun : ∀ {x}, .event (.stepStarted x) ∈ before ++ record ++ after →
      (∀ o ∈ before ++ after, o ≠ .event (.stepStarted x)) →
      .event (.stepStarted x) ∈ record := by
    intro x member absent
    rw [List.append_assoc, List.mem_append, List.mem_append] at member
    rcases member with member | member | member
    · exact absurd rfl (absent _ (List.mem_append_left _ member))
    · exact member
    · exact absurd rfl (absent _ (List.mem_append_right _ member))
  constructor
  · exact fit.selection
  · intro member
    exact (fit.selected (begun member fun o ho => (h o ho).1)).trans within
  · intro member
    obtain ⟨preparation, result, part, prepared, log, known⟩ :=
      fit.prepared (begun member fun o ho => (h o ho).2.1)
    exact ⟨preparation, result, part.trans within, prepared, log, known⟩
  · intro member
    obtain ⟨done, left, p, world, recorded, split, reached, part, known⟩ :=
      fit.members (begun member fun o ho => (h o ho).2.2)
    exact ⟨done, left, p, world, recorded, split, reached, part.trans within, known⟩

/-- Before its first step a run has found out nothing that could be contradicted. -/
theorem exists_fit_nil (r : Release) (platform : Platform) (version : String) (host : Host σ)
    (start : World σ) :
    ∃ f : Findings, f.platform = platform ∧ f.Fit r version host start [] := by
  by_cases windows : platform.system = .windows
  · refine ⟨{ platform }, rfl, ⟨fun h => absurd windows h, ?_, ?_, ?_⟩⟩ <;>
      exact fun member => nomatch member
  · obtain ⟨selection, selected⟩ :=
      Compilers.selected_of_none_installed r.settings.gnuCandidates windows
    refine ⟨{ platform, selection }, rfl, ⟨fun _ => ⟨_, selected, fun _ same => nomatch same⟩,
      ?_, ?_, ?_⟩⟩ <;> exact fun member => nomatch member

open Compilers in
/-- A step begins, and may find something out. Each finding is the one from before, or the step
is the one that finds it out and `added` shows it. -/
theorem Fit.begin {f g : Findings} {record added : List Occurrence} {x : Step}
    (fit : f.Fit r version host start record) (platform : g.platform = f.platform)
    (quiet : eventsOf added = [])
    (selection : (x ≠ .selectToolchain ∧ g.selection = f.selection ∧ g.compilers = f.compilers) ∨
      g.selection <:+: added ∧ ∃ result,
        Selected r.settings.gnuCandidates g.platform.system g.selection result ∧
          ∀ pair, result = .ok (some pair) → g.compilers = pair)
    (prepared : (x ≠ .bootstrapEnvironment ∧ g.script = f.script ∧ g.env = f.env) ∨
      ∃ preparation result, preparation <:+: added ∧
        Variables.Prepared r.settings r.inherited preparation result ∧
        commandLog preparation <+: r.commandsOf g .bootstrapEnvironment ∧
        ∀ env, result = .ok env → g.env = env)
    (members : (x ≠ .package ∧ g.members = f.members) ∨ ∃ done left p world before,
      r.sequence g.platform = done ++ .package :: left ∧
        r.Reaches g.platform version host start done p world before ∧ before <:+: record ∧
        ∀ entries, world.files.list (r.root.join r.settings.unixOutputDir) = .ok entries →
          g.members = Archive.visibleNames entries) :
    g.Fit r version host start (record ++ .event (.stepStarted x) :: added) := by
  have inRecord : record <:+: record ++ .event (.stepStarted x) :: added :=
    (List.prefix_append _ _).isInfix
  have inAdded : added <:+: record ++ .event (.stepStarted x) :: added :=
    ((List.suffix_cons _ _).trans (List.suffix_append _ _)).isInfix
  have begun : ∀ {y : Step}, x ≠ y →
      .event (.stepStarted y) ∈ record ++ .event (.stepStarted x) :: added →
      .event (.stepStarted y) ∈ record := by
    intro y other member
    rw [List.mem_append, List.mem_cons] at member
    rcases member with member | same | member
    · exact member
    · cases same
      exact absurd rfl other
    · exact absurd rfl (ne_event_of_quiet quiet member _)
  constructor
  · rcases selection with ⟨-, same, compilers⟩ | ⟨-, selected⟩
    · rw [same, compilers, platform]
      exact fit.selection
    · exact fun _ => selected
  · intro member
    rcases selection with ⟨other, same, -⟩ | ⟨part, -⟩
    · rw [same]
      exact (fit.selected (begun other member)).trans inRecord
    · exact part.trans inAdded
  · intro member
    rcases prepared with ⟨other, script, env⟩ | ⟨preparation, result, part, prepared, rest⟩
    · obtain ⟨preparation, result, part, prepared, log, known⟩ :=
        fit.prepared (begun other member)
      refine ⟨preparation, result, part.trans inRecord, prepared, ?_, ?_⟩
      · simpa only [Release.commandsOf, script] using log
      · rw [env]
        exact known
    · exact ⟨preparation, result, part.trans inAdded, prepared, rest⟩
  · intro member
    rcases members with ⟨other, same⟩ | ⟨done, left, p, world, before, split, reached, part, known⟩
    · rw [same, platform]
      obtain ⟨done, left, p, world, before, split, reached, part, known⟩ :=
        fit.members (begun other member)
      exact ⟨done, left, p, world, before, split, reached, part.trans inRecord, known⟩
    · exact ⟨done, left, p, world, before, split, reached, part.trans inRecord, known⟩

/-- Findings that go with the steps that were passed: they explain the commands so far, and what
is known is what they say. -/
structure Tracks (f : Findings) (r : Release) (version : String) (host : Host σ)
    (start : World σ) (done : List Step) (p : Progress) (record : List Occurrence) : Prop where
  fit : f.Fit r version host start record
  commands : commandLog record = done.flatMap (r.commandsOf f)
  compilers : .selectToolchain ∈ done → p.compilers = some f.compilers
  env : .bootstrapEnvironment ∈ done → p.env = f.env

end Findings

/-! ## One step of the plan -/

section Step

variable {r : Release} {f : Findings} {version : String} {host : Host σ} {start world : World σ}
  {done left : List Step} {p : Progress} {record : List Occurrence} {x : Step}
  {result : Except Failure Progress} {s : Session σ}

theorem follows_run (c : Command) (known : Unit → Progress) :
    Follows ((known <$> Work.run c).perform host world).2.record
      ((known <$> Work.run c).perform host world).1 [⟨.run, c⟩] := by
  rw [Work.perform_map, Work.perform_run]
  exact follows_of_eq _ rfl

theorem follows_fetch (version : String) (host : Host σ) (world : World σ) (h : p.env = .empty) :
    Follows ((r.work f.platform version p .fetchSubmodules).perform host world).2.record
      ((r.work f.platform version p .fetchSubmodules).perform host world).1
      (r.commandsOf f .fetchSubmodules) := by
  rw [Release.work_fetchSubmodules, h]
  exact follows_run _ _

theorem follows_clean (host : Host σ) (world : World σ) (h : p.env = .empty)
    (unix : f.platform.system ≠ .windows) :
    Follows (((fun _ => p) <$> (r.buildFor f.platform p.env).clean).perform host world).2.record
      (((fun _ => p) <$> (r.buildFor f.platform p.env).clean).perform host world).1
      (r.commandsOf f .clean) := by
  rw [h, Work.perform_map,
    Release.perform_clean host world (b := r.buildFor f.platform .empty) unix,
    ← Work.perform_map]
  exact follows_run _ _

theorem follows_build_windows (h : p.env = f.env) (windows : f.platform.system = .windows) :
    Follows ((r.work f.platform version p .build).perform host world).2.record
      ((r.work f.platform version p .build).perform host world).1 (r.commandsOf f .build) := by
  have command : (r.buildFor f.platform f.env).buildCommand p.compilers =
      .ok (r.buildFor f.platform f.env).solutionCommand :=
    Release.buildCommand_of_windows windows p.compilers
  rw [Release.work_build, h, Work.perform_map, Release.perform_build, command, ← Work.perform_map]
  simp only [Release.commandsOf, windows]
  exact follows_run _ _

theorem follows_build_unix (env : p.env = .empty) (compilers : p.compilers = some f.compilers)
    (unix : f.platform.system ≠ .windows) :
    Follows ((r.work f.platform version p .build).perform host world).2.record
      ((r.work f.platform version p .build).perform host world).1 (r.commandsOf f .build) := by
  have command : (r.buildFor f.platform .empty).buildCommand (some f.compilers) =
      .ok ((r.buildFor f.platform .empty).makeCommand f.compilers) :=
    Release.buildCommand_some unix f.compilers
  have planned : r.commandsOf f .build =
      [⟨.run, (r.buildFor f.platform .empty).makeCommand f.compilers⟩] := by
    cases system : f.platform.system with
    | windows => exact absurd system unix
    | linux | mac =>
      cases mode : r.settings.platformMode <;>
        simp [Release.commandsOf, system, Build.makeCommand, Build.command, Release.buildFor,
          Build.target, mode, Command.withArgs, Command.within, Variables.apply, Command.withEnv,
          Variables.empty]
  rw [Release.work_build, env, compilers, Work.perform_map, Release.perform_build, command,
    ← Work.perform_map, planned]
  exact follows_run _ _

theorem follows_prepared {result : Except Failure Variables}
    (h : Variables.Prepared r.settings r.inherited record result) :
    ∃ script, Follows record result
      (r.commandsOf { f with script } .bootstrapEnvironment) := by
  have asked : Variables.installationQuery (Variables.installerOf r.settings r.inherited) =
      { program := Variables.expand r.settings.vswherePath r.inherited
        args := ["-latest", "-property", "installationPath"] } := by
    rw [Variables.installationQuery, Variables.installerOf, Path.shown_ofText]
  cases h with
  | noInstaller => exact ⟨f.script, follows_of_prefix List.nil_prefix⟩
  | noInstallation answer failure unnamed =>
    rw [asked]
    exact ⟨f.script, follows_of_prefix ⟨_, rfl⟩⟩
  | ran named dir answer installed =>
    rw [asked]
    exact ⟨dir.join r.settings.vcvarsScript, follows_of_eq _ rfl⟩

theorem collector_ofDirectory (output dir : Path) (entries : List String) :
    (Archive.Plan.mk output dir (Archive.visibleMembers dir entries)).collector =
      { program := "tar", args := "-c" :: Archive.visibleNames entries, dir := some dir } := by
  simp [Archive.Plan.collector, Command.arg, Command.withArgs, Command.within]

theorem follows_package (version : String) (host : Host σ)
    (members : ∀ entries, world.files.list (r.root.join r.settings.unixOutputDir) = .ok entries →
      f.members = Archive.visibleNames entries) :
    Follows ((r.package f.platform version).perform host world).2.record
      ((r.package f.platform version).perform host world).1 (r.commandsOf f .package) := by
  rw [Release.perform_package]
  cases planned : r.plan world.files f.platform version with
  | error failure => exact follows_of_prefix List.nil_prefix
  | ok plan =>
    by_cases windows : f.platform.system = .windows
    · simp only [Release.commandsOf, windows, Release.packing_directly, Work.perform_map,
        Work.perform_onFiles]
      exact follows_of_eq _ rfl
    · have unix : r.plan world.files f.platform version =
          Archive.Plan.ofDirectory world.files (r.archivePath f.platform version)
            (r.root.join r.settings.unixOutputDir) := by
        cases system : f.platform.system with
        | windows => exact absurd system windows
        | linux | mac => simp only [Release.plan, system]
      rw [unix] at planned
      obtain ⟨entries, listed, -, rfl⟩ := Release.ofDirectory_eq_ok planned
      have commands : r.commandsOf f .package =
          [⟨.producer, {
            program := "tar"
            args := "-c" :: Archive.visibleNames entries
            dir := some (r.root.join r.settings.unixOutputDir) }⟩,
          ⟨.consumer, { program := r.settings.compressor }⟩] := by
        cases system : f.platform.system with
        | windows => exact absurd system windows
        | linux | mac => simp only [Release.commandsOf, system, members entries listed]
      simp only [Release.packing_by_commands windows, Work.perform_map, Work.perform_pipe,
        collector_ofDirectory, commands]
      exact follows_of_eq _ rfl

/-- With the findings `g` the step `x` goes along the plan, and so do those before it, as they did
with the findings `f`. -/
structure Findings.GoesOn (f g : Findings) (r : Release) (version : String) (host : Host σ)
    (start : World σ) (done : List Step) (record : List Occurrence) (x : Step)
    (result : Except Failure Progress) (added : List Occurrence) : Prop where
  platform : g.platform = f.platform
  fit : g.Fit r version host start (record ++ .event (.stepStarted x) :: added)
  before : ∀ y ∈ done, r.commandsOf g y = r.commandsOf f y
  follows : Follows added result (r.commandsOf g x)
  compilers : ∀ after, result = .ok after → .selectToolchain ∈ done ++ [x] →
    after.compilers = some g.compilers
  env : ∀ after, result = .ok after → .bootstrapEnvironment ∈ done ++ [x] → after.env = g.env

/-- A step that finds nothing out. -/
theorem Findings.Tracks.goesOn_steady (tracks : f.Tracks r version host start done p record)
    (select : x ≠ .selectToolchain) (bootstrap : x ≠ .bootstrapEnvironment) (package : x ≠ .package)
    (outcome : (r.work f.platform version p x).perform host world = (result, s))
    (follows : Follows s.record result (r.commandsOf f x)) :
    f.GoesOn f r version host start done record x result s.record := by
  have quiet := (r.orderly_work f.platform version p x).quiet host world
  rw [outcome] at quiet
  have known : ∀ after, result = .ok after → after = p := by
    rintro after rfl
    have known := Release.known_of_work outcome
    cases x with
    | selectToolchain => exact absurd rfl select
    | bootstrapEnvironment => exact absurd rfl bootstrap
    | package => exact absurd rfl package
    | fetchSubmodules | clean | build | finalClean => exact known
  constructor
  · rfl
  · exact tracks.fit.begin rfl quiet (.inl ⟨select, rfl, rfl⟩) (.inl ⟨bootstrap, rfl, rfl⟩)
      (.inl ⟨package, rfl⟩)
  · exact fun y _ => rfl
  · exact follows
  · intro after same member
    rw [known after same]
    rcases List.mem_append.mp member with member | member
    · exact tracks.compilers member
    · exact absurd (List.mem_singleton.mp member).symm select
  · intro after same member
    rw [known after same]
    rcases List.mem_append.mp member with member | member
    · exact tracks.env member
    · exact absurd (List.mem_singleton.mp member).symm bootstrap

/-- Behind a selection the compilers are known. -/
theorem Findings.Tracks.goesOn_select (tracks : f.Tracks r version host start done p record)
    (split : r.sequence f.platform = done ++ .selectToolchain :: left)
    (outcome : (r.work f.platform version p .selectToolchain).perform host world = (result, s)) :
    ∃ g, f.GoesOn g r version host start done record .selectToolchain result s.record := by
  have unix : f.platform.system ≠ .windows :=
    Release.mem_sequence_iff.mp (split ▸ List.mem_append_right done List.mem_cons_self)
  have quiet := (r.orderly_work f.platform version p .selectToolchain).quiet host world
  rw [outcome] at quiet
  rw [Release.work_selectToolchain, Work.perform_map] at outcome
  have selected := Compilers.selected_of_select host world f.platform.system
    r.settings.gnuCandidates
  rcases selecting : (Compilers.select f.platform.system r.settings.gnuCandidates).perform host
    world with ⟨selection, t⟩
  rw [selecting] at outcome selected
  obtain ⟨rfl, rfl⟩ := Prod.mk.injEq .. ▸ outcome
  -- The compilers of `g` are those that were selected, if any were.
  obtain ⟨compilers, chosen⟩ : ∃ compilers, ∀ pair, selection = .ok (some pair) →
      compilers = pair := by
    rcases selection with _ | _ | pair
    · exact ⟨f.compilers, fun _ same => nomatch same⟩
    · exact ⟨f.compilers, fun _ same => nomatch same⟩
    · exact ⟨pair, fun _ same => by cases same; rfl⟩
  refine ⟨{ f with selection := t.record, compilers }, rfl, ?_, ?_, follows_of_eq _ rfl, ?_, ?_⟩
  · exact tracks.fit.begin rfl quiet (.inr ⟨List.infix_rfl, selection, selected, chosen⟩)
      (.inl ⟨nofun, rfl, rfl⟩) (.inl ⟨nofun, rfl⟩)
  · intro y member
    have lower := ((Release.mem_before_iff split).mp member).2
    cases y with
    | fetchSubmodules => rfl
    | _ => simp [Step.rank] at lower
  · intro after same _
    rcases selection with _ | _ | pair
    · cases same
    · exact absurd (Compilers.Selected.eq_windows selected) unix
    · cases same
      rw [chosen pair rfl]
  · intro after same member
    rcases List.mem_append.mp member with member | member
    · have lower := ((Release.mem_before_iff split).mp member).2
      simp [Step.rank] at lower
    · simp at member

/-- Behind the set-up of the developer environment its variables are known. -/
theorem Findings.Tracks.goesOn_bootstrap (tracks : f.Tracks r version host start done p record)
    (split : r.sequence f.platform = done ++ .bootstrapEnvironment :: left)
    (outcome :
      (r.work f.platform version p .bootstrapEnvironment).perform host world = (result, s)) :
    ∃ g, f.GoesOn g r version host start done record .bootstrapEnvironment result s.record := by
  have quiet := (r.orderly_work f.platform version p .bootstrapEnvironment).quiet host world
  rw [outcome] at quiet
  rw [Release.work_bootstrapEnvironment, Work.perform_map] at outcome
  have prepared := Variables.prepared_of_developer host world r.settings r.inherited
  rcases preparing : (Variables.developer r.settings r.inherited).perform host world with
    ⟨preparation, t⟩
  rw [preparing] at outcome prepared
  obtain ⟨rfl, rfl⟩ := Prod.mk.injEq .. ▸ outcome
  obtain ⟨env, known⟩ := exists_value_of_ok preparation f.env
  obtain ⟨script, follows⟩ := follows_prepared (f := { f with env }) prepared
  refine ⟨{ f with script, env }, rfl, ?_, ?_, follows.map _, ?_, ?_⟩
  · exact tracks.fit.begin rfl quiet (.inl ⟨nofun, rfl, rfl⟩)
      (.inr ⟨t.record, preparation, List.infix_rfl, prepared, follows.1, known⟩)
      (.inl ⟨nofun, rfl⟩)
  · intro y member
    have lower := ((Release.mem_before_iff split).mp member).2
    cases y with
    | fetchSubmodules => rfl
    | _ => simp [Step.rank] at lower
  · intro after same member
    rcases List.mem_append.mp member with member | member
    · have lower := ((Release.mem_before_iff split).mp member).2
      simp [Step.rank] at lower
    · simp at member
  · intro after same _
    rcases preparation with _ | found
    · cases same
    · cases same
      exact (known found rfl).symm

/-- What is packed are the visible names in the output directory. -/
theorem Findings.Tracks.goesOn_package (tracks : f.Tracks r version host start done p record)
    (reached : r.Reaches f.platform version host start done p world record)
    (split : r.sequence f.platform = done ++ .package :: left)
    (outcome : (r.work f.platform version p .package).perform host world = (result, s)) :
    ∃ g, f.GoesOn g r version host start done record .package result s.record := by
  have quiet := (r.orderly_work f.platform version p .package).quiet host world
  rw [outcome] at quiet
  have known : ∀ after, result = .ok after → after.compilers = p.compilers ∧ after.env = p.env := by
    rintro after rfl
    obtain ⟨archive, -, rfl⟩ := Release.known_of_work outcome
    exact ⟨rfl, rfl⟩
  obtain ⟨members, listed⟩ : ∃ members, ∀ entries,
      world.files.list (r.root.join r.settings.unixOutputDir) = .ok entries →
        members = Archive.visibleNames entries := by
    cases world.files.list (r.root.join r.settings.unixOutputDir) with
    | error fault => exact ⟨f.members, fun _ same => nomatch same⟩
    | ok entries => exact ⟨Archive.visibleNames entries, fun _ same => by cases same; rfl⟩
  rw [Release.work_package, Work.perform_map] at outcome
  have follows := follows_package (r := r) (f := { f with members }) version host listed
  obtain ⟨rfl, rfl⟩ := Prod.mk.injEq .. ▸ outcome
  refine ⟨{ f with members }, rfl, ?_, ?_, follows.map _, ?_, ?_⟩
  · exact tracks.fit.begin rfl quiet (.inl ⟨nofun, rfl, rfl⟩) (.inl ⟨nofun, rfl, rfl⟩)
      (.inr ⟨done, left, p, world, record, split, reached, List.infix_rfl, listed⟩)
  · intro y member
    have lower := ((Release.mem_before_iff split).mp member).2
    cases y with
    | package | finalClean => simp [Step.rank] at lower
    | _ => rfl
  · intro after same member
    rw [(known after same).1]
    exact tracks.compilers (by simpa using member)
  · intro after same member
    rw [(known after same).2]
    exact tracks.env (by simpa using member)

/-- Whatever step comes next goes along the plan. -/
theorem Findings.Tracks.goesOn (tracks : f.Tracks r version host start done p record)
    (reached : r.Reaches f.platform version host start done p world record)
    (split : r.sequence f.platform = done ++ x :: left)
    (outcome : (r.work f.platform version p x).perform host world = (result, s)) :
    ∃ g, f.GoesOn g r version host start done record x result s.record := by
  have next : x ∈ r.sequence f.platform :=
    split ▸ List.mem_append_right done List.mem_cons_self
  have noEnv : f.platform.system ≠ .windows → p.env = .empty := fun unix =>
    reached.env_eq_empty fun member =>
      unix (Release.mem_sequence_iff.mp ((Release.mem_before_iff split).mp member).1)
  cases x with
  | selectToolchain => exact tracks.goesOn_select split outcome
  | bootstrapEnvironment => exact tracks.goesOn_bootstrap split outcome
  | package => exact tracks.goesOn_package reached split outcome
  | fetchSubmodules =>
    have first : .bootstrapEnvironment ∉ done := fun member => by
      have lower := ((Release.mem_before_iff split).mp member).2
      simp [Step.rank] at lower
    have follows := follows_fetch (r := r) (f := f) version host world
      (reached.env_eq_empty first)
    rw [outcome] at follows
    exact ⟨f, tracks.goesOn_steady (by decide) (by decide) (by decide) outcome follows⟩
  | clean =>
    have unix : f.platform.system ≠ .windows := Release.mem_sequence_iff.mp next
    have follows := follows_clean (r := r) host world (noEnv unix) unix
    rw [← Release.work_clean r f.platform version, outcome] at follows
    exact ⟨f, tracks.goesOn_steady (by decide) (by decide) (by decide) outcome follows⟩
  | finalClean =>
    have unix : f.platform.system ≠ .windows := Release.mem_sequence_iff.mp next
    have follows := follows_clean (r := r) host world (noEnv unix) unix
    rw [← Release.work_finalClean r f.platform version, outcome] at follows
    exact ⟨f, tracks.goesOn_steady (by decide) (by decide) (by decide) outcome follows⟩
  | build =>
    have follows : Follows ((r.work f.platform version p .build).perform host world).2.record
        ((r.work f.platform version p .build).perform host world).1 (r.commandsOf f .build) := by
      by_cases windows : f.platform.system = .windows
      · refine follows_build_windows (tracks.env ?_) windows
        exact (Release.mem_before_iff split).mpr
          ⟨Release.mem_sequence_iff.mpr windows, by simp [Step.rank]⟩
      · refine follows_build_unix (noEnv windows) (tracks.compilers ?_) windows
        exact (Release.mem_before_iff split).mpr
          ⟨Release.mem_sequence_iff.mpr windows, by simp [Step.rank]⟩
    rw [outcome] at follows
    exact ⟨f, tracks.goesOn_steady (by decide) (by decide) (by decide) outcome follows⟩

end Step

/-! ## Whole runs -/

section Runs

variable {r : Release} {platform : Platform} {version : String} {host : Host σ} {start : World σ}

/-- Findings for the steps that were passed, by induction on how they were reached. -/
theorem Release.Reaches.exists_tracks {done : List Step} {p : Progress} {world : World σ}
    {record : List Occurrence}
    (reached : r.Reaches platform version host start done p world record)
    {left : List Step} (split : r.sequence platform = done ++ left) :
    ∃ f : Findings, f.platform = platform ∧ f.Tracks r version host start done p record := by
  induction reached generalizing left with
  | start =>
      obtain ⟨f, same, fit⟩ := Findings.exists_fit_nil r platform version host start
      exact ⟨f, same, fit, rfl, nofun, nofun⟩
  | @step done p after world record x s reached succeeds ih =>
      rw [List.append_assoc, List.singleton_append] at split
      obtain ⟨f, rfl, tracks⟩ := ih split
      obtain ⟨g, goesOn⟩ := tracks.goesOn reached split succeeds
      refine ⟨g, goesOn.platform, ?_, ?_, goesOn.compilers after rfl, goesOn.env after rfl⟩
      · have fit := goesOn.fit.extend [] [.event (.stepFinished x)] (by simp)
        simpa [Release.passage] using fit
      · have earlier : done.flatMap (r.commandsOf g) = done.flatMap (r.commandsOf f) := by
          rw [List.flatMap_def, List.flatMap_def, List.map_congr_left goesOn.before]
        rw [List.flatMap_append, earlier, ← tracks.commands, List.flatMap_singleton,
          ← goesOn.follows.2 after rfl]
        simp [Release.passage, commandLog, Occurrence.invocations]

/-- Findings for steps that are taken, whether all of them succeed or not. -/
theorem Release.Went.exists_fit {result : Except Failure Progress} {behind : World σ}
    {record : List Occurrence}
    (went : r.Went platform version host start (r.sequence platform) result behind record) :
    ∃ f : Findings, f.platform = platform ∧ f.Fit r version host start record ∧
      Follows record result ((r.sequence platform).flatMap (r.commandsOf f)) := by
  cases went with
  | passed reached =>
    obtain ⟨f, same, tracks⟩ := reached.exists_tracks (List.append_nil _).symm
    exact ⟨f, same, tracks.fit, follows_of_eq _ tracks.commands⟩
  | @failed done left x p world before failure s split reached fails =>
    obtain ⟨f, rfl, tracks⟩ := reached.exists_tracks split
    obtain ⟨g, goesOn⟩ := tracks.goesOn reached split fails
    have earlier : done.flatMap (r.commandsOf g) = done.flatMap (r.commandsOf f) := by
      rw [List.flatMap_def, List.flatMap_def, List.map_congr_left goesOn.before]
    refine ⟨g, goesOn.platform, goesOn.fit, follows_of_prefix ?_⟩
    have log : commandLog (before ++ .event (.stepStarted x) :: s.record) =
        done.flatMap (r.commandsOf g) ++ commandLog s.record := by
      rw [commandLog_append, tracks.commands, earlier]
      rfl
    rw [log, split, List.flatMap_append, List.flatMap_cons, List.prefix_append_right_inj]
    exact goesOn.follows.1.trans (List.prefix_append _ _)

/-- Finding out the platform goes along its queries. -/
theorem follows_findPlatform (r : Release) (host : Host σ) (world : World σ) :
    Follows (r.findPlatform.perform host world).2.record (r.findPlatform.perform host world).1
      r.detectionCommands := by
  unfold Release.findPlatform Release.detectionCommands
  cases r.platform with
  | some platform => exact follows_of_eq _ rfl
  | none =>
    have askMachine : ∀ kernel, (Platform.askName "-m" >>= fun machine =>
        Work.ofExcept ((Platform.classify "unix" kernel machine).mapError
          UnknownHost.failure) : Work σ Platform).AddsToRecord := fun kernel =>
      (Platform.orderly_askName (.inr rfl)).adds.bind fun _ => Work.addsToRecord_ofExcept _
    rw [Platform.detect_of_unix]
    generalize outcome : (_ : Work σ Platform).perform host world = performed
    obtain ⟨result, session⟩ := performed
    rcases Work.perform_bind_cases askMachine outcome with
      ⟨failure, failed, rfl⟩ | ⟨kernel, s, t, told, asked, rfl⟩
    · rw [Platform.perform_askName, Prod.mk.injEq] at failed
      obtain ⟨-, rfl⟩ := failed
      exact follows_of_prefix ⟨_, rfl⟩
    · rw [Platform.perform_askName, Prod.mk.injEq] at told
      obtain ⟨-, rfl⟩ := told
      rcases Work.perform_bind_cases (fun _ => Work.addsToRecord_ofExcept _) asked with
        ⟨failure, failed, rfl⟩ | ⟨machine, u, v, answered, classified, rfl⟩
      · rw [Platform.perform_askName, Prod.mk.injEq] at failed
        obtain ⟨-, rfl⟩ := failed
        exact follows_of_eq _ rfl
      · rw [Platform.perform_askName, Prod.mk.injEq] at answered
        obtain ⟨-, rfl⟩ := answered
        rw [Work.perform_ofExcept, Prod.mk.injEq] at classified
        obtain ⟨-, rfl⟩ := classified
        exact follows_of_eq _ rfl

/-- Nothing fatal was recorded of steps that were passed. -/
theorem Release.Reaches.harmless {done : List Step} {p : Progress} {world : World σ}
    {record : List Occurrence}
    (reached : r.Reaches platform version host start done p world record) :
    ∀ o ∈ record, o.fatal? = none := by
  induction reached with
  | start => exact fun o member => nomatch member
  | @step done p after world record x s reached succeeds ih =>
      have stops := (r.orderly_work platform version p x).stops host world
      rw [succeeds] at stops
      intro o member
      simp only [Release.passage, List.mem_append, List.mem_cons, List.not_mem_nil, or_false]
        at member
      rcases member with member | (rfl | member) | rfl
      · exact ih o member
      · rfl
      · exact stops.fatal_eq_none member
      · rfl

/-- Steps stop at what is fatal. -/
theorem Release.Went.stops {steps : List Step} {result : Except Failure Progress}
    {behind : World σ} {record : List Occurrence}
    (went : r.Went platform version host start steps result behind record) :
    StopsWith record result := by
  cases went with
  | passed reached => exact stopsWith_of_harmless _ reached.harmless
  | @failed done left x p world before failure s split reached fails =>
    have stops := (r.orderly_work platform version p x).stops host world
    rw [fails] at stops
    have told : StopsWith ([.event (.stepStarted x)] ++ s.record)
        (.error failure : Except Failure Progress) :=
      stops.append fun o member => by
        obtain rfl := List.mem_singleton.mp member
        rfl
    exact told.append reached.harmless

/-- A run stops at what is fatal. -/
theorem stopsWith_run (r : Release) (host : Host σ) (world : World σ) :
    StopsWith (r.run.perform host world).2.record (r.run.perform host world).1 := by
  have detecting := r.orderly_findPlatform.stops host world
  have ends := r.ends_run host world
  generalize r.run.perform host world = outcome at ends
  obtain ⟨result, session⟩ := outcome
  cases ends with
  | platformUnknown unknown =>
    rw [unknown] at detecting
    exact detecting.error
  | versionMissing known missing =>
    rw [known] at detecting
    exact stopsWith_of_harmless _ fun o member => detecting.fatal_eq_none member
  | @began platform version s _ _ record finds went =>
    rw [finds.platform] at detecting
    have harmless : ∀ o ∈ [Occurrence.event (.started version platform platform.tag)],
        o.fatal? = none := fun o member => by
      obtain rfl := List.mem_singleton.mp member
      rfl
    have told := (went.stops.map (Release.reportOf platform version)).append harmless
    exact told.append fun o member => detecting.fatal_eq_none member

/-- Where no step is begun, findings about which nothing is said fit what was recorded. -/
theorem Findings.exists_fit_detection (r : Release) (host : Host σ) (world : World σ)
    (platform : Platform) (version : String) :
    ∃ f : Findings, f.platform = platform ∧
      f.Fit r version host (r.findPlatform.perform host world).2.world
        (r.findPlatform.perform host world).2.record := by
  have told := r.orderly_findPlatform.quiet host world
  obtain ⟨f, same, fit⟩ := Findings.exists_fit_nil r platform version host
    (r.findPlatform.perform host world).2.world
  have extended := fit.extend (r.findPlatform.perform host world).2.record [] fun o member => by
      rw [List.append_nil] at member
      exact ⟨ne_event_of_quiet told member _, ne_event_of_quiet told member _,
        ne_event_of_quiet told member _⟩
  rw [List.append_nil, List.append_nil] at extended
  exact ⟨f, same, extended⟩

/-- What is recorded of the steps comes behind what is recorded of the queries and the event
that tells the start. -/
theorem Findings.Fit.behindStart {f : Findings} {record : List Occurrence}
    (fit : f.Fit r version host start record) {detection : List Occurrence}
    (quiet : eventsOf detection = []) (tag : String) :
    f.Fit r version host start
      (detection ++ .event (.started version platform tag) :: record) := by
  have extended := fit.extend (detection ++ [.event (.started version platform tag)]) []
    fun o member => by
      rw [List.append_nil, List.mem_append, List.mem_singleton] at member
      rcases member with member | rfl
      · exact ⟨ne_event_of_quiet quiet member _, ne_event_of_quiet quiet member _,
          ne_event_of_quiet quiet member _⟩
      · exact ⟨nofun, nofun, nofun⟩
  simpa using extended

/-- The commands of a run go along the plan of its findings. -/
theorem exists_findings_run (r : Release) (host : Host σ) (world : World σ) :
    ∃ (f : Findings) (version : String),
      (∀ platform, (r.findPlatform.perform host world).1 = .ok platform →
        f.platform = platform) ∧
      (∀ found, r.versionIn (r.findPlatform.perform host world).2.world.files = .ok found →
        version = found) ∧
      f.Fit r version host (r.findPlatform.perform host world).2.world
        (r.run.perform host world).2.record ∧
      Follows (r.run.perform host world).2.record (r.run.perform host world).1
        (r.commandPlan f) := by
  have queries := follows_findPlatform r host world
  have quiet := r.orderly_findPlatform.quiet host world
  have untold := Findings.exists_fit_detection r host world
  have ends := r.ends_run host world
  generalize r.run.perform host world = outcome at ends
  obtain ⟨result, session⟩ := outcome
  rcases found : r.findPlatform.perform host world with ⟨detected, s⟩
  rw [found] at queries quiet untold
  obtain ⟨platform, isPlatform⟩ := exists_value_of_ok detected ⟨.linux, .x64⟩
  obtain ⟨version, isVersion⟩ := exists_value_of_ok (r.versionIn s.world.files) ""
  obtain ⟨g, rfl, fit⟩ := untold platform version
  have early : commandLog s.record <+: r.commandPlan g := queries.1.trans (List.prefix_append _ _)
  cases ends with
  | platformUnknown unknown =>
    cases found.symm.trans unknown
    exact ⟨g, version, isPlatform, isVersion, fit, follows_of_prefix early⟩
  | versionMissing known missing =>
    cases found.symm.trans known
    exact ⟨g, version, isPlatform, isVersion, fit, follows_of_prefix early⟩
  | @began platform version' s' result behind record finds went =>
    cases found.symm.trans finds.platform
    obtain ⟨f, rfl, fits, follows⟩ := went.exists_fit
    have log : commandLog (s.record ++ .event (.started version' f.platform f.platform.tag) ::
        record) = r.detectionCommands ++ commandLog record := by
      rw [commandLog_append, queries.2 _ rfl]
      rfl
    refine ⟨f, version', fun found same => Except.ok.inj same, ?_, ?_, ?_⟩
    · intro found same
      exact Except.ok.inj (finds.version.symm.trans same)
    · exact fits.behindStart quiet f.platform.tag
    · have planned := follows.map (Release.reportOf f.platform version')
      constructor
      · rw [log, Release.commandPlan, List.prefix_append_right_inj]
        exact planned.1
      · intro report same
        rw [log, planned.2 report same]
        rfl

/-- The commands of a run go along a plan that its findings determine: all of them if the run
succeeds, and otherwise those up to a call that failed, with nothing behind it. Where the
version cannot be told nothing is run beyond the queries for the platform. -/
theorem commandLog_run (r : Release) (host : Host σ) (world : World σ) :
    let detection := r.findPlatform.perform host world
    let outcome := r.run.perform host world
    (∃ (f : Findings) (version : String),
      (∀ platform, detection.1 = .ok platform → f.platform = platform) ∧
      (∀ found, r.versionIn detection.2.world.files = .ok found → version = found) ∧
      f.Fit r version host detection.2.world outcome.2.record ∧
      commandLog outcome.2.record <+: r.commandPlan f ∧
      ∀ report, outcome.1 = .ok report → commandLog outcome.2.record = r.commandPlan f) ∧
    (∀ before o after failure, outcome.2.record = before ++ o :: after →
      o.fatal? = some failure → after = [] ∧ outcome.1 = .error failure) ∧
    ∀ platform failure, detection.1 = .ok platform →
      r.versionIn detection.2.world.files = .error failure →
        outcome.1 = .error failure ∧ commandLog outcome.2.record = r.detectionCommands := by
  intro detection outcome
  refine ⟨exists_findings_run r host world, stopsWith_run r host world, ?_⟩
  intro platform failure known missing
  have known' : r.findPlatform.perform host world = (.ok platform, detection.2) :=
    Prod.ext known rfl
  have ran : outcome = (.error failure, detection.2) := Release.run_of_versionMissing known' missing
  have queries : Follows detection.2.record detection.1 r.detectionCommands :=
    follows_findPlatform r host world
  rw [ran]
  exact ⟨rfl, queries.2 platform known⟩

end Runs

/-! A run goes along its whole plan, or up to the first call that fails. -/

/-- Sources with a version, and one binary that is built from them. -/
def sourcesWith (version : String) : FileSystem where
  nodes := [
    (["src"], .directory ⟨0o755, .user⟩),
    (["src", "version"], .file ⟨0, .ofText ("V \"" ++ version ++ "\""), ⟨0o644, .user⟩⟩),
    (["src", "bin"], .directory ⟨0o755, .user⟩),
    (["src", "bin", "bkc"], .file ⟨1, .empty, ⟨0o755, .user⟩⟩)]
  next := 2
  cwd := ["src"]

/-- A release of such sources. -/
def smallRelease : Release where
  root := ⟨""⟩
  settings := { versionFile := ⟨"version"⟩, versionMarker := "V" }
  fetchSubmodules := false
  jobsFlag := "-j1"

/-- A release for linux. -/
def linuxRelease : Release :=
  { smallRelease with platform := some ⟨.linux, .x64⟩ }

/-- A script by which all is well, with compilers and a developer environment. -/
def readyScript : Script where
  outputs := [("g++", some ⟨"g++ (GCC)", true⟩), ("gcc", some ⟨"gcc (GCC)", true⟩),
    ("vswhere.exe", some ⟨"C:/VS", true⟩), ("cmd", some ⟨"INCLUDE=C:/VS/include", true⟩)]

/-- The first cleaning is cut off with all that would have been behind it if it fails. -/
theorem commandLog_of_linux_release :
    let world (s : Script) : World Script.Tally := ⟨sourcesWith "1.0.0", s.freshTally⟩
    let run (s : Script) := linuxRelease.run.perform s.host (world s)
    let unclean := { readyScript with refusals := [⟨"make clean", some "exit status: 2", some 1⟩] }
    (∃ f, linuxRelease.commandPlan f = [
      ⟨.capture, { program := "g++", args := ["--version"] }⟩,
      ⟨.capture, { program := "gcc", args := ["--version"] }⟩,
      ⟨.run, { program := "make", args := ["clean"], dir := some ⟨""⟩ }⟩,
      ⟨.run, {
        program := "make"
        args := ["CXX=g++", "CC=gcc", "PLATFORM=generic", "STATIC_LINK=true", "-j1"]
        dir := some ⟨""⟩ }⟩,
      ⟨.producer, { program := "tar", args := ["-c", "bkc"], dir := some ⟨"bin"⟩ }⟩,
      ⟨.consumer, { program := "pigz" }⟩,
      ⟨.run, { program := "make", args := ["clean"], dir := some ⟨""⟩ }⟩] ∧
      commandLog (run readyScript).2.record = linuxRelease.commandPlan f) ∧
    (run unclean).1 = .error (.commandFailed "make clean" "exit status: 2") ∧
      commandLog (run unclean).2.record = [
        ⟨.capture, { program := "g++", args := ["--version"] }⟩,
        ⟨.capture, { program := "gcc", args := ["--version"] }⟩,
        ⟨.run, { program := "make", args := ["clean"], dir := some ⟨""⟩ }⟩] := by
  intro world run unclean
  refine ⟨?_, by decide +kernel, by decide +kernel⟩
  obtain ⟨⟨f, version, -, -, -, -, whole⟩, -⟩ :=
    commandLog_run linuxRelease readyScript.host (world readyScript)
  have succeeded : (run readyScript).1.toOption.isSome := by decide +kernel
  cases ended : (run readyScript).1 with
  | error failure =>
    rw [ended] at succeeded
    cases succeeded
  | ok report =>
    have planned := whole report ended
    refine ⟨f, ?_, planned⟩
    rw [← planned]
    decide +kernel

end ReleaseBuilder
