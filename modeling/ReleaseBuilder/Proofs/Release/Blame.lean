/-
# Which failures end which step

On a host whose commands fail as commands do, a failure tells where a run has come to. Before the
first step it is an unknown platform, a missing version, or a query that could not be started. Each
step has failures of its own, and shares with others only those of commands. Nothing else ends a run:
no settings are read any more, and the makefile is never without compilers.
-/

import ReleaseBuilder.Proofs.Release.Remains
import ReleaseBuilder.Proofs.Work.Answering

namespace ReleaseBuilder

variable {σ : Type}

/-- A failure of a command, which ended without success or could not be started. -/
inductive Failure.OfCommand : Failure → Prop
  | failed (command status : String) : OfCommand (.commandFailed command status)
  | unstarted (command : String) (fault : Fault) : OfCommand (.commandSpawn command fault)

/-- A failure of an archive, of which a member is missing or a file cannot be read or written. -/
inductive Failure.OfArchive : Failure → Prop
  | missing (path : Path) : OfArchive (.missingArtifact path)
  | faulty (fault : Fault) : OfArchive (.io fault)

/-- The calls on a host fail as commands do. Capturing what a command prints fails only if the
command cannot be started, and a pipe fails also if its file cannot be written. -/
structure Host.FailsByCommands (host : Host σ) : Prop where
  run : ∀ c world failure, (host.run c world).result = .error failure → failure.OfCommand
  capture : ∀ c world failure, (host.capture c world).1 = .error failure →
    ∃ command fault, failure = .commandSpawn command fault
  pipe : ∀ producer consumer dest world failure,
    (host.pipe producer consumer dest world).result = .error failure →
      failure.OfCommand ∨ ∃ fault, failure = .io fault

/-- The failures that can end a step. What the selection names are compilers. -/
def Step.CanEndWith (x : Step) (failure : Failure) : Prop :=
  match x with
  | .selectToolchain =>
    ∃ pair : Compilers, (pair = .standard ∨ ∃ version, pair = .versioned version) ∧
      failure = .toolchainMismatch pair.cc pair.cxx
  | .bootstrapEnvironment =>
    (∃ reason, failure = .environmentSetup reason) ∨
      ∃ command fault, failure = .commandSpawn command fault
  | .fetchSubmodules | .clean | .build | .finalClean => failure.OfCommand
  | .package => failure.OfArchive ∨ failure.OfCommand

/-! ## Hosts that go by a script -/

theorem Script.ofCommand_of_refuse? {c : Command} {refusals : List Refusal} {tally : Tally}
    {failure : Failure} (h : (refuse? c refusals tally).1 = some failure) : failure.OfCommand := by
  induction refusals generalizing tally with
  | nil => cases h
  | cons refusal rest ih =>
    cases tally with
    | nil => cases h
    | cons count tally =>
      rw [refuse?] at h
      split at h
      · dsimp only at h
        split at h
        · obtain rfl := Option.some.inj h
          unfold Refusal.failure
          split
          · exact .failed _ _
          · exact .unstarted _ _
        · exact ih h
      · exact ih h

theorem Script.ofCommand_of_run {s : Script} {c : Command} {w : World Tally} {failure : Failure}
    (h : (s.run c w).1 = .error failure) : failure.OfCommand := by
  unfold run at h
  split at h
  · next refused _ same =>
    cases h
    exact ofCommand_of_refuse? (congrArg Prod.fst same)
  · cases h

theorem Script.failsByCommands_host (s : Script) : s.host.FailsByCommands where
  run _ _ _ failed := ofCommand_of_run failed
  capture c world failure failed := by
    simp only [host] at failed
    split at failed
    · cases failed
    · cases failed
      exact ⟨_, _, rfl⟩
  pipe producer consumer dest world failure failed := by
    simp only [host, pipe] at failed
    split at failed
    · next first =>
      cases failed
      exact .inl (ofCommand_of_run (congrArg Prod.fst first))
    · split at failed
      · next second =>
        cases failed
        exact .inl (ofCommand_of_run (congrArg Prod.fst second))
      · split at failed
        · cases failed
          exact .inr ⟨_, rfl⟩
        · cases failed

/-! ## What is found out before the first step -/

theorem Platform.truthful_detect {host : Host σ} : (detect "unix").Truthful host :=
  composes_detect Work.composes_truthful fun flag _ => by
    rw [askName_eq]
    exact (Work.truthful_capture _).bind fun _ => Work.composes_truthful.ofExcept _

theorem Platform.failure_of_askName {host : Host σ} {world : World σ} {flag : String}
    {failure : Failure} {s : Session σ}
    (failed : (askName flag).perform host world = (.error failure, s)) :
    (∃ reason, failure = .unsupportedPlatform reason) ∨
      .captured (nameQuery flag) (.error failure) ∈ s.record := by
  rw [perform_askName, Prod.mk.injEq] at failed
  obtain ⟨unnamed, rfl⟩ := failed
  cases answer : (host.capture (nameQuery flag) world).1 with
  | error other =>
    rw [answer] at unnamed
    cases unnamed
    exact .inr (List.mem_singleton_self _)
  | ok output =>
    rw [answer] at unnamed
    simp only [Except.bind, nameIn] at unnamed
    split at unnamed
    · cases unnamed
    · cases unnamed
      exact .inl ⟨_, rfl⟩

/-- A platform that is not found out is unknown, or a query for it failed. -/
theorem Platform.failure_of_detect {host : Host σ} {world : World σ} {failure : Failure}
    {s : Session σ} (failed : (detect "unix").perform host world = (.error failure, s)) :
    (∃ reason, failure = .unsupportedPlatform reason) ∨
      ∃ flag, .captured (nameQuery flag) (.error failure) ∈ s.record := by
  have askMachine : ∀ kernel, (askName "-m" >>= fun machine =>
      Work.ofExcept ((classify "unix" kernel machine).mapError UnknownHost.failure) :
        Work σ Platform).AddsToRecord := fun kernel =>
    (orderly_askName (.inr rfl)).adds.bind fun _ => Work.addsToRecord_ofExcept _
  rw [detect_of_unix] at failed
  rcases Work.perform_bind_cases askMachine failed with
    ⟨other, unasked, same⟩ | ⟨kernel, first, t, -, goesOn, rfl⟩
  · cases same
    exact (failure_of_askName unasked).imp_right fun member => ⟨"-s", member⟩
  · rcases Work.perform_bind_cases (fun _ => Work.addsToRecord_ofExcept _) goesOn with
      ⟨other, unasked, same⟩ | ⟨machine, second, u, -, classified, rfl⟩
    · cases same
      refine (failure_of_askName unasked).imp_right fun member => ⟨"-m", ?_⟩
      exact List.mem_append_right _ member
    · rw [Work.perform_ofExcept, Prod.mk.injEq] at classified
      cases named : classify "unix" kernel machine with
      | ok platform =>
        rw [named] at classified
        cases classified.1
      | error unknown =>
        rw [named] at classified
        cases classified.1
        exact .inl ⟨_, rfl⟩

/-! ## The failures of a step -/

/-- Without a developer environment it could not be set up, or a command failed. -/
theorem Variables.Prepared.failure {settings : Settings} {lookup : String → Option String}
    {record : List Occurrence} {failure : Failure}
    (h : Prepared settings lookup record (.error failure)) :
    (∃ reason, failure = .environmentSetup reason) ∨
      ∃ c, .captured c (.error failure) ∈ record := by
  generalize result : (.error failure : Except Failure Variables) = outcome at h
  cases h with
  | noInstaller =>
    cases result
    exact .inl ⟨_, rfl⟩
  | noInstallation answer other unnamed =>
    cases result
    cases answer with
    | error other =>
      cases unnamed
      exact .inr ⟨_, List.mem_singleton_self _⟩
    | ok output =>
      simp only [Except.bind, installationIn] at unnamed
      split at unnamed
      · cases unnamed
        exact .inl ⟨_, rfl⟩
      · cases unnamed
  | ran named dir answer installed =>
    cases answer with
    | error other =>
      cases result
      exact .inr ⟨environmentScript (dir.join settings.vcvarsScript), by simp⟩
    | ok output =>
      simp only [Except.bind, variablesIn] at result
      split at result
      · cases result
        exact .inl ⟨_, rfl⟩
      · cases result

/-- The pair that a selection settles on has names of GNU compilers. -/
theorem Compilers.Considered.exists_pair {versions : List UInt32} {system : OperatingSystem}
    {record : List Occurrence} {pair : Compilers} (h : Considered versions system record pair) :
    pair = standard ∨ ∃ version, pair = versioned version := by
  have settled : ∀ {versions record found}, Probed versions record found →
      found = none ∨ ∃ version, found = some (versioned version) := by
    intro versions record found probed
    induction probed with
    | exhausted => exact .inl rfl
    | passedOver _ _ ih => exact ih
    | @settled version => exact .inr ⟨version, rfl⟩
  cases h with
  | linux => exact .inl rfl
  | mac probed =>
    rcases settled probed with rfl | ⟨version, rfl⟩
    · exact .inl rfl
    · exact .inr ⟨version, rfl⟩

/-- Compilers that are not selected are named. -/
theorem Compilers.Selected.failure {versions : List UInt32} {system : OperatingSystem}
    {record : List Occurrence} {failure : Failure}
    (h : Selected versions system record (.error failure)) :
    ∃ pair : Compilers, (pair = standard ∨ ∃ version, pair = versioned version) ∧
      failure = .toolchainMismatch pair.cc pair.cxx := by
  generalize result : (.error failure : Except Failure (Option Compilers)) = outcome at h
  cases h with
  | windows => cases result
  | @checked _ _ pair considered cxxAnswer ccAnswer =>
    split at result
    · cases result
    · cases result
      exact ⟨pair, considered.exists_pair, rfl⟩

theorem Compilers.cc_ne_none {pair : Compilers}
    (h : pair = standard ∨ ∃ version, pair = versioned version) : pair.cc ≠ "<none>" := by
  rcases h with rfl | ⟨version, rfl⟩
  · decide
  · intro same
    have letters := congrArg String.toList same
    simp [versioned, standard] at letters

namespace Archive

theorem failure_of_entryOf {node : Node} {name : String} {failure : Failure}
    (h : entryOf node name = .error failure) : failure.OfArchive := by
  unfold entryOf at h
  split at h
  · cases h
    exact .faulty _
  · split at h <;> cases h

theorem Member.failure_of_entry {files : FileSystem} {member : Member} {failure : Failure}
    (h : member.entry files = .error failure) : failure.OfArchive := by
  unfold Member.entry at h
  split at h
  · cases h
    exact .missing _
  · split at h
    · cases h
      exact .faulty _
    · split at h
      · exact failure_of_entryOf h
      · exact failure_of_entryOf h

namespace Plan

theorem failure_of_gather {refusal? : Option Fault} {files begun : FileSystem}
    {members : List Member} {failure : Failure}
    (h : (gather refusal? files begun members).2 = some failure) : failure.OfArchive := by
  induction members generalizing refusal? files with
  | nil =>
    obtain ⟨fault, -, rfl⟩ := Option.map_eq_some_iff.mp h
    exact .faulty fault
  | cons member rest ih =>
    rw [gather] at h
    split at h
    · next other unpacked =>
      cases h
      exact Member.failure_of_entry unpacked
    · split at h
      · next fault =>
        cases h
        exact .faulty fault
      · exact ih h

theorem failure_of_write {files : FileSystem} {plan : Plan} {failure : Failure}
    (h : (plan.write files).1 = .error failure) : failure.OfArchive := by
  unfold write at h
  split at h
  · cases h
    exact .faulty _
  · dsimp only at h
    split at h
    · cases h
    · next other unpacked =>
      cases h
      exact failure_of_gather unpacked

theorem failure_of_membersOf {files : FileSystem} {dir : Path} {names : List String}
    {failure : Failure} (h : membersOf files dir names = .error failure) : failure.OfArchive := by
  induction names with
  | nil => cases h
  | cons name rest ih =>
    rw [membersOf] at h
    split at h
    · split at h
      · cases h
      · next other unfound =>
        cases h
        exact ih unfound
    · cases h
      exact .missing _

theorem failure_of_ofFiles {files : FileSystem} {output dir : Path} {names : List String}
    {failure : Failure} (h : ofFiles files output dir names = .error failure) :
    failure.OfArchive := by
  unfold ofFiles at h
  split at h
  · cases h
  · next other unfound =>
    cases h
    exact failure_of_membersOf unfound

theorem failure_of_ofDirectory {files : FileSystem} {output dir : Path} {failure : Failure}
    (h : ofDirectory files output dir = .error failure) : failure.OfArchive := by
  unfold ofDirectory at h
  split at h
  · cases h
    exact .missing _
  · split at h
    · cases h
      exact .faulty _
    · dsimp only at h
      split at h
      · cases h
        exact .missing _
      · cases h

end Plan
end Archive

namespace Release

variable {r : Release} {platform : Platform} {version : String} {p : Progress} {host : Host σ}
  {world : World σ} {failure : Failure} {s : Session σ}

theorem failure_of_plan {files : FileSystem} (h : r.plan files platform version = .error failure) :
    failure.OfArchive := by
  unfold plan at h
  dsimp only at h
  split at h
  · exact Archive.Plan.failure_of_ofFiles h
  · exact Archive.Plan.failure_of_ofDirectory h
  · exact Archive.Plan.failure_of_ofDirectory h

theorem ofCommand_of_run (proper : host.FailsByCommands) {c : Command}
    (fails : (Work.run c).perform host world = (.error failure, s)) : failure.OfCommand := by
  rw [Work.perform_run] at fails
  exact proper.run c world failure (congrArg Prod.fst fails)

theorem ofCommand_of_clean (proper : host.FailsByCommands) {b : Build}
    (fails : b.clean.perform host world = (.error failure, s)) : failure.OfCommand := by
  by_cases windows : b.platform.system = .windows
  · rw [clean_of_windows windows] at fails
    cases fails
  · rw [perform_clean host world windows] at fails
    exact ofCommand_of_run proper fails

theorem failure_of_bootstrap (proper : host.FailsByCommands)
    (fails : (Variables.developer r.settings r.inherited).perform host world =
      (.error failure, s)) : Step.bootstrapEnvironment.CanEndWith failure := by
  have prepared := Variables.prepared_of_developer host world r.settings r.inherited
  rw [fails] at prepared
  refine prepared.failure.imp_right ?_
  rintro ⟨c, member⟩
  have truthful : (Variables.developer r.settings r.inherited).Truthful host :=
    Variables.composes_developer Work.composes_truthful (fun c _ => Work.truthful_capture c) _ _
  have does := truthful.perform (by rw [fails]; exact member)
  obtain ⟨there, answered⟩ := does.exists_of_captured
  exact proper.capture c there failure answered

theorem failure_of_package (proper : host.FailsByCommands)
    (fails : (r.package platform version).perform host world = (.error failure, s)) :
    failure.OfArchive ∨ failure.OfCommand := by
  rw [perform_package] at fails
  cases planned : r.plan world.files platform version with
  | error other =>
    rw [planned] at fails
    cases fails
    exact .inl (failure_of_plan planned)
  | ok plan =>
    rw [planned] at fails
    dsimp only at fails
    by_cases windows : platform.system = .windows
    · rw [windows, packing_directly] at fails
      have unwritten := Work.of_perform_map_error fails
      rw [Work.perform_onFiles] at unwritten
      exact .inl (Archive.Plan.failure_of_write (congrArg Prod.fst unwritten))
    · rw [packing_by_commands windows] at fails
      have unpiped := Work.of_perform_map_error fails
      rw [Work.perform_pipe] at unpiped
      rcases proper.pipe _ _ _ _ _ (congrArg Prod.fst unpiped) with ofCommand | ⟨fault, rfl⟩
      · exact .inr ofCommand
      · exact .inl (.faulty fault)

/-! ## The failures of a run -/

variable {start : World σ} {done left : List Step} {x : Step} {record : List Occurrence}

/-- Where the build is reached it has its command: the compilers are selected by then, unless there
is no need of them. -/
theorem Reaches.exists_buildCommand
    (reached : r.Reaches platform version host start done p world record)
    (split : r.sequence platform = done ++ .build :: left) :
    ∃ c, (r.buildFor platform p.env).buildCommand p.compilers = .ok c := by
  by_cases windows : platform.system = .windows
  · exact ⟨_, buildCommand_of_windows (b := r.buildFor platform p.env) windows p.compilers⟩
  · have selecting : .selectToolchain ∈ done :=
      (mem_before_iff split).mpr ⟨mem_sequence_iff.mpr windows, by decide⟩
    obtain ⟨selection, -, selected⟩ := reached.exists_selection selecting
    cases known : p.compilers with
    | none =>
      rw [known] at selected
      exact absurd selected.eq_windows windows
    | some pair => exact ⟨_, buildCommand_some (b := r.buildFor platform p.env) windows pair⟩

/-- A step that is reached and fails does so with a failure of its own. -/
theorem Reaches.canEndWith (proper : host.FailsByCommands)
    (reached : r.Reaches platform version host start done p world record)
    (split : r.sequence platform = done ++ x :: left)
    (fails : (r.work platform version p x).perform host world = (.error failure, s)) :
    x.CanEndWith failure := by
  cases x with
  | fetchSubmodules =>
    rw [work_fetchSubmodules] at fails
    exact ofCommand_of_run proper (Work.of_perform_map_error fails)
  | selectToolchain =>
    rw [work_selectToolchain] at fails
    have unselected := Work.of_perform_map_error fails
    have selected := Compilers.selected_of_select host world platform.system
      r.settings.gnuCandidates
    rw [unselected] at selected
    exact selected.failure
  | bootstrapEnvironment =>
    rw [work_bootstrapEnvironment] at fails
    exact failure_of_bootstrap proper (Work.of_perform_map_error fails)
  | clean =>
    rw [work_clean] at fails
    exact ofCommand_of_clean proper (Work.of_perform_map_error fails)
  | finalClean =>
    rw [work_finalClean] at fails
    exact ofCommand_of_clean proper (Work.of_perform_map_error fails)
  | build =>
    rw [work_build] at fails
    have unbuilt := Work.of_perform_map_error fails
    obtain ⟨c, command⟩ := reached.exists_buildCommand split
    rw [perform_build, command] at unbuilt
    exact ofCommand_of_run proper unbuilt
  | package =>
    rw [work_package] at fails
    exact failure_of_package proper (Work.of_perform_map_error fails)

/-- Without a platform the host is unknown, or could not be asked. -/
theorem failure_of_findPlatform (proper : host.FailsByCommands)
    (unknown : r.findPlatform.perform host world = (.error failure, s)) :
    (∃ reason, failure = .unsupportedPlatform reason) ∨
      ∃ flag command fault, failure = .commandSpawn command fault ∧
        .captured { program := "uname", args := [flag] } (.error failure) ∈ s.record := by
  unfold findPlatform at unknown
  split at unknown
  · cases unknown
  · refine (Platform.failure_of_detect unknown).imp_right ?_
    rintro ⟨flag, member⟩
    have does := Platform.truthful_detect.perform (by rw [unknown]; exact member)
    obtain ⟨there, answered⟩ := does.exists_of_captured
    obtain ⟨command, fault, rfl⟩ := proper.capture _ there _ answered
    exact ⟨flag, command, fault, rfl, member⟩

end Release

/-- No step ends with a failure of the settings, nor with a makefile that has no compilers. -/
theorem Step.CanEndWith.ne {x : Step} {failure : Failure} (h : x.CanEndWith failure) :
    (∀ reason, failure ≠ .config reason) ∧ failure ≠ .toolchainMismatch "<none>" "<none>" := by
  cases x with
  | selectToolchain =>
    obtain ⟨pair, named, rfl⟩ := h
    refine ⟨nofun, fun same => Compilers.cc_ne_none named ?_⟩
    exact (Failure.toolchainMismatch.inj same).1
  | bootstrapEnvironment =>
    rcases h with ⟨reason, rfl⟩ | ⟨command, fault, rfl⟩ <;> exact ⟨nofun, nofun⟩
  | fetchSubmodules | clean | build | finalClean =>
    cases h <;> exact ⟨nofun, nofun⟩
  | package =>
    rcases h with h | h <;> cases h <;> exact ⟨nofun, nofun⟩

/-- What a run fails with tells where it has come to. -/
theorem failure_of_run {r : Release} {host : Host σ} {world : World σ} {failure : Failure}
    {s : Session σ} (proper : host.FailsByCommands)
    (failed : r.run.perform host world = (.error failure, s)) :
    ((eventsOf s.record = [] ∧
        ((∃ reason, failure = .unsupportedPlatform reason) ∨
          (∃ flag command fault, failure = .commandSpawn command fault ∧
            .captured { program := "uname", args := [flag] } (.error failure) ∈ s.record) ∨
          ∃ path marker reason, failure = .missingVersion path marker reason)) ∨
      ∃ x, (eventsOf s.record).getLast? = some (.stepStarted x) ∧ x.CanEndWith failure) ∧
    (∀ reason, failure ≠ .config reason) ∧ failure ≠ .toolchainMismatch "<none>" "<none>" := by
  have quiet := r.orderly_findPlatform.quiet host world
  have ends := r.ends_run host world
  rw [failed] at ends
  generalize result : (.error failure : Except Failure Report) = outcome at ends
  cases ends with
  | platformUnknown unknown =>
    cases result
    rw [unknown] at quiet
    rcases Release.failure_of_findPlatform proper unknown with
      ⟨reason, rfl⟩ | ⟨flag, command, fault, rfl, member⟩
    · exact ⟨.inl ⟨quiet, .inl ⟨reason, rfl⟩⟩, nofun, nofun⟩
    · exact ⟨.inl ⟨quiet, .inr (.inl ⟨flag, command, fault, rfl, member⟩)⟩, nofun, nofun⟩
  | @versionMissing platform other _ known missing =>
    cases result
    rw [known] at quiet
    obtain ⟨path, marker, reason, rfl⟩ : ∃ path marker reason,
        failure = .missingVersion path marker reason := by
      unfold Release.versionIn Version.resolve Except.mapError at missing
      split at missing
      · cases missing
        exact ⟨_, _, _, rfl⟩
      · cases missing
    exact ⟨.inl ⟨quiet, .inr (.inr ⟨path, marker, reason, rfl⟩)⟩, nofun, nofun⟩
  | @began platform version s' steps behind record finds went =>
    rw [finds.platform] at quiet
    cases went with
    | passed reached => cases result
    | @failed done left x p here before other t split reached fails =>
      cases result
      have blamed := reached.canEndWith proper split fails
      refine ⟨.inr ⟨x, ?_, blamed⟩, blamed.ne⟩
      rw [eventsOf_behind_quiet quiet, reached.eventsOf_failed fails, ← List.cons_append,
        List.getLast?_concat]

/-- The second cleaning fails by its command. -/
theorem command_failed_in_final_clean :
    let world : World Script.Tally := ⟨sourcesWith "1.0.0", uncleanScript.freshTally⟩
    let outcome := smallRelease.run.perform uncleanScript.host world
    uncleanScript.host.FailsByCommands ∧
      (eventsOf outcome.2.record).getLast? = some (.stepStarted .finalClean) ∧
      ∃ failure, outcome.1 = .error failure ∧ failure.OfCommand := by
  intro world outcome
  have proper := uncleanScript.failsByCommands_host
  have told : (eventsOf outcome.2.record).getLast? = some (.stepStarted .finalClean) := by
    decide +kernel
  have failed : outcome.1.toOption = none := by decide +kernel
  rcases result : outcome with ⟨failure | report, s⟩
  · rw [result] at told
    refine ⟨proper, told, failure, rfl, ?_⟩
    rcases (failure_of_run proper result).1 with ⟨untold, -⟩ | ⟨x, last, blamed⟩
    · rw [untold] at told
      cases told
    · cases told.symm.trans last
      exact blamed
  · rw [result] at failed
    cases failed

end ReleaseBuilder
