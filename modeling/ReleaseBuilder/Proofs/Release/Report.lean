/-
# What a run reports

The compilers that are selected, those that the makefile is given and those that are reported
are the same, and the platform, the version and the archive are those that were told at the
start. To see this for a call of make, the call is followed back to the step that made it, and
from there to the selection before it.
-/

import ReleaseBuilder.Proofs.Release.CommandPlan

namespace ReleaseBuilder

variable {σ : Type}

open Compilers

section Steps

variable {r : Release} {platform : Platform} {version : String} {host : Host σ} {start : World σ}

/-! ## What is known behind steps -/

/-- Behind the selection the compilers are those that it recorded. -/
theorem Release.Reaches.exists_selection {done : List Step} {p : Progress} {world : World σ}
    {record : List Occurrence}
    (reached : r.Reaches platform version host start done p world record)
    (h : .selectToolchain ∈ done) :
    ∃ selection, selection <:+: record ∧
      Selected r.settings.gnuCandidates platform.system selection (.ok p.compilers) := by
  induction reached with
  | start => cases h
  | @step done p after world record x s reached succeeds ih =>
      by_cases select : x = .selectToolchain
      · subst select
        obtain ⟨compilers, selecting, rfl⟩ := Release.known_of_work succeeds
        have selected := selected_of_select host world platform.system r.settings.gnuCandidates
        rw [selecting] at selected
        refine ⟨s.record, ?_, selected⟩
        exact ⟨record ++ [.event (.stepStarted .selectToolchain)],
          [.event (.stepFinished .selectToolchain)], by simp [Release.passage]⟩
      · have earlier : .selectToolchain ∈ done := by
          rcases List.mem_append.mp h with h | h
          · exact h
          · exact absurd (List.mem_singleton.mp h).symm select
        obtain ⟨selection, part, selected⟩ := ih earlier
        rw [Release.compilers_of_work succeeds select]
        exact ⟨selection, part.trans (List.prefix_append _ _).isInfix, selected⟩

/-- Without a selection there are no compilers. -/
theorem Release.Reaches.compilers_eq_none {done : List Step} {p : Progress} {world : World σ}
    {record : List Occurrence}
    (reached : r.Reaches platform version host start done p world record)
    (h : .selectToolchain ∉ done) : p.compilers = none := by
  induction reached with
  | start => rfl
  | @step done p after world record x s reached succeeds ih =>
      rw [List.mem_append, List.mem_singleton, not_or] at h
      rw [Release.compilers_of_work succeeds (Ne.symm h.2)]
      exact ih h.1

/-- Behind packaging the archive is known. -/
theorem Release.Reaches.archive_eq {done : List Step} {p : Progress} {world : World σ}
    {record : List Occurrence}
    (reached : r.Reaches platform version host start done p world record)
    (h : .package ∈ done) : p.archive = r.archivePath platform version := by
  induction reached with
  | start => cases h
  | @step done p after world record x s reached succeeds ih =>
      by_cases package : x = .package
      · subst package
        obtain ⟨archive, packing, rfl⟩ := Release.known_of_work succeeds
        exact Release.eq_archivePath_of_package packing
      · have earlier : .package ∈ done := by
          rcases List.mem_append.mp h with h | h
          · exact h
          · exact absurd (List.mem_singleton.mp h).symm package
        rw [Release.archive_of_work succeeds package]
        exact ih earlier

/-! ## Where an occurrence comes from -/

variable (r platform version host) in
/-- An occurrence, with `before` recorded before it, is recorded by the work of one of `steps`.
Unless compilers are selected from there on, they are those that are known in `last`. -/
inductive Origin (start : World σ) (steps : List Step) (last : Progress)
    (before : List Occurrence) (o : Occurrence) : Prop
  | step {passed left : List Step} {x : Step} {p : Progress} {here : World σ}
      {earlier : List Occurrence} (whole : steps = passed ++ x :: left)
      (reached : r.Reaches platform version host start passed p here earlier)
      (part : earlier <+: before)
      (member : o ∈ ((r.work platform version p x).perform host here).2.record)
      (known : .selectToolchain ∉ x :: left → last.compilers = p.compilers) :
      Origin start steps last before o

/-- What is recorded of steps that were passed, events apart, is recorded by the work of one of
them. -/
theorem Release.Reaches.origin {done : List Step} {p : Progress} {world : World σ}
    {record : List Occurrence}
    (reached : r.Reaches platform version host start done p world record)
    {before after : List Occurrence} {o : Occurrence} (split : record = before ++ o :: after)
    (noEvent : ∀ e, o ≠ .event e) : Origin r platform version host start done p before o := by
  induction reached generalizing before after with
  | start => simp at split
  | @step done p final world record x s reached succeeds ih =>
      rcases split_of_append split with ⟨between, rfl, inPassage⟩ | ⟨between, inRecord⟩
      · -- It is recorded by the last step.
        refine .step rfl reached (List.prefix_append _ _) ?_ ?_
        · rw [succeeds]
          have member : o ∈ Release.passage x s.record := by
            rw [inPassage]
            simp
          simp only [Release.passage, List.mem_append, List.mem_cons, List.not_mem_nil,
            or_false] at member
          rcases member with (rfl | member) | rfl
          · exact absurd rfl (noEvent _)
          · exact member
          · exact absurd rfl (noEvent _)
        · intro noSelection
          exact Release.compilers_of_work succeeds fun select =>
            noSelection (select ▸ List.mem_cons_self)
      · obtain ⟨whole, reachedY, part, member, known⟩ := ih inRecord
        refine .step (by rw [whole, List.append_assoc, List.cons_append]) reachedY part member ?_
        intro noSelection
        rw [← List.cons_append, List.mem_append, not_or, List.mem_singleton] at noSelection
        rw [Release.compilers_of_work succeeds (Ne.symm noSelection.2)]
        exact known noSelection.1

/-- The steps of a run that began, with the last state in which they are known: what succeeds
ends in that state, and what is recorded can be followed back to a step. -/
theorem Release.Went.origin {steps : List Step} {result : Except Failure Progress}
    {behind : World σ} {record : List Occurrence}
    (went : r.Went platform version host start steps result behind record) :
    ∃ last : Progress, (∀ p, result = .ok p → p = last) ∧
      ∀ before o after, record = before ++ o :: after → (∀ e, o ≠ .event e) →
        Origin r platform version host start steps last before o := by
  cases went with
  | @passed p _ _ reached =>
    refine ⟨p, fun _ same => (Except.ok.inj same).symm, ?_⟩
    intro before o after split noEvent
    exact reached.origin split noEvent
  | @failed done left x p world earlier failure s whole reached fails =>
    refine ⟨p, (fun _ same => nomatch same), ?_⟩
    intro before o after split noEvent
    rcases split_of_append split with ⟨between, rfl, inStep⟩ | ⟨between, inRecord⟩
    · refine .step whole reached (List.prefix_append _ _) ?_ fun _ => rfl
      have member : o ∈ .event (.stepStarted x) :: s.record := by
        rw [inStep]
        simp
      rw [fails]
      exact (List.mem_cons.mp member).resolve_left (noEvent _)
    · obtain ⟨inDone, reachedY, part, member, known⟩ := reached.origin inRecord noEvent
      refine .step (by rw [whole, inDone, List.append_assoc, List.cons_append]) reachedY part
        member ?_
      intro noSelection
      apply known
      intro inside
      apply noSelection
      rw [← List.cons_append]
      exact List.mem_append_left _ inside

/-! ## Calls of make -/

theorem eq_makeCommand_of_buildCommand {b : Build} {compilers : Option Compilers} {c : Command}
    (unix : b.platform.system ≠ .windows) (h : b.buildCommand compilers = .ok c) :
    ∃ pair, compilers = some pair ∧ c = b.makeCommand pair := by
  unfold Build.buildCommand at h
  split at h
  · next windows => exact absurd windows unix
  · next pair _ =>
    cases h
    exact ⟨pair, rfl, rfl⟩
  · cases h

/-- Which step on linux or mac runs which command. -/
theorem ran_of_work {p : Progress} {x : Step} {world : World σ} {c : Command}
    {result : Except Failure Unit} {shown : Shown} (unix : platform.system ≠ .windows)
    (h : .ran c result shown ∈ ((r.work platform version p x).perform host world).2.record) :
    c.program = "git" ∨ c.args = ["clean"] ∨
      x = .build ∧ ∃ pair, p.compilers = some pair ∧
        c = (r.buildFor platform p.env).makeCommand pair := by
  cases x with
  | fetchSubmodules =>
    rw [Release.work_fetchSubmodules, Work.perform_map, Work.perform_run] at h
    obtain ⟨rfl, -⟩ := Occurrence.ran.inj (List.mem_singleton.mp h)
    exact .inl rfl
  | clean =>
    rw [Release.work_clean, Work.perform_map,
      Release.perform_clean host world (b := r.buildFor platform p.env) unix,
      Work.perform_run] at h
    obtain ⟨rfl, -⟩ := Occurrence.ran.inj (List.mem_singleton.mp h)
    exact .inr (.inl rfl)
  | finalClean =>
    rw [Release.work_finalClean, Work.perform_map,
      Release.perform_clean host world (b := r.buildFor platform p.env) unix,
      Work.perform_run] at h
    obtain ⟨rfl, -⟩ := Occurrence.ran.inj (List.mem_singleton.mp h)
    exact .inr (.inl rfl)
  | selectToolchain =>
    rw [Release.work_selectToolchain, Work.perform_map] at h
    have asks := (selected_of_select host world platform.system r.settings.gnuCandidates).asks _ h
    rcases asks with ⟨_, _, same⟩ | ⟨_, _, same⟩ <;> cases same
  | bootstrapEnvironment =>
    rw [Release.work_bootstrapEnvironment, Work.perform_map] at h
    have prepared := Variables.prepared_of_developer host world r.settings r.inherited
    obtain ⟨_, _, same⟩ := prepared.captures _ h
    cases same
  | package =>
    rw [Release.work_package, Work.perform_map, Release.perform_package] at h
    split at h
    · cases h
    · simp only [Release.packing_by_commands unix, Work.perform_map, Work.perform_pipe] at h
      cases List.mem_singleton.mp h
  | build =>
    rw [Release.work_build, Work.perform_map, Release.perform_build] at h
    split at h
    · cases h
    · next made =>
      rw [Work.perform_run] at h
      obtain ⟨rfl, -⟩ := Occurrence.ran.inj (List.mem_singleton.mp h)
      exact .inr (.inr ⟨rfl, eq_makeCommand_of_buildCommand unix made⟩)

/-- A call of make that does not clean is the build, with the compilers that the run selected
before. -/
theorem Origin.makeCall {last : Progress} {before : List Occurrence} {c : Command}
    {result : Except Failure Unit} {shown : Shown}
    (h : Origin r platform version host start (r.sequence platform) last before
      (.ran c result shown))
    (unix : platform.system ≠ .windows) (make : c.program = platform.system.makeProgram)
    (noClean : c.args ≠ ["clean"]) :
    ∃ pair selection, last.compilers = some pair ∧ selection <:+: before ∧
      Selected r.settings.gnuCandidates platform.system selection (.ok (some pair)) ∧
      c.args = ["CXX=" ++ pair.cxx, "CC=" ++ pair.cc,
        "PLATFORM=" ++ (if r.settings.platformMode = .generic then "generic" else platform.tag),
        "STATIC_LINK=true", r.jobsFlag] := by
  obtain @⟨passed, left, x, q, here, earlier, whole, reached, part, member, known⟩ := h
  rcases ran_of_work unix member with git | clean | ⟨rfl, pair, compilers, rfl⟩
  · rw [git] at make
    cases system : platform.system with
    | windows => exact absurd system unix
    | linux | mac =>
      rw [system] at make
      exact absurd make (by decide)
  · exact absurd clean noClean
  · have selecting : .selectToolchain ∈ passed := (Release.mem_before_iff whole).mpr
      ⟨Release.mem_sequence_iff.mpr unix, by decide⟩
    obtain ⟨selection, inEarlier, selected⟩ := reached.exists_selection selecting
    rw [compilers] at selected
    have notLater : .selectToolchain ∉ .build :: left := by
      intro later
      have ordered := r.pairwise_rank_sequence platform
      rw [whole, List.pairwise_append] at ordered
      exact absurd (ordered.2.2 _ selecting _ later) (Nat.lt_irrefl _)
    refine ⟨pair, selection, (known notLater).trans compilers,
      inEarlier.trans part.isInfix, selected, ?_⟩
    cases mode : r.settings.platformMode <;>
      simp [Build.makeCommand, Build.command, Release.buildFor, Build.target, mode,
        Command.withArgs, Command.within, Variables.apply, Command.withEnv]

end Steps

/-! ## Whole runs -/

theorem Release.Went.reached {r : Release} {platform : Platform} {version : String}
    {host : Host σ} {start behind : World σ} {steps : List Step} {p : Progress}
    {record : List Occurrence}
    (went : r.Went platform version host start steps (.ok p) behind record) :
    r.Reaches platform version host start steps p behind record := by
  cases went
  assumption

/-- Behind all steps there are no compilers exactly on Windows. -/
theorem compilers_eq_none_iff {r : Release} {platform : Platform} {version : String}
    {host : Host σ} {start world : World σ} {p : Progress} {record : List Occurrence}
    (reached :
      r.Reaches platform version host start (r.sequence platform) p world record) :
    p.compilers = none ↔ platform.system = .windows := by
  constructor
  · intro noCompilers
    refine Decidable.byContradiction fun unix => ?_
    obtain ⟨selection, -, selected⟩ :=
      reached.exists_selection (Release.mem_sequence_iff.mpr unix)
    rw [noCompilers] at selected
    exact unix selected.eq_windows
  · intro windows
    exact reached.compilers_eq_none fun member => Release.mem_sequence_iff.mp member windows

/-- No command is run on the terminal to find out the platform. -/
theorem not_ran_of_findPlatform {r : Release} {host : Host σ} {world : World σ} {c : Command}
    {result : Except Failure Unit} {shown : Shown} :
    .ran c result shown ∉ (r.findPlatform.perform host world).2.record := by
  intro member
  have queries := (follows_findPlatform r host world).1.subset
  have logged : ⟨.run, c⟩ ∈ commandLog (r.findPlatform.perform host world).2.record :=
    List.mem_flatMap.mpr ⟨_, member, List.mem_singleton_self _⟩
  have query := queries logged
  unfold Release.detectionCommands at query
  split at query <;> simp at query

/-- A platform that is given is found out without a call. -/
theorem world_of_findPlatform {r : Release} {host : Host σ} {world : World σ}
    {platform : Platform} {s : Session σ}
    (found : r.findPlatform.perform host world = (.ok platform, s))
    (given : r.platform.isSome) : s.world = world := by
  unfold Release.findPlatform at found
  split at found
  · cases found
    rfl
  · next none => simp [none] at given

/-- The compilers, the platform and the version of a run are the same wherever they appear. The
makefile is given the compilers that the run selected before, which showed that they are GNU
compilers, and the same are reported; what else is reported was told at the start. The version is
that of the sources as they were once the platform was known, and so as they were at first if the
platform was given. -/
theorem report_run (r : Release) (host : Host σ) (world : World σ) :
    let detection := r.findPlatform.perform host world
    let outcome := r.run.perform host world
    let versionIn := fun files : FileSystem =>
      Version.resolve files (r.root.join r.settings.versionFile) r.settings.versionMarker
    ∃ chosen : Option Compilers,
      (∀ platform before c result shown after, detection.1 = .ok platform →
        platform.system ≠ .windows → outcome.2.record = before ++ .ran c result shown :: after →
        c.program = platform.system.makeProgram → c.args ≠ ["clean"] →
        ∃ pair selection cxxOutput ccOutput, chosen = some pair ∧
          selection <:+: before ∧
          Selected r.settings.gnuCandidates platform.system selection (.ok (some pair)) ∧
          .captured { program := pair.cxx, args := ["--version"] } (.ok cxxOutput) ∈ before ∧
          Identifies cxxOutput.stdout "g++" ∧
          .captured { program := pair.cc, args := ["--version"] } (.ok ccOutput) ∈ before ∧
          Identifies ccOutput.stdout "gcc" ∧
          c.args = ["CXX=" ++ pair.cxx, "CC=" ++ pair.cc,
            "PLATFORM=" ++
              (if r.settings.platformMode = .generic then "generic" else platform.tag),
            "STATIC_LINK=true", r.jobsFlag]) ∧
      ∀ report, outcome.1 = .ok report →
        report.compilers = chosen ∧
        (report.compilers = none ↔ report.platform.system = .windows) ∧
        detection.1 = .ok report.platform ∧
        versionIn detection.2.world.files = .ok report.version ∧
        (r.platform.isSome → versionIn world.files = .ok report.version) ∧
        report.tag = report.platform.tag ∧
        (eventsOf outcome.2.record).head? =
          some (.started report.version report.platform report.tag) ∧
        report.archive = (r.outputDir.getD r.root).join
          (.ofText (Archive.fileName r.settings.product report.version report.platform)) := by
  intro detection outcome versionIn
  have quiet := r.orderly_findPlatform.quiet host world
  have noRan := @not_ran_of_findPlatform _ r host world
  have ends := r.ends_run host world
  change eventsOf detection.2.record = [] at quiet
  change ∀ {c result shown}, _ ∉ detection.2.record at noRan
  change r.Ends host world outcome.1 outcome.2 at ends
  obtain ⟨result, session⟩ := outcome
  cases ends with
  | platformUnknown unknown =>
    have here : detection = (_, session) := unknown
    refine ⟨none, ?_, fun report same => nomatch same⟩
    intro platform before c result shown after known
    rw [here] at known
    cases known
  | versionMissing known missing =>
    have here : detection = (_, session) := known
    refine ⟨none, ?_, fun report same => nomatch same⟩
    intro platform before c result shown after _ _ split
    rw [here, show session.record = _ from split] at noRan
    exact absurd (List.mem_append_right before List.mem_cons_self) noRan
  | @began platform version s result behind record finds went =>
    have here : detection = (.ok platform, s) := finds.platform
    rw [here] at quiet noRan
    obtain ⟨last, isLast, origin⟩ := went.origin
    refine ⟨last.compilers, ?_, ?_⟩
    · intro found before c result shown after known unix split make noClean
      rw [here] at known
      obtain rfl : platform = found := Except.ok.inj known
      rcases split_of_append split with ⟨between, rfl, inSteps⟩ | ⟨between, inDetection⟩
      · rcases between with _ | ⟨told, between⟩
        · cases inSteps
        · obtain ⟨rfl, inRecord⟩ := List.cons.inj inSteps
          have inBefore : between <:+: s.record ++
              .event (.started version platform platform.tag) :: between :=
            ((List.suffix_cons _ _).trans (List.suffix_append _ _)).isInfix
          obtain ⟨pair, selection, chosen, part, selected, args⟩ :=
            (origin between _ after inRecord nofun).makeCall unix make noClean
          obtain ⟨cxxOutput, ccOutput, cxxAsked, cxxShown, ccAsked, ccShown⟩ := selected.shown
          have inside := (part.trans inBefore).subset
          exact ⟨pair, selection, cxxOutput, ccOutput, chosen, part.trans inBefore, selected,
            inside cxxAsked, cxxShown, inside ccAsked, ccShown, args⟩
      · rw [inDetection] at noRan
        exact absurd (List.mem_append_right before List.mem_cons_self) noRan
    · intro report same
      cases result with
      | error failure => cases same
      | ok p =>
        obtain rfl := isLast p rfl
        cases same
        have reached := went.reached
        have version_known : versionIn s.world.files = .ok version := finds.version
        refine ⟨rfl, compilers_eq_none_iff reached, ?_, ?_, ?_, rfl, ?_, ?_⟩
        · rw [here]
          rfl
        · rw [here]
          exact version_known
        · intro given
          rw [← world_of_findPlatform finds.platform given]
          exact version_known
        · rw [eventsOf_append, quiet]
          rfl
        · exact reached.archive_eq (Release.mem_sequence_iff.mpr trivial)

/-! The version is not always that of the sources as they were at first. The platform is found out
before the version, by commands, and a command may do anything. -/

/-- A linux host that puts other sources down when it is asked for its kernel. -/
def rewritingHost : Host Unit where
  run _ world := { result := .ok (), world }
  capture c world :=
    if c = Platform.nameQuery "-s" then
      (.ok ⟨"Linux", true⟩, { world with files := sourcesWith "2.0.0" })
    else if c = Platform.nameQuery "-m" then (.ok ⟨"x86_64", true⟩, world)
    else (.ok ⟨"g++ (GCC), gcc (GCC)", true⟩, world)
  pipe _ _ _ world := { result := .ok (), world }
  locate _ _ := none

/-- A run that reports another version than its sources had at first, on a host whose answers
depend on the commands only. -/
theorem version_not_of_first_sources :
    (∀ c (w w' : World Unit), (rewritingHost.capture c w).1 = (rewritingHost.capture c w').1) ∧
      ∃ report, (smallRelease.run.perform rewritingHost ⟨sourcesWith "1.0.0", ()⟩).1 =
          .ok report ∧
        report.platform.system = .linux ∧
        Version.resolve (sourcesWith "1.0.0")
          (smallRelease.root.join smallRelease.settings.versionFile)
          smallRelease.settings.versionMarker ≠ .ok report.version := by
  refine ⟨?_, ?_⟩
  · intro c w w'
    simp only [rewritingHost]
    split
    · rfl
    · split <;> rfl
  · have reported : (smallRelease.run.perform rewritingHost
        ⟨sourcesWith "1.0.0", ()⟩).1.toOption.map (fun report =>
          (report.platform.system, report.version)) = some (.linux, "2.0.0") := by
      decide +kernel
    have first : (Version.resolve (sourcesWith "1.0.0")
        (smallRelease.root.join smallRelease.settings.versionFile)
        smallRelease.settings.versionMarker).toOption = some "1.0.0" := by
      decide +kernel
    cases outcome : (smallRelease.run.perform rewritingHost ⟨sourcesWith "1.0.0", ()⟩).1 with
    | error failure =>
      rw [outcome] at reported
      cases reported
    | ok report =>
      rw [outcome] at reported
      obtain ⟨system, version⟩ := Prod.mk.inj (Option.some.inj reported)
      refine ⟨report, rfl, system, fun same => ?_⟩
      rw [same, version] at first
      exact absurd first (by decide)

end ReleaseBuilder
