/-
# The target of the makefile

The mode decides for which target the makefile is asked, and nothing else. So on a host that does
not care for the target, two runs that differ in the mode do the same up to the build, where they
make one call for two targets, and the same again behind it. What the call ends with is the same,
but for the target in the text of a failure.
-/

import ReleaseBuilder.Proofs.Release.Placement
import ReleaseBuilder.Proofs.Release.Relevance
import ReleaseBuilder.Proofs.Work.Alike

namespace ReleaseBuilder

variable {σ : Type}

/-- The call of a makefile for a target. -/
def Command.make (system : OperatingSystem) (pair : Compilers) (target jobsFlag : String)
    (root : Path) : Command where
  program := system.makeProgram
  args := ["CXX=" ++ pair.cxx, "CC=" ++ pair.cc, "PLATFORM=" ++ target, "STATIC_LINK=true",
    jobsFlag]
  dir := some root

/-- The failure of a command, told for two targets that stand in the command's text. -/
inductive Failure.Retold (t t' : String) : Failure → Failure → Prop
  | failed (before after status : String) :
      Retold t t' (.commandFailed (before ++ "PLATFORM=" ++ t ++ after) status)
        (.commandFailed (before ++ "PLATFORM=" ++ t' ++ after) status)
  | unstarted (before after : String) (fault : Fault) :
      Retold t t' (.commandSpawn (before ++ "PLATFORM=" ++ t ++ after) fault)
        (.commandSpawn (before ++ "PLATFORM=" ++ t' ++ after) fault)

/-- Two results are the same, but for the target in the text of a failure. -/
def Failure.SameButTarget {α : Type} (t t' : String) (result result' : Except Failure α) : Prop :=
  result = result' ∨
    ∃ failure failure', result = .error failure ∧ result' = .error failure' ∧
      Retold t t' failure failure'

/-- A host does not care for the target of the makefile. For two targets the results are the same,
but for the text of a failure, and the worlds are alike then, which it does not tell apart. -/
structure Host.IgnoresTarget (host : Host σ) (R : σ → σ → Prop) : Prop where
  refl : ∀ state, R state state
  blind : host.Blind R
  make : ∀ system pair t t' jobsFlag root w w', w.Alike R w' →
    Failure.SameButTarget t t' (host.run (.make system pair t jobsFlag root) w).result
        (host.run (.make system pair t' jobsFlag root) w').result ∧
      (host.run (.make system pair t jobsFlag root) w).world.Alike R
        (host.run (.make system pair t' jobsFlag root) w').world

/-- Two commands with their parts are the same, but for the target of a makefile. -/
inductive Invocation.SameButTarget (t t' : String) : Invocation → Invocation → Prop
  | same (i : Invocation) : SameButTarget t t' i i
  | make (system : OperatingSystem) (pair : Compilers) (jobsFlag : String) (root : Path) :
      SameButTarget t t' ⟨.run, .make system pair t jobsFlag root⟩
        ⟨.run, .make system pair t' jobsFlag root⟩

/-- The same happened twice, but for what was shown and for the target of a makefile. -/
inductive Occurrence.SameButTarget (t t' : String) : Occurrence → Occurrence → Prop
  | alike {o o' : Occurrence} (h : o.Alike o') : SameButTarget t t' o o'
  | make (system : OperatingSystem) (pair : Compilers) (jobsFlag : String) (root : Path)
      (result result' : Except Failure Unit) (shown shown' : Shown) :
      SameButTarget t t' (.ran (.make system pair t jobsFlag root) result shown)
        (.ran (.make system pair t' jobsFlag root) result' shown')

/-- What work for two targets comes to: the same, but for the target. -/
structure Work.SameButTarget {α : Type} (R : σ → σ → Prop) (t t' : String)
    (ended ended' : Except Failure α × Session σ) : Prop where
  result : Failure.SameButTarget t t' ended.1 ended'.1
  world : ended.2.world.Alike R ended'.2.world
  record : List.Forall₂ (Occurrence.SameButTarget t t') ended.2.record ended'.2.record

/-! ## What two records have in common -/

section Records

variable {t t' : String} {record record' : List Occurrence}

theorem sameButTarget_refl (record : List Occurrence) :
    List.Forall₂ (Occurrence.SameButTarget t t') record record :=
  List.forall₂_same.mpr fun o _ => .alike (.refl o)

theorem eventsOf_eq_of_sameButTarget
    (h : List.Forall₂ (Occurrence.SameButTarget t t') record record') :
    eventsOf record = eventsOf record' := by
  induction h with
  | nil => rfl
  | @cons o o' rest rest' first _ ih =>
    have event : o.event? = o'.event? := by
      cases first with
      | make => rfl
      | alike h => cases h <;> rfl
    rw [eventsOf, List.filterMap_cons, event, ← eventsOf, ih]
    rfl

theorem commandLog_sameButTarget
    (h : List.Forall₂ (Occurrence.SameButTarget t t') record record') :
    List.Forall₂ (Invocation.SameButTarget t t') (commandLog record) (commandLog record') := by
  induction h with
  | nil => exact .nil
  | @cons o o' rest rest' first _ ih =>
    have invocations :
        List.Forall₂ (Invocation.SameButTarget t t') o.invocations o'.invocations := by
      cases first with
      | make system pair jobsFlag root => exact .cons (.make system pair jobsFlag root) .nil
      | alike h =>
        have same : o.invocations = o'.invocations := by cases h <;> rfl
        rw [same]
        exact List.forall₂_same.mpr fun i _ => .same i
    exact List.rel_append invocations ih

end Records

theorem Failure.SameButTarget.map {α β : Type} {t t' : String} {result result' : Except Failure α}
    (h : SameButTarget t t' result result') (f : α → β) :
    SameButTarget t t' (result.map f) (result'.map f) := by
  rcases h with rfl | ⟨failure, failure', rfl, rfl, retold⟩
  · exact .inl rfl
  · exact .inr ⟨failure, failure', rfl, rfl, retold⟩

theorem Failure.SameButTarget.both {α : Type} {t t' : String} {result result' : Except Failure α}
    (h : SameButTarget t t' result result') :
    (∃ failure failure', result = .error failure ∧ result' = .error failure') ∨
      ∃ a, result = .ok a ∧ result' = .ok a := by
  rcases h with rfl | ⟨failure, failure', failed, failed', -⟩
  · cases result with
    | error failure => exact .inl ⟨failure, failure, rfl, rfl⟩
    | ok a => exact .inr ⟨a, rfl, rfl⟩
  · exact .inl ⟨failure, failure', failed, failed'⟩

/-! ## Hosts that go by a script -/

theorem Command.text_make (system : OperatingSystem) (pair : Compilers) (target jobsFlag : String)
    (root : Path) :
    (make system pair target jobsFlag root).text =
      system.makeProgram ++ " CXX=" ++ pair.cxx ++ " CC=" ++ pair.cc ++ " " ++ "PLATFORM=" ++
        target ++ (" STATIC_LINK=true " ++ jobsFlag) := by
  apply String.toList_injective
  simp [Command.text, make]

namespace Script

variable {s : Script} {system : OperatingSystem} {pair : Compilers} {t t' jobsFlag : String}
  {root : Path}

/-- Patterns of a script name programs, and no commands with arguments. -/
def NamesPrograms (s : Script) : Prop :=
  (∀ refusal ∈ s.refusals, ' ' ∉ refusal.pattern.toList) ∧
    ∀ effect ∈ s.effects, ' ' ∉ effect.pattern.toList

/-- What names a program names the call of a makefile whatever its target. -/
theorem isNamedBy_make {pattern : String} (h : ' ' ∉ pattern.toList) :
    (Command.make system pair t jobsFlag root).isNamedBy pattern =
      decide (pattern = system.makeProgram) := by
  have other : pattern ≠ (Command.make system pair t jobsFlag root).text := by
    rintro rfl
    rw [Command.text_make] at h
    simp at h
  have program : (Command.make system pair t jobsFlag root).program = system.makeProgram := rfl
  simp [Command.isNamedBy, other, program]

theorem retold_failure (refusal : Refusal) :
    Failure.Retold t t' (refusal.failure (.make system pair t jobsFlag root))
      (refusal.failure (.make system pair t' jobsFlag root)) := by
  unfold Refusal.failure
  rw [Command.text_make, Command.text_make]
  cases refusal.status with
  | some status => exact .failed _ _ status
  | none => exact .unstarted _ _ _

/-- The same refusal fires for every target. -/
theorem refuse?_make (system : OperatingSystem) (pair : Compilers) (jobsFlag : String) (root : Path)
    {refusals : List Refusal} (h : ∀ refusal ∈ refusals, ' ' ∉ refusal.pattern.toList)
    (tally : Tally) :
    ∃ (refused : Option Refusal) (later : Tally), ∀ target,
      refuse? (.make system pair target jobsFlag root) refusals tally =
        (refused.map fun refusal => refusal.failure (.make system pair target jobsFlag root),
          later) := by
  induction refusals generalizing tally with
  | nil => exact ⟨none, tally, fun _ => rfl⟩
  | cons refusal rest ih =>
    obtain ⟨first, others⟩ := List.forall_mem_cons.mp h
    cases tally with
    | nil => exact ⟨none, [], fun _ => rfl⟩
    | cons count tally =>
      obtain ⟨refused, later, same⟩ := ih others tally
      simp only [refuse?, isNamedBy_make first, same]
      split
      · split
        · exact ⟨some refusal, _, fun _ => rfl⟩
        · exact ⟨refused, _, fun _ => rfl⟩
      · exact ⟨refused, _, fun _ => rfl⟩

theorem affect_make (h : s.NamesPrograms) (files : FileSystem) :
    s.affect (.make system pair t jobsFlag root) files =
      s.affect (.make system pair t' jobsFlag root) files := by
  unfold affect
  congr 1
  refine List.filter_congr fun effect member => ?_
  rw [isNamedBy_make (h.2 effect member), isNamedBy_make (h.2 effect member)]

/-- A host that goes by a script which names programs only does not care for the target. -/
theorem ignoresTarget_host (h : s.NamesPrograms) : s.host.IgnoresTarget Eq where
  refl _ := rfl
  blind := s.host.blind_eq
  make := by
    rintro system pair t t' jobsFlag root ⟨files, tally⟩ ⟨_, _⟩ ⟨rfl, rfl⟩
    obtain ⟨refused, later, same⟩ := refuse?_make system pair jobsFlag root h.1 tally
    simp only [host, run, same]
    cases refused with
    | some refusal => exact ⟨.inr ⟨_, _, rfl, rfl, retold_failure refusal⟩, rfl, rfl⟩
    | none => exact ⟨.inl rfl, affect_make h files, rfl⟩

end Script
namespace Release

/-- The release in a mode. -/
def inMode (r : Release) (mode : PlatformMode) : Release :=
  { r with settings := { r.settings with platformMode := mode } }

/-- The target that the makefile is asked for. -/
def target (r : Release) (platform : Platform) : String :=
  (r.buildFor platform .empty).target

variable {r : Release} {mode : PlatformMode} {platform : Platform} {version : String}
  {p : Progress} {host : Host σ} {R : σ → σ → Prop} {world w w' : World σ} {x : Step}

theorem makeCommand_eq (r : Release) (platform : Platform) (pair : Compilers) :
    (r.buildFor platform .empty).makeCommand pair =
      .make platform.system pair (r.target platform) r.jobsFlag r.root := by
  simp [Build.makeCommand, Build.command, buildFor, Command.make, target, Variables.apply,
    Command.withEnv, Command.within, Command.withArgs, Variables.empty]

/-! ## One step -/

/-- Nothing in the work of a step tells alike worlds apart. -/
theorem oblivious_work (blind : host.Blind R) (x : Step) :
    (r.work platform version p x).Oblivious host R := by
  have composes := Work.composes_oblivious blind
  refine composes_work composes (Work.oblivious_run blind)
    (fun c _ => Work.oblivious_capture blind c) (fun compiler family => ?_) r platform version p x
    fun _ => ?_
  · exact ((Work.oblivious_capture blind _).bind fun _ => Work.oblivious_pure _).tryCatch
      fun _ => Work.oblivious_pure _
  · refine Work.oblivious_files.bind fun files => (composes.ofExcept _).bind fun plan => ?_
    unfold Archive.package
    split
    · exact (Work.oblivious_onFiles _).bind fun _ => Work.oblivious_pure _
    · exact (Work.oblivious_pipe blind _ _ _).bind fun _ => Work.oblivious_pure _
    · exact (Work.oblivious_pipe blind _ _ _).bind fun _ => Work.oblivious_pure _

/-- The mode is read in the build only, and on Windows nowhere. -/
theorem agreeIn_inMode (r : Release) (mode : PlatformMode) {system : OperatingSystem}
    (h : x ≠ .build ∨ system = .windows) :
    r.settings.AgreeIn system x (r.inMode mode).settings := by
  cases x with
  | build =>
    obtain rfl := h.resolve_left fun other => other rfl
    exact ⟨rfl, rfl⟩
  | fetchSubmodules => exact rfl
  | bootstrapEnvironment => exact ⟨rfl, rfl⟩
  | clean | finalClean => trivial
  | selectToolchain => cases system <;> trivial
  | package => cases system <;> exact ⟨rfl, rfl, rfl⟩

/-- A step comes to the same in another mode, but for the target, and to exactly the same if it is
not the build. -/
theorem work_sameButTarget (r : Release) (mode : PlatformMode) (version : String) (x : Step)
    (ignores : host.IgnoresTarget R) (unix : platform.system ≠ .windows) (unset : p.env = .empty)
    (alike : w.Alike R w') :
    Work.SameButTarget R (r.target platform) ((r.inMode mode).target platform)
        ((r.work platform version p x).perform host w)
        (((r.inMode mode).work platform version p x).perform host w') ∧
      (x ≠ .build → ((r.work platform version p x).perform host w).1 =
        (((r.inMode mode).work platform version p x).perform host w').1) := by
  by_cases build : x = .build
  · subst build
    refine ⟨?_, fun other => absurd rfl other⟩
    rw [work_build, work_build, Work.perform_map, Work.perform_map, perform_build, perform_build,
      unset]
    cases p.compilers with
    | none =>
      rw [buildCommand_none (b := r.buildFor platform .empty) unix,
        buildCommand_none (b := (r.inMode mode).buildFor platform .empty) unix]
      exact ⟨.inl rfl, alike, .nil⟩
    | some pair =>
      rw [buildCommand_some (b := r.buildFor platform .empty) unix,
        buildCommand_some (b := (r.inMode mode).buildFor platform .empty) unix, makeCommand_eq,
        makeCommand_eq]
      obtain ⟨result, world⟩ := ignores.make platform.system pair (r.target platform)
        ((r.inMode mode).target platform) r.jobsFlag r.root w w' alike
      dsimp only
      rw [Work.perform_run, Work.perform_run]
      exact ⟨result.map _, world, .cons (.make _ _ _ _ _ _ _ _) .nil⟩
  · have work : ((r.inMode mode).work platform version p x : Work σ Progress) =
        r.work platform version p x :=
      work_congr (agreeIn_inMode r mode (.inl build)) fun _ => rfl
    rw [work]
    obtain ⟨result, behind⟩ := (oblivious_work ignores.blind x).perform alike
    exact ⟨⟨.inl result, behind.world, behind.record.imp fun _ _ => .alike⟩, fun _ => result⟩

/-! ## A whole run -/

/-- Steps come to the same in another mode, but for the target, and to exactly the same unless the
build fails. -/
theorem take_sameButTarget (ignores : host.IgnoresTarget R) (unix : platform.system ≠ .windows)
    {steps : List Step} (unprepared : .bootstrapEnvironment ∉ steps) (unset : p.env = .empty)
    (alike : w.Alike R w') :
    let taken := (r.take platform version steps p).perform host w
    let taken' := ((r.inMode mode).take platform version steps p).perform host w'
    Work.SameButTarget R (r.target platform) ((r.inMode mode).target platform) taken taken' ∧
      (taken.1 = taken'.1 ∨ (eventsOf taken.2.record).getLast? = some (.stepStarted .build)) := by
  induction steps generalizing p w w' with
  | nil => exact ⟨⟨.inl rfl, alike, .nil⟩, .inl rfl⟩
  | cons x rest ih =>
    rw [List.mem_cons, not_or] at unprepared
    obtain ⟨noSetUp, unprepared⟩ := unprepared
    have quiet := (r.orderly_work platform version p x).quiet host w
    obtain ⟨step, exactly⟩ := work_sameButTarget r mode version x ignores unix unset alike
    rw [take, take, Work.perform_bind host w (r.addsToRecord_take platform version rest),
      Work.perform_bind host w' ((r.inMode mode).addsToRecord_take platform version rest),
      Work.perform_step host w (r.orderly_work platform version p x).adds,
      Work.perform_step host w' ((r.inMode mode).orderly_work platform version p x).adds]
    rcases first : (r.work platform version p x).perform host w with ⟨result, s⟩
    rcases second : ((r.inMode mode).work platform version p x).perform host w' with ⟨result', s'⟩
    rw [first, second] at step exactly
    rw [first] at quiet
    rcases step.result.both with ⟨failure, failure', rfl, rfl⟩ | ⟨after, rfl, rfl⟩
    · -- The step fails, so it is the last, and it is the build unless the failures are equal.
      refine ⟨⟨step.result, step.world, .cons (.alike (.event _)) step.record⟩, ?_⟩
      by_cases build : x = .build
      · right
        change (.stepStarted x :: eventsOf s.record).getLast? = _
        rw [quiet, build]
        rfl
      · exact .inl (exactly build)
    · -- The step succeeds in both modes with the same progress, in which no variables are known yet.
      have env : after.env = .empty := (env_of_work first (Ne.symm noSetUp)).trans unset
      obtain ⟨behind, last⟩ := ih unprepared env step.world
      refine ⟨⟨behind.result, behind.world, ?_⟩, last.imp_right fun told => ?_⟩
      · have passed := List.rel_append (.cons (.alike (.event (.stepStarted x))) step.record)
          (.cons (.alike (.event (.stepFinished x))) .nil)
        exact List.rel_append passed behind.record
      · dsimp only
        rw [Session.followedBy_record, eventsOf_append, List.getLast?_append, told]
        rfl

/-- On Windows nothing depends on the mode. -/
theorem perform_run_inMode_of_windows (mode : PlatformMode)
    (windows : ∀ platform, (r.findPlatform.perform host world).1 = .ok platform →
      platform.system = .windows) :
    (r.inMode mode).run.perform host world = r.run.perform host world := by
  refine perform_run_of_agreeIn (fun platform found => ⟨rfl, rfl, fun x _ => ?_⟩) fun _ _ _ => rfl
  exact agreeIn_inMode r mode (.inr (windows platform found))

/-- On linux and mac a run comes to the same in another mode, but for the target, and to exactly the
same unless the build fails. -/
theorem run_sameButTarget (r : Release) (mode : PlatformMode) (ignores : host.IgnoresTarget R)
    (known : (r.findPlatform.perform host world).1 = .ok platform)
    (unix : platform.system ≠ .windows) :
    let outcome := r.run.perform host world
    let outcome' := (r.inMode mode).run.perform host world
    Work.SameButTarget R (r.target platform) ((r.inMode mode).target platform) outcome outcome' ∧
      (outcome.1 = outcome'.1 ∨
        (eventsOf outcome.2.record).getLast? = some (.stepStarted .build)) := by
  have detection : r.findPlatform.perform host world =
      (.ok platform, (r.findPlatform.perform host world).2) := Prod.ext known rfl
  generalize (r.findPlatform.perform host world).2 = s at detection
  have detection' : (r.inMode mode).findPlatform.perform host world = (.ok platform, s) :=
    detection
  have alike := World.Alike.refl ignores.refl s.world
  cases resolution : r.versionIn s.world.files with
  | error failure =>
    have resolution' : (r.inMode mode).versionIn s.world.files = .error failure := resolution
    rw [run_of_versionMissing detection resolution, run_of_versionMissing detection' resolution']
    exact ⟨⟨.inl rfl, alike, sameButTarget_refl _⟩, .inl rfl⟩
  | ok version =>
    have finds : r.Finds host world platform version s := ⟨detection, resolution⟩
    have finds' : (r.inMode mode).Finds host world platform version s := ⟨detection', resolution⟩
    have unprepared : .bootstrapEnvironment ∉ r.sequence platform :=
      fun member => unix (mem_sequence_iff.mp member)
    have steps : (r.inMode mode).sequence platform = r.sequence platform := rfl
    rw [finds.perform_run, finds'.perform_run, steps]
    obtain ⟨taken, last⟩ :=
      take_sameButTarget (r := r) (p := {}) ignores unix unprepared rfl alike
    refine ⟨⟨taken.result.map _, taken.world, ?_⟩, ?_⟩
    · exact List.rel_append (sameButTarget_refl _) (.cons (.alike (.event _)) taken.record)
    · refine last.imp (congrArg (Except.map (reportOf platform version))) fun told => ?_
      generalize (r.take platform version (r.sequence platform) {}).perform host s.world = ended
        at told ⊢
      have events : eventsOf (s.record ++ .event (.started version platform platform.tag) ::
          ended.2.record) = eventsOf s.record ++
            .started version platform platform.tag :: eventsOf ended.2.record :=
        eventsOf_append _ _
      rw [events, List.getLast?_append, List.getLast?_cons, told]
      rfl

end Release

/-- The tag that a run reports and tells is that of its platform. -/
theorem tag_of_run (r : Release) (host : Host σ) (world : World σ) :
    (∀ report, (r.run.perform host world).1 = .ok report →
      (r.findPlatform.perform host world).1 = .ok report.platform ∧
        report.tag = report.platform.tag) ∧
    ∀ version platform tag,
      .started version platform tag ∈ eventsOf (r.run.perform host world).2.record →
        tag = platform.tag := by
  have quiet := r.orderly_findPlatform.quiet host world
  have ends := r.ends_run host world
  generalize r.run.perform host world = outcome at ends ⊢
  obtain ⟨result, session⟩ := outcome
  cases ends with
  | platformUnknown unknown =>
    rw [unknown] at quiet
    refine ⟨nofun, fun version platform tag told => ?_⟩
    rw [quiet] at told
    cases told
  | versionMissing known missing =>
    rw [known] at quiet
    refine ⟨nofun, fun version platform tag told => ?_⟩
    rw [quiet] at told
    cases told
  | @began platform version s steps behind record finds went =>
    rw [finds.platform] at quiet ⊢
    constructor
    · intro report reported
      cases steps with
      | error failure => cases reported
      | ok p =>
        cases reported
        exact ⟨rfl, rfl⟩
    · intro version' platform' tag told
      rw [eventsOf_behind_quiet quiet] at told
      cases went.eq_of_started told
      rfl

/-- The mode changes nothing but the target of the makefile. On Windows it changes nothing at all.
Elsewhere, on a host that does not care for the target, a run tells the same in both modes, leaves
the same files, and makes the same calls, but for the target that the build command names. The
result is the same too, unless the build fails. Then the failures are the same, but for the target
in the text of the command. The tag is that of the platform in either mode. -/
theorem perform_run_inMode (r : Release) (mode : PlatformMode) (host : Host σ) (world : World σ) :
    let detection := (r.findPlatform.perform host world).1
    let outcome := r.run.perform host world
    let outcome' := (r.inMode mode).run.perform host world
    ((∀ platform, detection = .ok platform → platform.system = .windows) → outcome' = outcome) ∧
    (∀ platform R, detection = .ok platform → platform.system ≠ .windows → host.IgnoresTarget R →
      let t := r.target platform
      let t' := (r.inMode mode).target platform
      eventsOf outcome'.2.record = eventsOf outcome.2.record ∧
      outcome'.2.world.files = outcome.2.world.files ∧
      List.Forall₂ (Invocation.SameButTarget t t') (commandLog outcome.2.record)
        (commandLog outcome'.2.record) ∧
      (outcome.1 = outcome'.1 ∨
        Failure.SameButTarget t t' outcome.1 outcome'.1 ∧
          (eventsOf outcome.2.record).getLast? = some (.stepStarted .build))) ∧
    (∀ report, outcome.1 = .ok report ∨ outcome'.1 = .ok report →
      detection = .ok report.platform ∧ report.tag = report.platform.tag) ∧
    ∀ version platform tag,
      .started version platform tag ∈ eventsOf outcome.2.record ∨
        .started version platform tag ∈ eventsOf outcome'.2.record →
      tag = platform.tag := by
  intro detection outcome outcome'
  obtain ⟨reported, told⟩ := tag_of_run r host world
  obtain ⟨reported', told'⟩ := tag_of_run (r.inMode mode) host world
  refine ⟨Release.perform_run_inMode_of_windows mode, ?_, ?_, ?_⟩
  · intro platform R known unix ignores t t'
    obtain ⟨same, last⟩ := Release.run_sameButTarget r mode ignores known unix
    refine ⟨(eventsOf_eq_of_sameButTarget same.record).symm, same.world.files.symm,
      commandLog_sameButTarget same.record, ?_⟩
    exact last.imp_right fun build => ⟨same.result, build⟩
  · intro report either
    exact either.elim (reported report) (reported' report)
  · intro version platform tag either
    exact either.elim (told version platform tag) (told' version platform tag)

/-- A script by which all is well until the build. -/
def unbuildableScript : Script :=
  { readyScript with refusals := [⟨"make", some "exit status: 2", some 2⟩] }

/-- A build that fails does so in both modes, and the failures differ in the target only. -/
theorem unbuilt_in_both_modes :
    let world : World Script.Tally := ⟨sourcesWith "1.0.0", unbuildableScript.freshTally⟩
    let outcome := linuxRelease.run.perform unbuildableScript.host world
    let outcome' := (linuxRelease.inMode .native).run.perform unbuildableScript.host world
    unbuildableScript.host.IgnoresTarget Eq ∧
      eventsOf outcome'.2.record = eventsOf outcome.2.record ∧
      (eventsOf outcome.2.record).getLast? = some (.stepStarted .build) ∧
      ∃ failure failure', outcome.1 = .error failure ∧ outcome'.1 = .error failure' ∧
        failure ≠ failure' ∧ Failure.Retold "generic" "avx" failure failure' := by
  intro world outcome outcome'
  have ignores : unbuildableScript.host.IgnoresTarget Eq :=
    Script.ignoresTarget_host (by unfold Script.NamesPrograms; decide)
  have differ : outcome.1 ≠ outcome'.1 := by decide +kernel
  obtain ⟨events, -, -, results⟩ := (perform_run_inMode linuxRelease .native unbuildableScript.host
    world).2.1 ⟨.linux, .x64⟩ Eq rfl (by decide) ignores
  obtain ⟨same, last⟩ := results.resolve_left differ
  obtain ⟨failure, failure', failed, failed', retold⟩ := same.resolve_left differ
  refine ⟨ignores, events, last, failure, failure', failed, failed', ?_, retold⟩
  rintro rfl
  exact differ (failed.trans failed'.symm)

end ReleaseBuilder
