/-
# Where commands run, and with which variables

The work of a step makes one of a few calls, and `Records` lists them. A run takes each of its
steps in one state only, so every call that it records can be followed back to the step that made
it, and from there to what was known by then. This shows where each command runs, and that no
variables of the developer environment reach any command but the build on Windows.
-/

import ReleaseBuilder.Proofs.Release.Packaging

namespace ReleaseBuilder

variable {σ : Type}

/-! ## The commands of a build -/

namespace Build

variable (b : Build) (program : String) (args : List String)

@[simp] theorem program_command : (b.command program args).program = program := rfl

@[simp] theorem dir_command : (b.command program args).dir = some b.root := rfl

@[simp] theorem env_command : (b.command program args).env = b.env.entries := rfl

end Build

/-! ## Environment scripts -/

namespace Variables

@[simp] theorem environmentScript_inj {script script' : Path} :
    environmentScript script = environmentScript script' ↔ script.shown = script'.shown := by
  simp [environmentScript]

@[simp] theorem environmentScript_ne_installationQuery (script installer : Path) :
    environmentScript script ≠ installationQuery installer := by
  simp [environmentScript, installationQuery]

@[simp] theorem environmentScript_ne_versionQuery (script : Path) (compiler : String) :
    environmentScript script ≠ Compilers.versionQuery compiler := by
  simp [environmentScript, Compilers.versionQuery]

/-- One environment script is run at most. -/
theorem Prepared.script_unique {settings : Settings} {lookup : String → Option String}
    {record : List Occurrence} {result : Except Failure Variables}
    (h : Prepared settings lookup record result) {script script' : Path}
    {answer answer' : Except Failure CapturedOutput}
    (member : .captured (environmentScript script) answer ∈ record)
    (member' : .captured (environmentScript script') answer' ∈ record) :
    script.shown = script'.shown ∧ answer = answer' := by
  cases h with
  | noInstaller => cases member
  | noInstallation => simp at member
  | ran named dir ran =>
    simp at member member'
    obtain ⟨shown, rfl⟩ := member
    obtain ⟨shown', rfl⟩ := member'
    exact ⟨shown.trans shown'.symm, rfl⟩

end Variables

/-! ## What the work of a step records -/

namespace Release

/-- What the work of a step can record, if `env` are the variables that are known by then. -/
inductive Records (r : Release) (platform : Platform) (env : Variables) : Step → Occurrence → Prop
  | fetched (result : Except Failure Unit) (shown : Shown) :
      Records r platform env .fetchSubmodules
        (.ran (r.buildFor platform env).fetchCommand result shown)
  | located (program : String) (found : Option Path) :
      Records r platform env .selectToolchain (.located program found)
  | asked (compiler : String) (answer : Except Failure CapturedOutput) :
      Records r platform env .selectToolchain (.captured (Compilers.versionQuery compiler) answer)
  | installer (answer : Except Failure CapturedOutput) :
      Records r platform env .bootstrapEnvironment
        (.captured (Variables.installationQuery (Variables.installerOf r.settings r.inherited))
          answer)
  | script (path : Path) (answer : Except Failure CapturedOutput) :
      Records r platform env .bootstrapEnvironment
        (.captured (Variables.environmentScript path) answer)
  | cleaned (x : Step) (result : Except Failure Unit) (shown : Shown)
      (unix : platform.system ≠ .windows) :
      Records r platform env x (.ran (r.buildFor platform env).cleanCommand result shown)
  | made (pair : Compilers) (result : Except Failure Unit) (shown : Shown)
      (unix : platform.system ≠ .windows) :
      Records r platform env .build
        (.ran ((r.buildFor platform env).makeCommand pair) result shown)
  | solution (result : Except Failure Unit) (shown : Shown)
      (windows : platform.system = .windows) :
      Records r platform env .build
        (.ran (r.buildFor platform env).solutionCommand result shown)
  | piped (members : List String) (dest : Path) (result : Except Failure Unit) (shown : Shown)
      (unix : platform.system ≠ .windows) :
      Records r platform env .package
        (.piped
          { program := "tar", args := "-c" :: members,
            dir := some (r.root.join r.settings.unixOutputDir) }
          { program := r.settings.compressor } dest result shown)

theorem Records.eq_bootstrapEnvironment {r : Release} {platform : Platform} {env : Variables}
    {x : Step} {script : Path} {answer : Except Failure CapturedOutput}
    (h : r.Records platform env x (.captured (Variables.environmentScript script) answer)) :
    x = .bootstrapEnvironment := by
  generalize occurrence : Occurrence.captured (Variables.environmentScript script) answer = o at h
  cases h with
  | installer | script => rfl
  | asked => simp at occurrence
  | _ => cases occurrence

section Steps

variable {r : Release} {platform : Platform} {version : String} {p : Progress} {host : Host σ}
  {world : World σ} {o : Occurrence}

theorem records_of_clean {x : Step}
    (h : o ∈ ((fun _ => p) <$> (r.buildFor platform p.env).clean |>.perform host world).2.record) :
    r.Records platform p.env x o := by
  rw [Work.perform_map] at h
  by_cases windows : platform.system = .windows
  · rw [clean_of_windows (b := r.buildFor platform p.env) windows] at h
    cases h
  · rw [perform_clean host world (b := r.buildFor platform p.env) windows, Work.perform_run] at h
    obtain rfl := List.mem_singleton.mp h
    exact .cleaned x _ _ windows

theorem records_of_build
    (h : o ∈ ((r.work platform version p .build).perform host world).2.record) :
    r.Records platform p.env .build o := by
  rw [work_build, Work.perform_map, perform_build] at h
  split at h
  · cases h
  · next c made =>
    rw [Work.perform_run] at h
    obtain rfl := List.mem_singleton.mp h
    by_cases windows : platform.system = .windows
    · rw [buildCommand_of_windows (b := r.buildFor platform p.env) windows] at made
      cases made
      exact .solution _ _ windows
    · obtain ⟨pair, -, rfl⟩ := eq_makeCommand_of_buildCommand windows made
      exact .made pair _ _ windows

theorem records_of_package
    (h : o ∈ ((r.work platform version p .package).perform host world).2.record) :
    r.Records platform p.env .package o := by
  rw [work_package, Work.perform_map, perform_package] at h
  cases planned : r.plan world.files platform version with
  | error failure =>
    rw [planned] at h
    cases h
  | ok plan =>
    rw [planned] at h
    dsimp only at h
    by_cases windows : platform.system = .windows
    · rw [windows, packing_directly, Work.perform_map, Work.perform_onFiles] at h
      cases h
    · rw [plan_of_ne_windows windows] at planned
      obtain ⟨names, -, -, rfl⟩ := ofDirectory_eq_ok planned
      rw [packing_by_commands windows, Work.perform_map, Work.perform_pipe,
        collector_ofDirectory] at h
      obtain rfl := List.mem_singleton.mp h
      exact .piped _ _ _ _ windows

/-- The work of a step records what `Records` lists. -/
theorem records_of_work {x : Step}
    (h : o ∈ ((r.work platform version p x).perform host world).2.record) :
    r.Records platform p.env x o := by
  cases x with
  | fetchSubmodules =>
    rw [work_fetchSubmodules, Work.perform_map, Work.perform_run] at h
    obtain rfl := List.mem_singleton.mp h
    exact .fetched _ _
  | selectToolchain =>
    rw [work_selectToolchain, Work.perform_map] at h
    have asks := (Compilers.selected_of_select host world platform.system
      r.settings.gnuCandidates).asks _ h
    rcases asks with ⟨program, found, rfl⟩ | ⟨compiler, answer, rfl⟩
    · exact .located program found
    · exact .asked compiler answer
  | bootstrapEnvironment =>
    rw [work_bootstrapEnvironment, Work.perform_map] at h
    have prepared := Variables.prepared_of_developer host world r.settings r.inherited
    generalize ((Variables.developer r.settings r.inherited).perform host world).1 = result
      at prepared
    generalize ((Variables.developer r.settings r.inherited).perform host world).2.record = record
      at prepared h
    cases prepared with
    | noInstaller => cases h
    | noInstallation answer =>
      obtain rfl := List.mem_singleton.mp h
      exact .installer answer
    | ran named dir answer =>
      rcases List.mem_cons.mp h with rfl | h
      · exact .installer _
      · obtain rfl := List.mem_singleton.mp h
        exact .script _ answer
  | clean =>
    rw [work_clean] at h
    exact records_of_clean h
  | finalClean =>
    rw [work_finalClean] at h
    exact records_of_clean h
  | build => exact records_of_build h
  | package => exact records_of_package h

/-- Only the set-up of the developer environment brings other variables. -/
theorem env_of_work {x : Step} {after : Progress} {s : Session σ}
    (h : (r.work platform version p x).perform host world = (.ok after, s))
    (other : x ≠ .bootstrapEnvironment) : after.env = p.env := by
  have known := known_of_work h
  cases x with
  | bootstrapEnvironment => exact absurd rfl other
  | selectToolchain | package =>
    obtain ⟨_, -, rfl⟩ := known
    rfl
  | fetchSubmodules | clean | build | finalClean =>
    obtain rfl : after = p := known
    rfl

/-- Variables that are set up were printed by an environment script. -/
theorem exists_script_of_bootstrap {after : Progress} {s : Session σ}
    (h : (r.work platform version p .bootstrapEnvironment).perform host world = (.ok after, s)) :
    ∃ script output, .captured (Variables.environmentScript script) (.ok output) ∈ s.record ∧
      after.env = Variables.parse output.stdout := by
  obtain ⟨env, prepares, rfl⟩ := known_of_work h
  have prepared := Variables.prepared_of_developer host world r.settings r.inherited
  rw [prepares] at prepared
  dsimp only at prepared
  generalize result : (.ok env : Except Failure Variables) = outcome at prepared
  generalize s.record = record at prepared ⊢
  cases prepared with
  | noInstaller => cases result
  | noInstallation => cases result
  | ran named dir answer =>
    cases answer with
    | error failure => cases result
    | ok output =>
      simp only [Except.bind, Variables.variablesIn] at result
      split at result
      · cases result
      · cases result
        exact ⟨dir.join r.settings.vcvarsScript, output, by simp, rfl⟩

end Steps

/-! ## The states in which a run takes its steps -/

/-- A run takes the step `x` in the world `here`, when `p` is known and `earlier` is recorded of
the steps before it. -/
inductive Takes (r : Release) (host : Host σ) (world : World σ) (platform : Platform)
    (version : String) (x : Step) (p : Progress) (here : World σ) (earlier : List Occurrence) :
    Prop
  | takes {s : Session σ} {passed left : List Step}
      (finds : r.Finds host world platform version s)
      (split : r.sequence platform = passed ++ x :: left)
      (reached : r.Reaches platform version host s.world passed p here earlier)

section Runs

variable {r : Release} {platform platform' : Platform} {version version' : String}
  {p p' : Progress} {host : Host σ} {start world here here' : World σ} {x : Step}
  {earlier earlier' record record' : List Occurrence}

/-- Steps that are passed are passed in one way only. -/
theorem Reaches.unique {done : List Step}
    (reached : r.Reaches platform version host start done p here record)
    (reached' : r.Reaches platform version host start done p' here' record') :
    p = p' ∧ here = here' ∧ record = record' := by
  have taken := (reached.perform_take []).symm.trans (reached'.perform_take [])
  simpa [take, Session.followedBy] using taken

/-- A step stands at one place among the steps only. -/
theorem passed_unique {passed passed' left left' : List Step}
    (split : r.sequence platform = passed ++ x :: left)
    (split' : r.sequence platform = passed' ++ x :: left') : passed = passed' := by
  have ordered := r.pairwise_rank_sequence platform
  rw [split, List.pairwise_append, List.pairwise_cons] at ordered
  have notBefore : x ∉ passed := fun member =>
    Nat.lt_irrefl _ (ordered.2.2 x member x List.mem_cons_self)
  have notBehind : x ∉ left := fun member => Nat.lt_irrefl _ (ordered.2.1.1 x member)
  exact ((List.append_cons_inj_of_notMem notBefore notBehind).mp (split.symm.trans split')).1

/-- A run takes a step in one state only. -/
theorem Takes.unique (takes : r.Takes host world platform version x p here earlier)
    (takes' : r.Takes host world platform' version' x p' here' earlier') :
    platform = platform' ∧ version = version' ∧ p = p' ∧ here = here' := by
  obtain ⟨finds, split, reached⟩ := takes
  obtain ⟨finds', split', reached'⟩ := takes'
  obtain ⟨same, rfl⟩ := Prod.mk.inj (finds.platform.symm.trans finds'.platform)
  obtain rfl := Except.ok.inj same
  obtain rfl := Except.ok.inj (finds.version.symm.trans finds'.version)
  obtain rfl := passed_unique split split'
  obtain ⟨rfl, rfl, -⟩ := reached.unique reached'
  exact ⟨rfl, rfl, rfl, rfl⟩

/-- What a run records, events apart, is recorded as the platform is found out or by the work of a
step that the run takes. -/
theorem occurrence_of_run {before after : List Occurrence} {o : Occurrence}
    (split : (r.run.perform host world).2.record = before ++ o :: after)
    (noEvent : ∀ e, o ≠ .event e) :
    o ∈ (r.findPlatform.perform host world).2.record ∨
      ∃ platform version x p here earlier,
        r.Takes host world platform version x p here earlier ∧ earlier <:+: before ∧
          o ∈ ((r.work platform version p x).perform host here).2.record := by
  have ends := r.ends_run host world
  generalize r.run.perform host world = outcome at ends split
  obtain ⟨result, session⟩ := outcome
  cases ends with
  | platformUnknown unknown =>
    rw [unknown, show session.record = _ from split]
    exact .inl (by simp)
  | versionMissing known missing =>
    rw [known, show session.record = _ from split]
    exact .inl (by simp)
  | @began platform version s result behind record finds went =>
    obtain ⟨last, -, origin⟩ := went.origin
    rcases split_of_append split with ⟨between, rfl, inSteps⟩ | ⟨between, inDetection⟩
    · rcases between with _ | ⟨told, between⟩
      · obtain ⟨rfl, -⟩ := List.cons.inj inSteps
        exact absurd rfl (noEvent _)
      · obtain ⟨rfl, inRecord⟩ := List.cons.inj inSteps
        obtain @⟨passed, left, x, p, here, earlier, whole, reached, part, member, -⟩ :=
          origin between o after inRecord noEvent
        refine .inr ⟨platform, version, x, p, here, earlier, ⟨finds, whole, reached⟩, ?_, member⟩
        exact part.isInfix.trans
          ((List.suffix_cons _ _).trans (List.suffix_append _ _)).isInfix
    · rw [finds.platform, inDetection]
      exact .inl (by simp)

/-- Where the developer environment has not been set up, no variables are known. -/
theorem Takes.env_eq_empty (takes : r.Takes host world platform version x p here earlier)
    (before : platform.system ≠ .windows ∨ x.rank ≤ Step.rank .bootstrapEnvironment) :
    p.env = .empty := by
  obtain @⟨s, passed, left, finds, split, reached⟩ := takes
  refine reached.env_eq_empty fun member => ?_
  obtain ⟨inSequence, lower⟩ := (mem_before_iff split).mp member
  rcases before with unix | early
  · exact unix (mem_sequence_iff.mp inSequence)
  · omega

/-- Behind the set-up of the developer environment the variables are those that a script printed. -/
theorem Reaches.exists_script {done : List Step}
    (reached : r.Reaches platform version host start done p here record)
    (prepared : .bootstrapEnvironment ∈ done) :
    ∃ script output, .captured (Variables.environmentScript script) (.ok output) ∈ record ∧
      p.env = Variables.parse output.stdout := by
  induction reached with
  | start => cases prepared
  | @step done p after world record y s reached succeeds ih =>
    by_cases now : y = .bootstrapEnvironment
    · subst now
      obtain ⟨script, output, member, env⟩ := exists_script_of_bootstrap succeeds
      exact ⟨script, output, by simp [passage, member], env⟩
    · have earlier : .bootstrapEnvironment ∈ done := by
        rcases List.mem_append.mp prepared with member | member
        · exact member
        · exact absurd (List.mem_singleton.mp member).symm now
      obtain ⟨script, output, member, env⟩ := ih earlier
      rw [env_of_work succeeds now]
      exact ⟨script, output, List.mem_append_left _ member, env⟩

/-- An environment script is run where the developer environment is set up. -/
theorem script_of_run {script : Path} {answer : Except Failure CapturedOutput}
    (member : .captured (Variables.environmentScript script) answer ∈
      (r.run.perform host world).2.record) :
    ∃ platform version p here earlier,
      r.Takes host world platform version .bootstrapEnvironment p here earlier ∧
        .captured (Variables.environmentScript script) answer ∈
          ((Variables.developer r.settings r.inherited).perform host here).2.record := by
  obtain ⟨before, after, split⟩ := List.append_of_mem member
  rcases occurrence_of_run split nofun with
    detected | ⟨platform, version, x, p, here, earlier, takes, -, records⟩
  · have query := (follows_findPlatform r host world).1.subset
      (List.mem_flatMap.mpr ⟨_, detected, List.mem_singleton_self _⟩)
    unfold detectionCommands at query
    split at query <;> simp [Variables.environmentScript] at query
  · obtain rfl := (records_of_work records).eq_bootstrapEnvironment
    rw [work_bootstrapEnvironment, Work.perform_map] at records
    exact ⟨platform, version, p, here, earlier, takes, records⟩

/-- A run runs one environment script at most, and once. -/
theorem script_unique {script script' : Path} {answer answer' : Except Failure CapturedOutput}
    (member : .captured (Variables.environmentScript script) answer ∈
      (r.run.perform host world).2.record)
    (member' : .captured (Variables.environmentScript script') answer' ∈
      (r.run.perform host world).2.record) :
    script.shown = script'.shown ∧ answer = answer' := by
  obtain ⟨platform, version, p, here, earlier, takes, records⟩ := script_of_run member
  obtain ⟨platform', version', p', here', earlier', takes', records'⟩ := script_of_run member'
  obtain ⟨-, -, -, rfl⟩ := takes.unique takes'
  exact (Variables.prepared_of_developer host here r.settings r.inherited).script_unique records
    records'

end Runs
end Release

/-! ## Whole runs -/

/-- Where a command runs, by the part that it has. What is run on the terminal works on the project
and is in its root, and the members of the archive are collected in the output directory. All
else stays where the release itself is run. -/
def Invocation.Placed (r : Release) (i : Invocation) : Prop :=
  match i.role with
  | .run =>
    i.command.program ∈ ["git", "make", "gmake", "devenv"] ∧ i.command.dir = some r.root
  | .producer =>
    i.command.program = "tar" ∧ i.command.dir = some (r.root.join r.settings.unixOutputDir)
  | .consumer => i.command.program = r.settings.compressor ∧ i.command.dir = none
  | .capture =>
    (i.command.program = "uname" ∨ i.command.args = ["--version"] ∨
      i.command.program = Variables.expand r.settings.vswherePath r.inherited ∨
      i.command.program = "cmd") ∧ i.command.dir = none

section Runs

variable {r : Release} {platform : Platform} {version : String} {p : Progress} {host : Host σ}
  {world here : World σ} {x : Step} {earlier : List Occurrence} {o : Occurrence} {i : Invocation}

theorem placed_of_records {env : Variables} (h : r.Records platform env x o)
    (member : i ∈ o.invocations) : i.Placed r := by
  cases h with
  | located => cases member
  | fetched | solution | asked | installer | script =>
    obtain rfl := List.mem_singleton.mp member
    simp [Invocation.Placed, Build.fetchCommand, Build.solutionCommand, Release.buildFor,
      Compilers.versionQuery, Variables.installationQuery, Variables.installerOf,
      Variables.environmentScript]
  | cleaned | made =>
    obtain rfl := List.mem_singleton.mp member
    cases system : platform.system <;>
      simp [Invocation.Placed, Build.cleanCommand, Build.makeCommand, Release.buildFor, system,
        OperatingSystem.makeProgram]
  | piped =>
    simp only [Occurrence.invocations, List.mem_cons, List.not_mem_nil, or_false] at member
    rcases member with rfl | rfl <;> simp [Invocation.Placed]

theorem query_of_detection (member : i ∈ commandLog (r.findPlatform.perform host world).2.record) :
    ∃ flag, i = ⟨.capture, Platform.nameQuery flag⟩ := by
  have query := (follows_findPlatform r host world).1.subset member
  unfold Release.detectionCommands at query
  split at query
  · cases query
  · simp only [List.mem_cons, List.not_mem_nil, or_false] at query
    rcases query with rfl | rfl
    · exact ⟨"-s", rfl⟩
    · exact ⟨"-m", rfl⟩

/-- Every command of a run asks for the platform, or is recorded by the work of a step that the run
takes. -/
theorem exists_step_of_logged (logged : i ∈ commandLog (r.run.perform host world).2.record) :
    (∃ flag, i = ⟨.capture, Platform.nameQuery flag⟩) ∨
      ∃ platform version x p here earlier o,
        r.Takes host world platform version x p here earlier ∧ i ∈ o.invocations ∧
          r.Records platform p.env x o := by
  obtain ⟨o, recorded, member⟩ := List.mem_flatMap.mp logged
  obtain ⟨before, after, split⟩ := List.append_of_mem recorded
  have noEvent : ∀ e, o ≠ .event e := by
    rintro e rfl
    cases member
  rcases Release.occurrence_of_run split noEvent with
    detected | ⟨platform, version, x, p, here, earlier, takes, -, works⟩
  · exact .inl (query_of_detection (List.mem_flatMap.mpr ⟨o, detected, member⟩))
  · exact .inr ⟨platform, version, x, p, here, earlier, o, takes, member,
      Release.records_of_work works⟩

/-- What carries variables is the build on Windows. -/
theorem env_of_takes (takes : r.Takes host world platform version x p here earlier)
    (h : r.Records platform p.env x o) (member : i ∈ o.invocations) (carries : i.command.env ≠ []) :
    platform.system = .windows ∧ i.role = .run ∧ i.command.program = "devenv" := by
  have none_known : ∀ program args, i = ⟨.run, (r.buildFor platform p.env).command program args⟩ →
      p.env ≠ .empty := by
    rintro program args rfl unset
    rw [Build.env_command, Release.buildFor, unset] at carries
    exact carries rfl
  cases h with
  | located => cases member
  | fetched =>
    obtain rfl := List.mem_singleton.mp member
    exact absurd (takes.env_eq_empty (.inr (by decide))) (none_known _ _ rfl)
  | cleaned _ _ _ unix | made _ _ _ unix =>
    obtain rfl := List.mem_singleton.mp member
    exact absurd (takes.env_eq_empty (.inl unix)) (none_known _ _ rfl)
  | solution _ _ windows =>
    obtain rfl := List.mem_singleton.mp member
    exact ⟨windows, rfl, rfl⟩
  | asked | installer | script =>
    obtain rfl := List.mem_singleton.mp member
    exact absurd rfl carries
  | piped =>
    simp only [Occurrence.invocations, List.mem_cons, List.not_mem_nil, or_false] at member
    rcases member with rfl | rfl <;> exact absurd rfl carries

/-- What runs `devenv` is the build on Windows. -/
theorem build_of_records {env : Variables} {c : Command} {result : Except Failure Unit}
    {shown : Shown} (h : r.Records platform env x (.ran c result shown))
    (devenv : c.program = "devenv") :
    platform.system = .windows ∧ x = .build ∧ c.env = env.entries := by
  cases h with
  | fetched => simp [Build.fetchCommand] at devenv
  | cleaned | made =>
    cases system : platform.system <;>
      simp [Build.cleanCommand, Build.makeCommand, Release.buildFor, system,
        OperatingSystem.makeProgram] at devenv
  | solution _ _ windows => exact ⟨windows, rfl, rfl⟩

/-- Every command of a run has its place. None carries variables but the build on Windows, which
carries exactly the table that the one environment script of the run printed before, with the
names in ascending order, and none of them twice. -/
theorem placement_run (r : Release) (host : Host σ) (world : World σ) :
    let detection := r.findPlatform.perform host world
    let record := (r.run.perform host world).2.record
    (∀ i ∈ commandLog record, i.Placed r ∧
      (i.command.env ≠ [] → i.role = .run ∧ i.command.program = "devenv")) ∧
    (∀ platform, detection.1 = .ok platform → platform.system ≠ .windows →
      ∀ i ∈ commandLog record, i.command.env = []) ∧
    ∀ before c result shown after, record = before ++ .ran c result shown :: after →
      c.program = "devenv" →
      ∃ (script : String) (output : CapturedOutput),
        .captured { program := "cmd", args := ["/C", "call", script, "&&", "set"] }
          (.ok output) ∈ before ∧
        (∀ other answer,
          .captured { program := "cmd", args := ["/C", "call", other, "&&", "set"] } answer ∈
              record →
            other = script ∧ answer = .ok output) ∧
        c.env = (Variables.parse output.stdout).entries ∧
        c.env.Pairwise (fun a b => Text.octets a.1 < Text.octets b.1) := by
  intro detection record
  refine ⟨?_, ?_, ?_⟩
  · intro i logged
    rcases exists_step_of_logged logged with
      ⟨flag, rfl⟩ | ⟨platform, version, x, p, here, earlier, o, takes, member, records⟩
    · exact ⟨⟨.inl rfl, rfl⟩, fun carries => absurd rfl carries⟩
    · exact ⟨placed_of_records records member,
        fun carries => (env_of_takes takes records member carries).2⟩
  · intro platform known unix i logged
    rcases exists_step_of_logged logged with
      ⟨flag, rfl⟩ | ⟨platform', version, x, p, here, earlier, o, takes, member, records⟩
    · rfl
    · refine Decidable.byContradiction fun carries => unix ?_
      have windows := (env_of_takes takes records member carries).1
      obtain ⟨finds, -, -⟩ := takes
      have same : detection.1 = .ok platform' := congrArg Prod.fst finds.platform
      rw [known] at same
      rwa [Except.ok.inj same]
  · intro before c result shown after split devenv
    rcases Release.occurrence_of_run split nofun with
      detected | ⟨platform, version, x, p, here, earlier, takes, part, works⟩
    · exact absurd detected not_ran_of_findPlatform
    · obtain ⟨windows, rfl, env⟩ := build_of_records (Release.records_of_work works) devenv
      obtain @⟨s, passed, left, finds, whole, reached⟩ := takes
      have prepared : .bootstrapEnvironment ∈ passed := (Release.mem_before_iff whole).mpr
        ⟨Release.mem_sequence_iff.mpr windows, by decide⟩
      obtain ⟨script, output, printed, known⟩ := reached.exists_script prepared
      have before_build := part.subset printed
      have recorded : .captured (Variables.environmentScript script) (.ok output) ∈ record := by
        rw [split]
        exact List.mem_append_left _ before_build
      refine ⟨script.shown, output, before_build, ?_, ?_, ?_⟩
      · intro other answer member
        have called : .captured (Variables.environmentScript (.ofText other)) answer ∈ record := by
          rwa [Variables.environmentScript, Path.shown_ofText]
        obtain ⟨same, told⟩ := Release.script_unique called recorded
        exact ⟨(Path.shown_ofText other).symm.trans same, told⟩
      · rw [env, known]
      · rw [env]
        exact p.env.ascending.imp Text.octets_lt_of_lt

end Runs

end ReleaseBuilder
