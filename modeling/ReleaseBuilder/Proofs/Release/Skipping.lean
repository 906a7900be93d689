/-
# What the options leave out

A release whose platform is given does not ask for it, and one that fetches no submodules leaves
out that step. Both are shortcuts: on a host that does not notice the calls they save, the rest of
the run is the same, whether it succeeds or fails. The two runs are followed side by side, from
worlds with the same files and with states that the host does not tell apart.
-/

import ReleaseBuilder.Proofs.Release.Target
import ReleaseBuilder.Proofs.Work.Keeping

namespace ReleaseBuilder

variable {σ : Type} {host : Host σ}

/-- The calls of a host that detecting the platform makes leave no trace in its state. -/
def Host.ForgetsNaming (host : Host σ) : Prop :=
  ∀ c : Command, c.AsksForName → ∀ w, host.Indistinct (host.capture c w).2.state w.state

/-- A command succeeds and does nothing that can be noticed. -/
structure Host.Idles (host : Host σ) (c : Command) : Prop where
  succeeds : ∀ w, (host.run c w).result = .ok ()
  files : ∀ w, (host.run c w).world.files = w.files
  state : ∀ w, host.Indistinct (host.run c w).world.state w.state

/-- One run came to what another did, told the same and left the same files. It made some calls,
and then those of the other. -/
structure SameBehind (calls : List Invocation) (outcome other : Except Failure Report × Session σ) :
    Prop where
  result : outcome.1 = other.1
  events : eventsOf outcome.2.record = eventsOf other.2.record
  files : outcome.2.world.files = other.2.world.files
  log : commandLog outcome.2.record = calls ++ commandLog other.2.record

namespace Release

/-- The command that fetches the submodules. -/
def fetchCommand (r : Release) : Command where
  program := "git"
  args := ["submodule", "update", "--init", "--recursive",
    "--jobs=" ++ toString r.settings.submoduleJobs.toNat]
  dir := some r.root

/-- What fetching the submodules adds to the record of a run. If the run gets to its start, this is
one call, behind the queries for the platform and before everything else, and what is told of the
step right behind the start. Otherwise it is nothing. -/
inductive AddsFetching (r : Release) (record other : List Occurrence) : Prop
  | unstarted (quiet : eventsOf record = []) (quiet' : eventsOf other = [])
      (log : commandLog record = commandLog other)
  | started {version : String} {platform : Platform} {tag : String} {events : List Event}
      {log : List Invocation}
      (told : eventsOf record = .started version platform tag ::
        .stepStarted .fetchSubmodules :: .stepFinished .fetchSubmodules :: events)
      (told' : eventsOf other = .started version platform tag :: events)
      (logged : commandLog record = r.detectionCommands ++ ⟨.run, r.fetchCommand⟩ :: log)
      (logged' : commandLog other = r.detectionCommands ++ log)

variable {r : Release} {platform : Platform} {version : String} {p : Progress} {world : World σ}

/-! ## Neither option matters to the steps -/

theorem take_skipping (r : Release) (given : Option Platform) (fetching : Bool)
    (steps : List Step) :
    (({ r with platform := given, fetchSubmodules := fetching } : Release).take platform version
      steps p : Work σ Progress) = r.take platform version steps p := by
  induction steps generalizing p with
  | nil => rfl
  | cons x rest ih =>
    have first : (({ r with platform := given, fetchSubmodules := fetching } : Release).work platform
        version p x : Work σ Progress) = r.work platform version p x := by
      cases x <;> rfl
    rw [take, take, first]
    exact bind_congr fun p => ih

/-- Behind the detection of a platform the run goes on as if the platform were given. -/
theorem proceed_of_given (r : Release) (given : Option Platform) :
    (({ r with platform := given } : Release).proceed platform version : Work σ Report) =
      r.proceed platform version := by
  have steps : ({ r with platform := given } : Release).sequence platform = r.sequence platform :=
    rfl
  rw [proceed, proceed, steps]
  refine bind_congr fun _ => ?_
  rw [take_skipping r given r.fetchSubmodules]

variable {R : σ → σ → Prop}

theorem oblivious_take (blind : host.Blind R) (steps : List Step) :
    (r.take platform version steps p).Oblivious host R := by
  induction steps generalizing p with
  | nil => exact Work.oblivious_pure p
  | cons x rest ih => exact ((oblivious_work blind x).step x).bind fun p => ih

theorem oblivious_findVersion : (r.findVersion : Work σ String).Oblivious host R :=
  Work.oblivious_files.bind fun files => by
    cases Version.resolve files (r.root.join r.settings.versionFile) r.settings.versionMarker with
    | ok version => exact Work.oblivious_pure version
    | error failure => exact Work.oblivious_fail failure

theorem oblivious_proceed (blind : host.Blind R) :
    (r.proceed platform version).Oblivious host R :=
  (Work.oblivious_emit _).bind fun _ =>
    (oblivious_take blind _).bind fun _ => Work.oblivious_pure _

/-! ## A given platform -/

/-- What the queries keep, detecting the platform keeps. -/
theorem keeps_detect {I : Session σ → Prop}
    (asking : ∀ c : Command, c.AsksForName → (Work.capture c).Keeps host I)
    (locating : ∀ program, (Work.locate program).Keeps host I) :
    (Platform.detect "unix").Keeps host I := by
  have composes := Work.composes_keeps locating
  refine Platform.composes_detect composes fun flag asks => ?_
  rw [Platform.askName_eq]
  exact (asking _ asks).bind fun output => composes.ofExcept _

/-- A property of the world that the queries keep holds once the platform is known. -/
theorem world_behind_detect {P : World σ → Prop} (holds : P world)
    (asking : ∀ c : Command, c.AsksForName → ∀ w, P w → P (host.capture c w).2) :
    P ((Platform.detect "unix").perform host world).2.world := by
  refine keeps_detect (I := fun s => P s.world) (fun c asks s before => ?_)
    (fun program s before => ?_) { world } holds
  · rw [Work.within_capture]
    exact asking c asks s.world before
  · rw [Work.within_locate]
    exact before

/-- A release whose platform is given looks for the version at once. -/
theorem run_of_given (r : Release) (platform : Platform) :
    (({ r with platform := some platform } : Release).run : Work σ Report) =
      r.findVersion >>= r.proceed platform := by
  have given : (({ r with platform := some platform } : Release).findPlatform : Work σ Platform) =
      pure platform := rfl
  have version : (({ r with platform := some platform } : Release).findVersion : Work σ String) =
      r.findVersion := rfl
  rw [run_eq_proceed, given, pure_bind, version]
  simp only [proceed_of_given]

/-- Behind the detection of its platform a release goes on like one whose platform is given. -/
theorem perform_run_of_platform {s : Session σ}
    (found : r.findPlatform.perform host world = (.ok platform, s)) :
    r.run.perform host world =
      (((r.findVersion >>= r.proceed platform).perform host s.world).1,
        s.followedBy ((r.findVersion >>= r.proceed platform).perform host s.world).2) := by
  rw [run_eq_proceed, Work.perform_bind host world fun platform =>
    r.orderly_findVersion.adds.bind (r.addsToRecord_proceed platform), found]

/-- The run of a release that finds out its platform is that of the release whose platform is given,
on the files that the queries left, behind the queries. -/
theorem sameBehind_detection (unset : r.platform = none) (forgets : host.ForgetsNaming)
    (detected : ((Platform.detect "unix").perform host world).1 = .ok platform) :
    SameBehind r.detectionCommands (r.run.perform host world)
      (({ r with platform := some platform } : Release).run.perform host
        { world with files := ((Platform.detect "unix").perform host world).2.world.files }) := by
  have finds : (r.findPlatform : Work σ Platform) = Platform.detect "unix" := by
    rw [findPlatform, unset]
  have forgotten : host.Indistinct ((Platform.detect "unix").perform host world).2.world.state
      world.state :=
    world_behind_detect (P := fun w => host.Indistinct w.state world.state)
      (.refl host world.state) fun c asks w before => (forgets c asks w).trans before
  rw [← finds] at detected forgotten ⊢
  have queries := (follows_findPlatform r host world).2 platform detected
  have quiet := r.orderly_findPlatform.quiet host world
  obtain ⟨s, detection⟩ : ∃ s, r.findPlatform.perform host world = (.ok platform, s) :=
    ⟨_, Prod.ext detected rfl⟩
  rw [detection] at queries quiet forgotten
  -- Behind the queries both releases look for the version and proceed, from worlds that are alike.
  have goesOn : (r.findVersion >>= r.proceed platform).Oblivious host host.Indistinct :=
    oblivious_findVersion.bind fun _ => oblivious_proceed host.blind_indistinct
  have alike : s.world.Alike host.Indistinct { world with files := s.world.files } :=
    ⟨rfl, forgotten⟩
  obtain ⟨same, behind⟩ := goesOn.perform alike
  rw [perform_run_of_platform detection, run_of_given, detection]
  refine ⟨same, ?_, behind.world.files, ?_⟩
  · dsimp only
    rw [Session.followedBy_record, eventsOf_append, quiet, List.nil_append]
    exact eventsOf_eq_of_alike behind.record
  · dsimp only
    rw [Session.followedBy_record, commandLog_append, queries,
      commandLog_eq_of_alike behind.record]

/-- If the queries leave the files alone, the other run is on the same files. -/
theorem files_behind_detect
    (leaves : ∀ c : Command, c.AsksForName → ∀ w, (host.capture c w).2.files = w.files) :
    ((Platform.detect "unix").perform host world).2.world.files = world.files :=
  world_behind_detect (P := fun w => w.files = world.files) rfl fun c asks w before =>
    (leaves c asks w).trans before

/-! ## Fetching submodules -/

/-- Fetching that succeeds is told, and the steps behind it go on in the world that it leaves. -/
theorem perform_take_fetching (fetched : (host.run r.fetchCommand world).result = .ok ())
    (rest : List Step) :
    let ran := host.run r.fetchCommand world
    let taken := (r.take platform version rest {}).perform host ran.world
    (r.take platform version (.fetchSubmodules :: rest) {}).perform host world =
      (taken.1, ⟨taken.2.world,
        passage .fetchSubmodules [.ran r.fetchCommand (.ok ()) ran.shown] ++ taken.2.record⟩) := by
  have command : (r.buildFor platform ({} : Progress).env).fetchCommand = r.fetchCommand := rfl
  have work : (r.work platform version {} .fetchSubmodules).perform host world =
      (.ok {}, ⟨(host.run r.fetchCommand world).world,
        [.ran r.fetchCommand (.ok ()) (host.run r.fetchCommand world).shown]⟩) := by
    rw [work_fetchSubmodules, Work.perform_map, Work.perform_run, command, fetched]
    rfl
  rw [take, Work.perform_bind host world (r.addsToRecord_take platform version rest),
    Work.perform_step host world (r.orderly_work platform version {} .fetchSubmodules).adds, work]
  rfl

theorem sequence_fetching (r : Release) (platform : Platform) :
    ({ r with fetchSubmodules := true } : Release).sequence platform =
      .fetchSubmodules :: ({ r with fetchSubmodules := false } : Release).sequence platform :=
  rfl

/-- What is recorded of the two runs once they have started. -/
theorem addsFetching_of_alike {queries rest rest' : List Occurrence}
    (quiet : eventsOf queries = []) (asked : commandLog queries = r.detectionCommands)
    (alike : List.Forall₂ Occurrence.Alike rest rest') (version : String) (platform : Platform)
    (tag : String) (shown : Shown) :
    r.AddsFetching
      (queries ++ .event (.started version platform tag) ::
        (passage .fetchSubmodules [.ran r.fetchCommand (.ok ()) shown] ++ rest))
      (queries ++ .event (.started version platform tag) :: rest') := by
  have fetched : eventsOf (passage .fetchSubmodules [.ran r.fetchCommand (.ok ()) shown] ++ rest) =
      .stepStarted .fetchSubmodules :: .stepFinished .fetchSubmodules :: eventsOf rest' := by
    rw [eventsOf_append, eventsOf_eq_of_alike alike]
    rfl
  have called : commandLog (passage .fetchSubmodules [.ran r.fetchCommand (.ok ()) shown] ++ rest) =
      ⟨.run, r.fetchCommand⟩ :: commandLog rest' := by
    rw [commandLog_append, commandLog_eq_of_alike alike]
    rfl
  have behindStart (record : List Occurrence) :
      commandLog (queries ++ .event (.started version platform tag) :: record) =
        r.detectionCommands ++ commandLog record := by
    rw [commandLog_append, asked]
    rfl
  refine .started ?_ (eventsOf_behind_quiet quiet _ _) ?_ (behindStart rest')
  · rw [eventsOf_behind_quiet quiet, fetched]
  · rw [behindStart, called]

/-- On a host where fetching the submodules does nothing, a release that does not fetch them comes
to the same and leaves the same files. -/
theorem addsFetching_run (r : Release) (world : World σ) (idles : host.Idles r.fetchCommand) :
    let fetching := ({ r with fetchSubmodules := true } : Release).run.perform host world
    let sparing := ({ r with fetchSubmodules := false } : Release).run.perform host world
    fetching.1 = sparing.1 ∧ fetching.2.world.files = sparing.2.world.files ∧
      r.AddsFetching fetching.2.record sparing.2.record := by
  intro fetching sparing
  have quiet := r.orderly_findPlatform.quiet host world
  have queries := (follows_findPlatform r host world).2
  rcases detection : r.findPlatform.perform host world with ⟨failure | platform, s⟩
  · rw [detection] at quiet
    have same : fetching = sparing :=
      (run_of_platformUnknown (r := { r with fetchSubmodules := true }) detection).trans
        (run_of_platformUnknown (r := { r with fetchSubmodules := false }) detection).symm
    have unknown : sparing = (.error failure, s) := run_of_platformUnknown detection
    rw [same, unknown]
    exact ⟨rfl, rfl, .unstarted quiet quiet rfl⟩
  · rw [detection] at quiet queries
    cases resolution : r.versionIn s.world.files with
    | error failure =>
      have missing : fetching = (.error failure, s) := run_of_versionMissing detection resolution
      have missing' : sparing = (.error failure, s) := run_of_versionMissing detection resolution
      rw [missing, missing']
      exact ⟨rfl, rfl, .unstarted quiet quiet rfl⟩
    | ok version =>
      have finds : ({ r with fetchSubmodules := true } : Release).Finds host world platform version
          s := ⟨detection, resolution⟩
      have finds' : ({ r with fetchSubmodules := false } : Release).Finds host world platform
          version s := ⟨detection, resolution⟩
      -- Behind the fetching both take the same steps, from worlds that are alike.
      have alike : (host.run r.fetchCommand s.world).world.Alike host.Indistinct s.world :=
        ⟨idles.files s.world, idles.state s.world⟩
      have goesOn : (r.take platform version
          (({ r with fetchSubmodules := false } : Release).sequence platform) {}).Oblivious host
            host.Indistinct :=
        oblivious_take host.blind_indistinct _
      obtain ⟨same, behind⟩ := goesOn.perform alike
      have ended := finds.perform_run
      have ended' := finds'.perform_run
      rw [sequence_fetching, take_skipping r r.platform true,
        perform_take_fetching (idles.succeeds s.world)] at ended
      rw [take_skipping r r.platform false] at ended'
      dsimp only at ended ended'
      have outcome : fetching = _ := ended
      have outcome' : sparing = _ := ended'
      rw [outcome, outcome']
      refine ⟨congrArg (Except.map (reportOf platform version)) same, behind.world.files, ?_⟩
      exact addsFetching_of_alike quiet (queries platform rfl) behind.record _ _ _ _

end Release

/-! ## Hosts that go by a script -/

namespace Script

variable {s : Script} {c : Command}

theorem world_of_capture (s : Script) (c : Command) (w : World Tally) :
    (s.host.capture c w).2 = w := by
  unfold host
  dsimp only
  cases s.answer? c <;> rfl

/-- A script does not count what is asked for. -/
theorem forgetsNaming_host (s : Script) : s.host.ForgetsNaming := by
  intro c _ w
  rw [world_of_capture]
  exact .refl s.host w.state

theorem refuse?_of_unnamed {refusals : List Refusal}
    (unnamed : ∀ refusal ∈ refusals, c.isNamedBy refusal.pattern = false) (tally : Tally) :
    refuse? c refusals tally = (none, tally) := by
  induction refusals generalizing tally with
  | nil => rfl
  | cons refusal rest ih =>
    obtain ⟨first, others⟩ := List.forall_mem_cons.mp unnamed
    cases tally with
    | nil => rfl
    | cons count tally => simp [refuse?, first, ih others]

/-- A command that a script does not name does nothing. -/
theorem idles_host (unrefused : ∀ refusal ∈ s.refusals, c.isNamedBy refusal.pattern = false)
    (still : s.effects = []) : s.host.Idles c := by
  have run : ∀ w, s.run c w = (.ok (), w) := by
    intro w
    rw [Script.run, refuse?_of_unnamed unrefused]
    simp [affect, still]
  have ran : ∀ w, s.host.run c w = { result := .ok (), world := w } := by
    intro w
    unfold host
    dsimp only
    rw [run]
  constructor
  · intro w
    rw [ran]
  · intro w
    rw [ran]
  · intro w
    rw [ran]
    exact .refl s.host w.state

end Script

/-! ## Both options -/

/-- An option that skips a part of the run changes nothing else, whether the run succeeds or fails.

On a host that does not notice in its state that it was asked for its names, a run that detects a
platform is the run for that platform as a given one, on the files as the queries left them, behind
the two queries. These are the same files if the queries leave the files alone.

On a host where fetching the submodules does nothing, the run that fetches them comes to the same as
the run that does not, and adds one call and one step to what is recorded, if it gets to its
start. -/
theorem perform_run_skipping (r : Release) (host : Host σ) (world : World σ) :
    (∀ platform, r.platform = none → host.ForgetsNaming →
      ((Platform.detect "unix").perform host world).1 = .ok platform →
      let given : Release := { r with platform := some platform }
      let queries : List Invocation :=
        [⟨.capture, { program := "uname", args := ["-s"] }⟩,
          ⟨.capture, { program := "uname", args := ["-m"] }⟩]
      let left := ((Platform.detect "unix").perform host world).2.world.files
      SameBehind queries (r.run.perform host world)
          (given.run.perform host { world with files := left }) ∧
        ((∀ c : Command, c.AsksForName → ∀ w, (host.capture c w).2.files = w.files) →
          SameBehind queries (r.run.perform host world) (given.run.perform host world))) ∧
    (host.Idles r.fetchCommand →
      let fetching := ({ r with fetchSubmodules := true } : Release).run.perform host world
      let sparing := ({ r with fetchSubmodules := false } : Release).run.perform host world
      fetching.1 = sparing.1 ∧ fetching.2.world.files = sparing.2.world.files ∧
        r.AddsFetching fetching.2.record sparing.2.record) := by
  refine ⟨?_, r.addsFetching_run world⟩
  intro platform unset forgets detected given queries left
  have asks : r.detectionCommands = queries := by
    rw [Release.detectionCommands, unset]
    rfl
  have same := asks ▸ Release.sameBehind_detection unset forgets detected
  refine ⟨same, fun leaves => ?_⟩
  rw [Release.files_behind_detect leaves] at same
  exact same

/-- A run that fails in the second cleaning fails so with either option, and has the calls for the
platform and for the submodules in front. -/
theorem unclean_with_either_option :
    let world : World Script.Tally := ⟨sourcesWith "1.0.0", uncleanScript.freshTally⟩
    let outcome := smallRelease.run.perform uncleanScript.host world
    let given : Release := { smallRelease with platform := some ⟨.linux, .x64⟩ }
    let fetching := ({ smallRelease with fetchSubmodules := true } : Release).run.perform
      uncleanScript.host world
    outcome.1.toOption = none ∧
      SameBehind [⟨.capture, { program := "uname", args := ["-s"] }⟩,
          ⟨.capture, { program := "uname", args := ["-m"] }⟩]
        outcome (given.run.perform uncleanScript.host world) ∧
      fetching.1 = outcome.1 ∧
      smallRelease.AddsFetching fetching.2.record outcome.2.record ∧
      eventsOf outcome.2.record ≠ [] := by
  intro world outcome given fetching
  have forgets : uncleanScript.host.ForgetsNaming := Script.forgetsNaming_host _
  have idles : uncleanScript.host.Idles smallRelease.fetchCommand :=
    Script.idles_host (by decide) rfl
  have detected : ((Platform.detect "unix").perform uncleanScript.host world).1 =
      .ok ⟨.linux, .x64⟩ := by
    rfl
  have leaves : ∀ c : Command, c.AsksForName → ∀ w,
      (uncleanScript.host.capture c w).2.files = w.files := fun c _ w => by
    rw [Script.world_of_capture]
  obtain ⟨naming, fetched⟩ := perform_run_skipping smallRelease uncleanScript.host world
  obtain ⟨result, -, adds⟩ := fetched idles
  refine ⟨by decide +kernel, (naming _ rfl forgets detected).2 leaves, result, adds, ?_⟩
  decide +kernel

/-- What a host answers is not all that counts. This one answers by the command only and has no
state, but it changes the files when it is asked for its kernel, and the run for a given platform,
which does not ask, comes to something else. -/
theorem answers_do_not_suffice :
    let world : World Unit := ⟨sourcesWith "1.0.0", ()⟩
    let given : Release := { smallRelease with platform := some ⟨.linux, .x64⟩ }
    (∀ c (w w' : World Unit),
        (rewritingHost.capture c w).1 = (rewritingHost.capture c w').1 ∧
          (rewritingHost.run c w).result = (rewritingHost.run c w').result) ∧
      (∀ producer consumer dest (w w' : World Unit),
        (rewritingHost.pipe producer consumer dest w).result =
          (rewritingHost.pipe producer consumer dest w').result) ∧
      (∀ program (w w' : World Unit),
        rewritingHost.locate program w = rewritingHost.locate program w') ∧
      rewritingHost.ForgetsNaming ∧
      ((Platform.detect "unix").perform rewritingHost world).1 = .ok ⟨.linux, .x64⟩ ∧
      (smallRelease.run.perform rewritingHost world).1 ≠
        (given.run.perform rewritingHost world).1 := by
  intro world given
  refine ⟨fun c w w' => ⟨?_, rfl⟩, fun _ _ _ _ _ => rfl, fun _ _ _ => rfl,
    fun _ _ _ => .refl _ _, by rfl, fun same => ?_⟩
  · simp only [rewritingHost]
    split
    · rfl
    · split <;> rfl
  · have versions : (smallRelease.run.perform rewritingHost world).1.toOption.map (·.version) =
        some "2.0.0" := by
      decide +kernel
    have version : (given.run.perform rewritingHost world).1.toOption.map (·.version) =
        some "1.0.0" := by
      decide +kernel
    rw [same, version] at versions
    exact absurd versions (by decide)

end ReleaseBuilder
