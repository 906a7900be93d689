/-
# What a run tells

The events of a run are those of its steps, in the order of the steps. Nothing is told while
the platform and the version are found out, and nothing by the work of a step itself, so the
events show exactly how far a run has come: whether it began, which steps it passed, and at
which step it failed.
-/

import ReleaseBuilder.Proofs.Release.Course

namespace ReleaseBuilder

variable {σ : Type}

/-- What is told of steps that all succeed. -/
def toldOf (steps : List Step) : List Event :=
  steps.flatMap Step.told

theorem toldOf_append (a b : List Step) : toldOf (a ++ b) = toldOf a ++ toldOf b :=
  List.flatMap_append

theorem started_notMem_toldOf {version : String} {platform : Platform} {tag : String}
    {steps : List Step} : .started version platform tag ∉ toldOf steps := by
  simp [toldOf, Step.told]

/-- Of steps that succeed never only a beginning is told last. -/
theorem getLast?_toldOf_ne (steps : List Step) (x : Step) :
    (toldOf steps).getLast? ≠ some (.stepStarted x) := by
  rcases List.eq_nil_or_concat steps with rfl | ⟨passed, last, rfl⟩
  · nofun
  · rw [List.concat_eq_append, toldOf_append]
    simp [toldOf, Step.told]

theorem getLast?_started_toldOf_ne (version : String) (platform : Platform) (tag : String)
    (steps : List Step) (x : Step) :
    (.started version platform tag :: toldOf steps).getLast? ≠ some (.stepStarted x) := by
  rw [List.getLast?_cons]
  cases last : (toldOf steps).getLast? with
  | none => nofun
  | some e =>
    intro same
    rw [Option.getD_some] at same
    exact getLast?_toldOf_ne steps x (last.trans same)

theorem length_toldOf (steps : List Step) : (toldOf steps).length = 2 * steps.length := by
  induction steps with
  | nil => rfl
  | cons x rest ih =>
      have both : toldOf (x :: rest) = x.told ++ toldOf rest := rfl
      rw [both, List.length_append, ih, Step.told]
      simp only [List.length_cons, List.length_nil]
      omega

/-- A beginning without an end cannot be taken for steps that succeed. -/
theorem toldOf_ne_unfinished (done left steps : List Step) (x : Step)
    (split : steps = done ++ x :: left) : toldOf done ++ [.stepStarted x] ≠ toldOf steps := by
  intro same
  have lengths := congrArg List.length same
  rw [split, List.length_append, length_toldOf, length_toldOf, List.length_append] at lengths
  simp only [List.length_cons, List.length_nil] at lengths
  omega

/-- Behind a record without events one is told first. -/
theorem eventsOf_behind_quiet {before : List Occurrence} (quiet : eventsOf before = []) (e : Event)
    (record : List Occurrence) :
    eventsOf (before ++ .event e :: record) = e :: eventsOf record := by
  rw [eventsOf_append, quiet]
  rfl

section Steps

variable {r : Release} {platform : Platform} {version : String} {host : Host σ} {start : World σ}

/-- Steps that were passed are told one after the other. -/
theorem Release.Reaches.eventsOf_eq {done : List Step} {p : Progress} {world : World σ}
    {record : List Occurrence}
    (reached : r.Reaches platform version host start done p world record) :
    eventsOf record = toldOf done := by
  induction reached with
  | start => rfl
  | @step done p after world record x s reached succeeds ih =>
      have quiet := (r.orderly_work platform version p x).quiet host world
      rw [succeeds] at quiet
      have passage : eventsOf (Release.passage x s.record) = x.told := by
        rw [Release.passage, eventsOf_append]
        change (.stepStarted x :: eventsOf s.record) ++ [.stepFinished x] = x.told
        rw [quiet]
        rfl
      rw [eventsOf_append, ih, passage, toldOf_append]
      simp [toldOf]

/-- Of a step that fails behind others only its beginning is told. -/
theorem Release.Reaches.eventsOf_failed {done : List Step} {x : Step} {p : Progress}
    {world : World σ} {record : List Occurrence} {failure : Failure} {s : Session σ}
    (reached : r.Reaches platform version host start done p world record)
    (fails : (r.work platform version p x).perform host world = (.error failure, s)) :
    eventsOf (record ++ .event (.stepStarted x) :: s.record) = toldOf done ++ [.stepStarted x] := by
  have quiet := (r.orderly_work platform version p x).quiet host world
  rw [fails] at quiet
  rw [eventsOf_append, reached.eventsOf_eq]
  change _ ++ .stepStarted x :: eventsOf s.record = _
  rw [quiet]

/-- What is told in front of the steps is all that is told as a start. -/
theorem Release.Went.eq_of_started {steps : List Step} {result : Except Failure Progress}
    {behind : World σ} {record : List Occurrence}
    (went : r.Went platform version host start steps result behind record) {first : Event}
    {version' : String} {platform' : Platform} {tag : String}
    (told : .started version' platform' tag ∈ first :: eventsOf record) :
    first = .started version' platform' tag := by
  rcases List.mem_cons.mp told with same | later
  · exact same.symm
  · cases went with
    | passed reached =>
      rw [reached.eventsOf_eq] at later
      exact absurd later started_notMem_toldOf
    | failed split reached fails =>
      rw [reached.eventsOf_failed fails] at later
      rcases List.mem_append.mp later with earlier | last
      · exact absurd earlier started_notMem_toldOf
      · cases List.mem_singleton.mp last

end Steps

/-- The start is told in full, or up to a step that fails. -/
inductive Tells (r : Release) (host : Host σ) (platform : Platform) (version : String)
    (start : World σ) : Except Failure Report → List Event → Prop
  | complete (report : Report) :
      Tells r host platform version start (.ok report)
        (.started version platform platform.tag :: toldOf (r.sequence platform))
  | unfinished {done left : List Step} {x : Step} {p : Progress} {here : World σ}
      {record : List Occurrence} {failure : Failure} {s : Session σ}
      (split : r.sequence platform = done ++ x :: left)
      (reached : r.Reaches platform version host start done p here record)
      (fails : (r.work platform version p x).perform host here = (.error failure, s)) :
      Tells r host platform version start (.error failure)
        (.started version platform platform.tag :: toldOf done ++ [.stepStarted x])

theorem tells_run {r : Release} {host : Host σ} {world : World σ} {platform : Platform}
    {version : String} {s : Session σ} (finds : r.Finds host world platform version s) :
    Tells r host platform version s.world (r.run.perform host world).1
      (eventsOf (r.run.perform host world).2.record) := by
  have quiet := r.orderly_findPlatform.quiet host world
  have ends := r.ends_run host world
  generalize r.run.perform host world = outcome at ends
  obtain ⟨result, session⟩ := outcome
  cases ends with
  | platformUnknown unknown => cases finds.platform.symm.trans unknown
  | versionMissing known missing =>
    cases finds.platform.symm.trans known
    cases finds.version.symm.trans missing
  | @began platform version s' result behind record finds' went =>
    cases finds.platform.symm.trans finds'.platform
    cases finds.version.symm.trans finds'.version
    rw [finds.platform] at quiet
    rw [eventsOf_behind_quiet quiet]
    cases went with
    | passed reached =>
      rw [reached.eventsOf_eq]
      exact .complete _
    | @failed done left x p here before failure t split reached fails =>
      rw [reached.eventsOf_failed fails]
      exact .unfinished split reached fails

/-- Steps that are told in full, or up to one that fails, show by their events which it is. -/
theorem Tells.result_iff {r : Release} {host : Host σ} {platform : Platform} {version : String}
    {start : World σ} {result : Except Failure Report} {events : List Event}
    (h : Tells r host platform version start result events) :
    ((∃ report, result = .ok report) ↔ ∃ version platform,
      events = .started version platform platform.tag :: toldOf (r.sequence platform)) ∧
    ((∃ failure, result = .error failure) ↔
      events = [] ∨ ∃ x, events.getLast? = some (.stepStarted x)) := by
  cases h with
  | complete report =>
    constructor
    · exact ⟨fun _ => ⟨version, platform, rfl⟩, fun _ => ⟨report, rfl⟩⟩
    · constructor
      · rintro ⟨failure, same⟩
        cases same
      · rintro (none | ⟨x, last⟩)
        · cases none
        · exact absurd last (getLast?_started_toldOf_ne _ _ _ _ x)
  | @unfinished done left x p here record failure s split reached fails =>
    constructor
    · constructor
      · rintro ⟨report, same⟩
        cases same
      · rintro ⟨version', platform', same⟩
        obtain ⟨⟨⟩, told⟩ := List.cons.inj same
        exact absurd told (toldOf_ne_unfinished done left _ x split)
    · constructor
      · rintro -
        exact .inr ⟨x, List.getLast?_concat⟩
      · rintro -
        exact ⟨failure, rfl⟩

/-- What the events of a run say about it. Without a platform or a version there are none.
Otherwise the start is told, and then the steps, all of them if the run succeeds, and else
those up to one whose work failed, with that failure as the result. So a run succeeds exactly
if its steps are told to the end, and fails exactly if nothing is told or a beginning last. -/
theorem eventsOf_run (r : Release) (host : Host σ) (world : World σ) :
    let detection := r.findPlatform.perform host world
    let resolution := r.versionIn detection.2.world.files
    let outcome := r.run.perform host world
    let events := eventsOf outcome.2.record
    (∀ failure, detection.1 = .error failure → events = [] ∧ outcome.1 = .error failure) ∧
    (∀ platform failure, detection.1 = .ok platform → resolution = .error failure →
      events = [] ∧ outcome.1 = .error failure) ∧
    (∀ platform version, detection.1 = .ok platform → resolution = .ok version →
      (∃ report, outcome.1 = .ok report ∧
        events = .started version platform platform.tag :: toldOf (r.sequence platform)) ∨
      ∃ done x left failure, outcome.1 = .error failure ∧
        r.sequence platform = done ++ x :: left ∧
        events = .started version platform platform.tag :: toldOf done ++ [.stepStarted x] ∧
        ∃ p here record s,
          r.Reaches platform version host detection.2.world done p here record ∧
          (r.work platform version p x).perform host here = (.error failure, s)) ∧
    ((∃ report, outcome.1 = .ok report) ↔ ∃ version platform,
      events = .started version platform platform.tag :: toldOf (r.sequence platform)) ∧
    ((∃ failure, outcome.1 = .error failure) ↔
      events = [] ∨ ∃ x, events.getLast? = some (.stepStarted x)) := by
  intro detection resolution outcome events
  have quiet : eventsOf detection.2.record = [] := r.orderly_findPlatform.quiet host world
  have unknown : ∀ failure, detection.1 = .error failure →
      events = [] ∧ outcome.1 = .error failure := by
    intro failure h
    have ran : outcome = (.error failure, detection.2) :=
      Release.run_of_platformUnknown (Prod.ext h rfl)
    have untold : events = eventsOf detection.2.record :=
      congrArg (fun ended => eventsOf ended.2.record) ran
    exact ⟨untold.trans quiet, congrArg Prod.fst ran⟩
  have missing : ∀ platform failure, detection.1 = .ok platform → resolution = .error failure →
      events = [] ∧ outcome.1 = .error failure := by
    intro platform failure known h
    have known' : r.findPlatform.perform host world = (.ok platform, detection.2) :=
      Prod.ext known rfl
    have ran : outcome = (.error failure, detection.2) :=
      Release.run_of_versionMissing known' h
    have untold : events = eventsOf detection.2.record :=
      congrArg (fun ended => eventsOf ended.2.record) ran
    exact ⟨untold.trans quiet, congrArg Prod.fst ran⟩
  have begun : ∀ platform version, detection.1 = .ok platform → resolution = .ok version →
      Tells r host platform version detection.2.world outcome.1 events :=
    fun platform version known h => tells_run ⟨Prod.ext known rfl, h⟩
  have unbegun : ∀ failure, events = [] ∧ outcome.1 = .error failure →
      ((∃ report, outcome.1 = .ok report) ↔ ∃ version platform,
        events = .started version platform platform.tag :: toldOf (r.sequence platform)) ∧
      ((∃ failure, outcome.1 = .error failure) ↔
        events = [] ∨ ∃ x, events.getLast? = some (.stepStarted x)) := by
    rintro failure ⟨untold, failed⟩
    rw [untold, failed]
    constructor
    · constructor
      · rintro ⟨report, same⟩
        cases same
      · rintro ⟨version, platform, same⟩
        cases same
    · exact ⟨fun _ => .inl rfl, fun _ => ⟨failure, rfl⟩⟩
  refine ⟨unknown, missing, ?_, ?_⟩
  · intro platform version known h
    have told := begun platform version known h
    generalize outcome.1 = result at told ⊢
    generalize events = events at told ⊢
    cases told with
    | complete report => exact .inl ⟨report, rfl, rfl⟩
    | unfinished split reached fails =>
      exact .inr ⟨_, _, _, _, rfl, split, rfl, _, _, _, _, reached, fails⟩
  · rcases found : detection.1 with failure | platform
    · exact unbegun failure (unknown failure found)
    · rcases resolved : resolution with failure | version
      · exact unbegun failure (missing platform failure found resolved)
      · exact (begun platform version found resolved).result_iff

end ReleaseBuilder
