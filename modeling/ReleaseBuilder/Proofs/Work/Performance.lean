/-
# Performing work

Work only ever adds to the record of the session it is done in, so a piece of work can be
understood from an empty record: `perform` says what it comes to, in which world it ends
and what it records. This module gives `perform` for every primitive and for work done one
piece after the other. What a bind does is told by cases: the first piece fails and that is
all, or both are done and their records stand one behind the other.
-/

import ReleaseBuilder.Release.Work

namespace ReleaseBuilder

variable {σ α β : Type}

namespace Session

/-- The session that goes on where `s` ended: the world of `t`, and its record behind that
of `s`. -/
def followedBy (s t : Session σ) : Session σ :=
  ⟨t.world, s.record ++ t.record⟩

@[simp] theorem followedBy_world (s t : Session σ) : (s.followedBy t).world = t.world := rfl

@[simp] theorem followedBy_record (s t : Session σ) :
    (s.followedBy t).record = s.record ++ t.record := rfl

theorem followedBy_assoc (s t u : Session σ) :
    (s.followedBy t).followedBy u = s.followedBy (t.followedBy u) := by
  simp [followedBy]

end Session

namespace Work

/-- Do work on a host in the middle of a session. -/
def within (work : Work σ α) (host : Host σ) (s : Session σ) : Except Failure α × Session σ :=
  (work host).run s

theorem perform_eq_within (work : Work σ α) (host : Host σ) (world : World σ) :
    work.perform host world = work.within host { world } := rfl

/-! ## Work in the middle of a session -/

section Within

variable (host : Host σ) (s : Session σ)

theorem within_bind (first : Work σ α) (next : α → Work σ β) :
    (first >>= next).within host s =
      match first.within host s with
      | (.ok a, t) => (next a).within host t
      | (.error failure, t) => (.error failure, t) := by
  simp only [within, bind, ReaderT.bind, ExceptT.bind, ExceptT.mk, ExceptT.run, StateT.bind]
  rcases first host s with ⟨_ | _, _⟩ <;> rfl

theorem within_tryCatch (work : Work σ α) (handle : Failure → Work σ α) :
    (tryCatch work handle).within host s =
      match work.within host s with
      | (.ok a, t) => (.ok a, t)
      | (.error failure, t) => (handle failure).within host t := by
  simp only [within, tryCatch, tryCatchThe, MonadExceptOf.tryCatch, ExceptT.tryCatch,
    ExceptT.mk, ExceptT.run, bind, StateT.bind]
  rcases work host s with ⟨_ | _, _⟩ <;> rfl

theorem within_pure (a : α) : (pure a : Work σ α).within host s = (.ok a, s) := rfl

theorem within_ofExcept (result : Except Failure α) :
    (ofExcept result : Work σ α).within host s = (result, s) := by
  cases result <;> rfl

theorem within_files : files.within host s = (.ok s.world.files, s) := rfl

theorem within_emit (e : Event) :
    (emit e).within host s = (.ok (), s.followedBy ⟨s.world, [.event e]⟩) := rfl

theorem within_read : (read : Work σ (Host σ)).within host s = (.ok host, s) := rfl

theorem within_get : (get : Work σ (Session σ)).within host s = (.ok s, s) := rfl

theorem within_modify (f : Session σ → Session σ) :
    (modify f : Work σ Unit).within host s = (.ok (), f s) := rfl

theorem within_run (c : Command) :
    (run c).within host s =
      ((host.run c s.world).result,
        s.followedBy ⟨(host.run c s.world).world,
          [.ran c (host.run c s.world).result (host.run c s.world).shown]⟩) := by
  simp only [run, within_bind, within_read, within_get, within_modify, within_ofExcept]
  rfl

theorem within_capture (c : Command) :
    (capture c).within host s =
      ((host.capture c s.world).1,
        s.followedBy ⟨(host.capture c s.world).2, [.captured c (host.capture c s.world).1]⟩) := by
  simp only [capture, within_bind, within_read, within_get, within_modify, within_ofExcept]
  rfl

theorem within_pipe (producer consumer : Command) (dest : Path) :
    (pipe producer consumer dest).within host s =
      ((host.pipe producer consumer dest s.world).result,
        s.followedBy ⟨(host.pipe producer consumer dest s.world).world,
          [.piped producer consumer dest (host.pipe producer consumer dest s.world).result
            (host.pipe producer consumer dest s.world).shown]⟩) := by
  simp only [pipe, within_bind, within_read, within_get, within_modify, within_ofExcept]
  rfl

theorem within_locate (program : String) :
    (locate program).within host s =
      (.ok (host.locate program s.world),
        s.followedBy ⟨s.world, [.located program (host.locate program s.world)]⟩) := by
  simp only [locate, within_bind, within_read, within_get, within_modify]
  rfl

theorem within_onFiles (change : FileSystem → Except Failure α × FileSystem) :
    (onFiles change).within host s =
      ((change s.world.files).1,
        s.followedBy ⟨{ s.world with files := (change s.world.files).2 }, []⟩) := by
  simp only [onFiles, within_bind, within_get, within_modify, within_ofExcept,
    Session.followedBy, List.append_nil]
  rfl

end Within

/-! ## Work that adds to the record -/

/-- In the middle of a session the work does what it does from an empty record, and what it
records comes behind what is there. -/
def AddsToRecord (work : Work σ α) : Prop :=
  ∀ (host : Host σ) (s : Session σ),
    work.within host s =
      ((work.perform host s.world).1, s.followedBy (work.perform host s.world).2)

section AddsToRecord

/-- It is enough that the result and the addition to the record depend on the world alone. -/
theorem addsToRecord_of_within {work : Work σ α}
    (outcome : Host σ → World σ → Except Failure α × Session σ)
    (h : ∀ (host : Host σ) (s : Session σ),
      work.within host s = ((outcome host s.world).1, s.followedBy (outcome host s.world).2)) :
    work.AddsToRecord := by
  intro host s
  have alone : work.perform host s.world = outcome host s.world := by
    rw [perform_eq_within, h]
    rfl
  rw [h, alone]

theorem addsToRecord_pure (a : α) : (pure a : Work σ α).AddsToRecord :=
  addsToRecord_of_within (fun _ world => (.ok a, ⟨world, []⟩)) fun host s => by
    simp [within_pure, Session.followedBy]

theorem addsToRecord_ofExcept (result : Except Failure α) :
    (ofExcept result : Work σ α).AddsToRecord :=
  addsToRecord_of_within (fun _ world => (result, ⟨world, []⟩)) fun host s => by
    simp [within_ofExcept, Session.followedBy]

theorem addsToRecord_fail (failure : Failure) : (fail failure : Work σ α).AddsToRecord :=
  addsToRecord_ofExcept (.error failure)

theorem addsToRecord_files : (files : Work σ FileSystem).AddsToRecord :=
  addsToRecord_of_within (fun _ world => (.ok world.files, ⟨world, []⟩)) fun host s => by
    simp [within_files, Session.followedBy]

theorem addsToRecord_emit (e : Event) : (emit e : Work σ Unit).AddsToRecord :=
  addsToRecord_of_within (fun _ world => (.ok (), ⟨world, [.event e]⟩)) fun host s =>
    within_emit host s e

theorem addsToRecord_run (c : Command) : (run c : Work σ Unit).AddsToRecord :=
  addsToRecord_of_within (fun host world => ((host.run c world).result,
    ⟨(host.run c world).world, [.ran c (host.run c world).result (host.run c world).shown]⟩))
    fun host s => within_run host s c

theorem addsToRecord_capture (c : Command) : (capture c : Work σ CapturedOutput).AddsToRecord :=
  addsToRecord_of_within (fun host world => ((host.capture c world).1,
    ⟨(host.capture c world).2, [.captured c (host.capture c world).1]⟩))
    fun host s => within_capture host s c

theorem addsToRecord_pipe (producer consumer : Command) (dest : Path) :
    (pipe producer consumer dest : Work σ Unit).AddsToRecord :=
  addsToRecord_of_within (fun host world => ((host.pipe producer consumer dest world).result,
    ⟨(host.pipe producer consumer dest world).world,
      [.piped producer consumer dest (host.pipe producer consumer dest world).result
        (host.pipe producer consumer dest world).shown]⟩))
    fun host s => within_pipe host s producer consumer dest

theorem addsToRecord_locate (program : String) :
    (locate program : Work σ (Option Path)).AddsToRecord :=
  addsToRecord_of_within (fun host world => (.ok (host.locate program world),
    ⟨world, [.located program (host.locate program world)]⟩))
    fun host s => within_locate host s program

theorem addsToRecord_onFiles (change : FileSystem → Except Failure α × FileSystem) :
    (onFiles change : Work σ α).AddsToRecord :=
  addsToRecord_of_within (fun _ world => ((change world.files).1,
    ⟨{ world with files := (change world.files).2 }, []⟩))
    fun host s => within_onFiles host s change

theorem AddsToRecord.bind {first : Work σ α} {next : α → Work σ β}
    (hfirst : first.AddsToRecord) (hnext : ∀ a, (next a).AddsToRecord) :
    (first >>= next).AddsToRecord := by
  intro host s
  rw [perform_eq_within, within_bind, within_bind, hfirst, ← perform_eq_within]
  rcases first.perform host s.world with ⟨_ | a, t⟩
  · rfl
  · show (next a).within host (s.followedBy t) =
      (((next a).within host t).1, s.followedBy ((next a).within host t).2)
    rw [hnext, hnext a host t, Session.followedBy_assoc]
    rfl

theorem AddsToRecord.tryCatch {work : Work σ α} {handle : Failure → Work σ α}
    (hwork : work.AddsToRecord) (hhandle : ∀ failure, (handle failure).AddsToRecord) :
    (tryCatch work handle).AddsToRecord := by
  intro host s
  rw [perform_eq_within, within_tryCatch, within_tryCatch, hwork, ← perform_eq_within]
  rcases work.perform host s.world with ⟨failure | _, t⟩
  · show (handle failure).within host (s.followedBy t) =
      (((handle failure).within host t).1, s.followedBy ((handle failure).within host t).2)
    rw [hhandle, hhandle failure host t, Session.followedBy_assoc]
    rfl
  · rfl

theorem AddsToRecord.step {work : Work σ α} (h : work.AddsToRecord) (x : Step) :
    (step x work).AddsToRecord :=
  (addsToRecord_emit _).bind fun _ => h.bind fun a =>
    (addsToRecord_emit _).bind fun _ => addsToRecord_pure a

end AddsToRecord

/-! ## What work comes to -/

section Perform

variable (host : Host σ) (world : World σ)

@[simp] theorem perform_pure (a : α) :
    (pure a : Work σ α).perform host world = (.ok a, ⟨world, []⟩) := rfl

@[simp] theorem perform_fail (failure : Failure) :
    (fail failure : Work σ α).perform host world = (.error failure, ⟨world, []⟩) := rfl

@[simp] theorem perform_ofExcept (result : Except Failure α) :
    (ofExcept result : Work σ α).perform host world = (result, ⟨world, []⟩) :=
  within_ofExcept host { world } result

@[simp] theorem perform_files :
    files.perform host world = (.ok world.files, ⟨world, []⟩) := rfl

@[simp] theorem perform_run (c : Command) :
    (run c).perform host world =
      ((host.run c world).result, ⟨(host.run c world).world,
        [.ran c (host.run c world).result (host.run c world).shown]⟩) :=
  within_run host { world } c

@[simp] theorem perform_capture (c : Command) :
    (capture c).perform host world =
      ((host.capture c world).1,
        ⟨(host.capture c world).2, [.captured c (host.capture c world).1]⟩) :=
  within_capture host { world } c

@[simp] theorem perform_pipe (producer consumer : Command) (dest : Path) :
    (pipe producer consumer dest).perform host world =
      ((host.pipe producer consumer dest world).result,
        ⟨(host.pipe producer consumer dest world).world,
          [.piped producer consumer dest (host.pipe producer consumer dest world).result
            (host.pipe producer consumer dest world).shown]⟩) :=
  within_pipe host { world } producer consumer dest

@[simp] theorem perform_locate (program : String) :
    (locate program).perform host world =
      (.ok (host.locate program world),
        ⟨world, [.located program (host.locate program world)]⟩) :=
  within_locate host { world } program

@[simp] theorem perform_onFiles (change : FileSystem → Except Failure α × FileSystem) :
    (onFiles change).perform host world =
      ((change world.files).1, ⟨{ world with files := (change world.files).2 }, []⟩) :=
  within_onFiles host { world } change

/-- Two pieces of work, the second starting from what the first gave. -/
theorem perform_bind {next : α → Work σ β} (adds : ∀ a, (next a).AddsToRecord)
    (first : Work σ α) :
    (first >>= next).perform host world =
      match first.perform host world with
      | (.ok a, s) =>
        (((next a).perform host s.world).1, s.followedBy ((next a).perform host s.world).2)
      | (.error failure, s) => (.error failure, s) := by
  rw [perform_eq_within, within_bind, ← perform_eq_within]
  rcases first.perform host world with ⟨_ | a, s⟩
  · rfl
  · exact adds a host s

/-- What a command prints is looked at, and that is all. -/
theorem perform_capture_bind_ofExcept (c : Command) (f : CapturedOutput → Except Failure α) :
    (capture c >>= fun output => ofExcept (f output)).perform host world =
      ((host.capture c world).1.bind f,
        ⟨(host.capture c world).2, [.captured c (host.capture c world).1]⟩) := by
  rw [perform_bind host world fun output => addsToRecord_ofExcept (f output), perform_capture]
  cases (host.capture c world).1 with
  | error failure => rfl
  | ok output => simp [Session.followedBy, Except.bind]

theorem perform_map (f : α → β) (work : Work σ α) :
    (f <$> work).perform host world =
      ((work.perform host world).1.map f, (work.perform host world).2) := by
  rw [← bind_pure_comp, perform_bind host world fun a => addsToRecord_pure (f a)]
  rcases work.perform host world with ⟨_ | a, s⟩
  · rfl
  · simp [Session.followedBy, Except.map]

theorem of_perform_map_ok {f : α → β} {work : Work σ α} {host : Host σ} {world : World σ} {b : β}
    {s : Session σ} (h : (f <$> work).perform host world = (.ok b, s)) :
    ∃ a, work.perform host world = (.ok a, s) ∧ f a = b := by
  rw [perform_map] at h
  rcases outcome : work.perform host world with ⟨failure | a, t⟩
  · rw [outcome] at h
    cases h
  · rw [outcome] at h
    cases h
    exact ⟨a, rfl, rfl⟩

theorem of_perform_map_error {f : α → β} {work : Work σ α} {host : Host σ} {world : World σ}
    {failure : Failure} {s : Session σ}
    (h : (f <$> work).perform host world = (.error failure, s)) :
    work.perform host world = (.error failure, s) := by
  rw [perform_map] at h
  rcases outcome : work.perform host world with ⟨other | a, t⟩
  · rw [outcome] at h
    cases h
    rfl
  · rw [outcome] at h
    cases h

/-- A step is told before its work is done, and again if the work succeeds. -/
theorem perform_step {work : Work σ α} (adds : work.AddsToRecord) (x : Step) :
    (step x work).perform host world =
      match work.perform host world with
      | (.ok a, s) =>
        (.ok a, ⟨s.world, .event (.stepStarted x) :: s.record ++ [.event (.stepFinished x)]⟩)
      | (.error failure, s) =>
        (.error failure, ⟨s.world, .event (.stepStarted x) :: s.record⟩) := by
  rw [perform_eq_within]
  simp only [step, within_bind, within_emit, adds host]
  simp only [Session.followedBy, List.nil_append]
  rcases work.perform host world with ⟨_ | a, s⟩
  · rfl
  · simp [within_pure]

end Perform

/-- How two pieces of work can go: the first fails, and the second is not begun, or the
second goes on in the world that the first left. -/
theorem perform_bind_cases {host : Host σ} {world : World σ} {first : Work σ α}
    {next : α → Work σ β} (adds : ∀ a, (next a).AddsToRecord) {result : Except Failure β}
    {session : Session σ} (h : (first >>= next).perform host world = (result, session)) :
    (∃ failure, first.perform host world = (.error failure, session) ∧
        result = .error failure) ∨
      ∃ a s t, first.perform host world = (.ok a, s) ∧
        (next a).perform host s.world = (result, t) ∧ session = s.followedBy t := by
  rw [perform_bind host world adds] at h
  rcases hfirst : first.perform host world with ⟨failure | a, s⟩
  · rw [hfirst] at h
    cases h
    exact .inl ⟨failure, rfl, rfl⟩
  · rw [hfirst] at h
    cases h
    exact .inr ⟨a, s, _, rfl, rfl, rfl⟩

/-! ## Properties of what is put together -/

/-- A property of work that changes nothing, and of work that is done one piece after the other
if each piece has it. What is shown of the calls on a host then holds of all that is put together
from them. -/
structure Composes (C : ∀ α : Type, Work σ α → Prop) : Prop where
  pure : ∀ {α : Type} (a : α), C α (pure a)
  fail : ∀ {α : Type} (failure : Failure), C α (fail failure)
  files : C FileSystem files
  locate : ∀ program, C (Option Path) (locate program)
  bind : ∀ {α β : Type} {first : Work σ α} {next : α → Work σ β},
    C α first → (∀ a, C β (next a)) → C β (first >>= next)

namespace Composes

variable {C : ∀ α : Type, Work σ α → Prop} {α β : Type}

theorem ofExcept (h : Composes C) (result : Except Failure α) : C α (ofExcept result) := by
  cases result with
  | ok a => exact h.pure a
  | error failure => exact h.fail failure

theorem map (h : Composes C) {work : Work σ α} (holds : C α work) (f : α → β) :
    C β (f <$> work) := by
  rw [← bind_pure_comp]
  exact h.bind holds fun a => h.pure (f a)

end Composes
end Work

end ReleaseBuilder
