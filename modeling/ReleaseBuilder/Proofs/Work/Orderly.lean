/-
# Orderly work

Some occurrences are fatal: after a command that failed nothing more is done, and its
failure is what the work comes to. The exception is a compiler that is asked for its
version, for one that cannot be asked has merely not shown anything.

Work is orderly if it only adds to the record, tells no events, and stops at what is fatal.
Orderly work done after orderly work is orderly, so this is shown of each primitive once and
of everything else by following how it is put together.
-/

import ReleaseBuilder.Compilers.Selection
import ReleaseBuilder.Proofs.Work.Performance
import ReleaseBuilder.Release.Detection

namespace ReleaseBuilder

variable {σ α β : Type}

/-- The failure of a result, if it is one. -/
def failureOf : Except Failure α → Option Failure
  | .ok _ => none
  | .error failure => some failure

/-- Whether a query asks the kernel for one of its names. -/
def Command.AsksForName (c : Command) : Prop :=
  c = Platform.nameQuery "-s" ∨ c = Platform.nameQuery "-m"

instance (c : Command) : Decidable c.AsksForName :=
  inferInstanceAs (Decidable (_ ∨ _))

/-- The failure that ends the work an occurrence is part of, if there is one: a call failed,
unless it asked a compiler for its version, or the kernel did not tell a name. -/
def Occurrence.fatal? : Occurrence → Option Failure
  | .event _ | .located _ _ => none
  | .ran _ result _ | .piped _ _ _ result _ => failureOf result
  | .captured c (.error failure) =>
    if c = Compilers.versionQuery c.program then none else some failure
  | .captured c (.ok output) =>
    if c.AsksForName ∧ output.success = false then some (UnknownHost.silent c.text).failure
    else none

/-! ## Records that stop -/

/-- An occurrence in a record behind another one is in the second, or in the first. -/
theorem split_of_append {first second before after : List Occurrence} {o : Occurrence}
    (h : first ++ second = before ++ o :: after) :
    (∃ between, before = first ++ between ∧ second = between ++ o :: after) ∨
      ∃ between, first = before ++ o :: between := by
  rcases List.append_eq_append_iff.mp h with ⟨between, inSecond, rest⟩ | ⟨between, inFirst, rest⟩
  · exact .inl ⟨between, inSecond, rest⟩
  · rcases between with _ | ⟨other, between⟩
    · refine .inl ⟨[], ?_, rest.symm⟩
      simpa using inFirst.symm
    · obtain ⟨rfl, -⟩ := List.cons.inj rest
      exact .inr ⟨between, inFirst⟩

/-- What is fatal in a record is the last of it, and its failure is the result. -/
def StopsWith (record : List Occurrence) (result : Except Failure α) : Prop :=
  ∀ (before : List Occurrence) (o : Occurrence) (after : List Occurrence) (failure : Failure),
    record = before ++ o :: after → o.fatal? = some failure →
      after = [] ∧ result = .error failure

theorem stopsWith_nil (result : Except Failure α) : StopsWith [] result := by
  intro before o after failure h
  simp at h

theorem stopsWith_singleton {o : Occurrence} {result : Except Failure α}
    (h : ∀ failure, o.fatal? = some failure → result = .error failure) :
    StopsWith [o] result := by
  intro before other after failure split fatal
  rcases before with _ | ⟨first, before⟩
  · obtain ⟨rfl, rfl⟩ := List.cons.inj split
    exact ⟨rfl, h failure fatal⟩
  · simp at split

/-- In a record whose result is no failure, nothing is fatal. -/
theorem StopsWith.fatal_eq_none {record : List Occurrence} {a : α}
    (h : StopsWith record (.ok a)) {o : Occurrence} (member : o ∈ record) :
    o.fatal? = none := by
  obtain ⟨before, after, split⟩ := List.append_of_mem member
  cases fatal : o.fatal? with
  | none => rfl
  | some failure => exact nomatch (h before o after failure split fatal).2

/-- The result of a failure may be one of another type. -/
theorem StopsWith.error {record : List Occurrence} {failure : Failure}
    (h : StopsWith record (.error failure : Except Failure α)) :
    StopsWith record (.error failure : Except Failure β) := by
  intro before o after other split fatal
  obtain ⟨last, same⟩ := h before o after other split fatal
  cases same
  exact ⟨last, rfl⟩

theorem StopsWith.map {record : List Occurrence} {result : Except Failure α}
    (h : StopsWith record result) (f : α → β) : StopsWith record (result.map f) := by
  cases result with
  | error failure => exact h.error
  | ok a =>
    intro before o after failure split fatal
    exact nomatch (h before o after failure split fatal).2

/-- Nothing fatal, and then a record that stops. -/
theorem StopsWith.append {first second : List Occurrence} {result : Except Failure α}
    (hfirst : ∀ o ∈ first, o.fatal? = none) (hsecond : StopsWith second result) :
    StopsWith (first ++ second) result := by
  intro before o after failure split fatal
  rcases split_of_append split with ⟨between, -, rest⟩ | ⟨between, inFirst⟩
  · exact hsecond between o after failure rest fatal
  · have harmless := hfirst o (by rw [inFirst]; simp)
    rw [harmless] at fatal
    cases fatal

/-- A record without anything fatal stops with every result. -/
theorem stopsWith_of_harmless {record : List Occurrence} (result : Except Failure α)
    (h : ∀ o ∈ record, o.fatal? = none) : StopsWith record result := by
  have stops := StopsWith.append h (stopsWith_nil result)
  rwa [List.append_nil] at stops

namespace Work

/-! ## Orderly work -/

/-- Work that adds to the record without telling events, and stops at what is fatal. -/
structure Orderly (work : Work σ α) : Prop where
  adds : work.AddsToRecord
  quiet : ∀ (host : Host σ) (world : World σ), eventsOf (work.perform host world).2.record = []
  stops : ∀ (host : Host σ) (world : World σ),
    StopsWith (work.perform host world).2.record (work.perform host world).1

theorem Orderly.bind {first : Work σ α} {next : α → Work σ β} (hfirst : first.Orderly)
    (hnext : ∀ a, (next a).Orderly) : (first >>= next).Orderly where
  adds := hfirst.adds.bind fun a => (hnext a).adds
  quiet host world := by
    rcases outcome : (first >>= next).perform host world with ⟨result, session⟩
    have told := hfirst.quiet host world
    rcases perform_bind_cases (fun a => (hnext a).adds) outcome with
      ⟨failure, failed, rfl⟩ | ⟨a, s, t, succeeded, goesOn, rfl⟩
    · rw [failed] at told
      exact told
    · have toldNext := (hnext a).quiet host s.world
      rw [succeeded] at told
      rw [goesOn] at toldNext
      rw [Session.followedBy_record, eventsOf_append, told, toldNext]
      rfl
  stops host world := by
    rcases outcome : (first >>= next).perform host world with ⟨result, session⟩
    have stops := hfirst.stops host world
    rcases perform_bind_cases (fun a => (hnext a).adds) outcome with
      ⟨failure, failed, rfl⟩ | ⟨a, s, t, succeeded, goesOn, rfl⟩
    · rw [failed] at stops
      exact stops.error
    · have stopsNext := (hnext a).stops host s.world
      rw [succeeded] at stops
      rw [goesOn] at stopsNext
      exact StopsWith.append (fun o member => stops.fatal_eq_none member) stopsNext

theorem orderly_pure (a : α) : (pure a : Work σ α).Orderly where
  adds := addsToRecord_pure a
  quiet _ _ := rfl
  stops _ _ := stopsWith_nil _

theorem orderly_fail (failure : Failure) : (fail failure : Work σ α).Orderly where
  adds := addsToRecord_fail failure
  quiet _ _ := rfl
  stops _ _ := stopsWith_nil _

theorem orderly_ofExcept (result : Except Failure α) : (ofExcept result : Work σ α).Orderly := by
  cases result with
  | ok a => exact orderly_pure a
  | error failure => exact orderly_fail failure

theorem orderly_files : (files : Work σ FileSystem).Orderly where
  adds := addsToRecord_files
  quiet _ _ := rfl
  stops _ _ := stopsWith_nil _

theorem orderly_locate (program : String) : (locate program : Work σ (Option Path)).Orderly where
  adds := addsToRecord_locate program
  quiet host world := by
    rw [perform_locate]
    rfl
  stops host world := by
    rw [perform_locate]
    exact stopsWith_of_harmless _ fun o member => by
      obtain rfl := List.mem_singleton.mp member
      rfl

theorem orderly_onFiles (change : FileSystem → Except Failure α × FileSystem) :
    (onFiles change : Work σ α).Orderly where
  adds := addsToRecord_onFiles change
  quiet host world := by
    rw [perform_onFiles]
    rfl
  stops host world := by
    rw [perform_onFiles]
    exact stopsWith_nil _

theorem orderly_run (c : Command) : (run c : Work σ Unit).Orderly where
  adds := addsToRecord_run c
  quiet host world := by
    rw [perform_run]
    rfl
  stops host world := by
    rw [perform_run]
    apply stopsWith_singleton
    intro failure fatal
    cases result : (host.run c world).result <;>
      simp_all [Occurrence.fatal?, failureOf]

theorem orderly_pipe (producer consumer : Command) (dest : Path) :
    (pipe producer consumer dest : Work σ Unit).Orderly where
  adds := addsToRecord_pipe producer consumer dest
  quiet host world := by
    rw [perform_pipe]
    rfl
  stops host world := by
    rw [perform_pipe]
    apply stopsWith_singleton
    intro failure fatal
    cases result : (host.pipe producer consumer dest world).result <;>
      simp_all [Occurrence.fatal?, failureOf]

/-- A captured command whose success does not matter. -/
theorem orderly_capture {c : Command} (h : ¬ c.AsksForName) :
    (capture c : Work σ CapturedOutput).Orderly where
  adds := addsToRecord_capture c
  quiet host world := by
    rw [perform_capture]
    rfl
  stops host world := by
    rw [perform_capture]
    apply stopsWith_singleton
    intro failure fatal
    rcases result : (host.capture c world).1 with _ | output <;>
      simp_all [Occurrence.fatal?]

/-- What is put together from orderly work is orderly. -/
theorem composes_orderly : Composes fun α (work : Work σ α) => work.Orderly where
  pure := orderly_pure
  fail := orderly_fail
  files := orderly_files
  locate := orderly_locate
  bind := Orderly.bind

theorem Orderly.map {work : Work σ α} (h : work.Orderly) (f : α → β) : (f <$> work).Orderly :=
  composes_orderly.map h f

end Work

end ReleaseBuilder
