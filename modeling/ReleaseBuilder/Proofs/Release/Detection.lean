/-
# What detecting a host does

Asking for a name is one captured command, and whatever the kernel prints is trimmed. The
second name is asked for only behind the first, so a detection makes at most two calls.
-/

import ReleaseBuilder.Proofs.Work.Orderly

namespace ReleaseBuilder.Platform

variable {σ : Type}

/-- The name that an answer tells, if the query succeeded. -/
def nameIn (query : Command) (output : CapturedOutput) : Except Failure String :=
  if output.success then .ok (Text.trim output.stdout)
  else .error (UnknownHost.silent query.text).failure

theorem askName_eq (flag : String) :
    (askName flag : Work σ String) =
      Work.capture (nameQuery flag) >>= fun output =>
        Work.ofExcept (nameIn (nameQuery flag) output) := by
  unfold askName nameIn
  congr 1
  funext output
  cases output.success <;> rfl

/-- Asking for a name is one captured command. -/
@[simp] theorem perform_askName (host : Host σ) (world : World σ) (flag : String) :
    (askName flag).perform host world =
      ((host.capture (nameQuery flag) world).1.bind (nameIn (nameQuery flag)),
        ⟨(host.capture (nameQuery flag) world).2,
          [.captured (nameQuery flag) (host.capture (nameQuery flag) world).1]⟩) := by
  rw [askName_eq, Work.perform_capture_bind_ofExcept]

theorem orderly_askName {flag : String} (h : (nameQuery flag).AsksForName) :
    (askName flag : Work σ String).Orderly where
  adds := by
    rw [askName_eq]
    exact (Work.addsToRecord_capture _).bind fun output => Work.addsToRecord_ofExcept _
  quiet host world := by
    rw [perform_askName]
    rfl
  stops host world := by
    rw [perform_askName]
    apply stopsWith_singleton
    intro failure fatal
    cases answer : (host.capture (nameQuery flag) world).1 with
    | error other =>
      have notVersion : nameQuery flag ≠ Compilers.versionQuery (nameQuery flag).program := by
        rcases h with h | h <;> rw [h] <;> decide
      rw [answer, Occurrence.fatal?, if_neg notVersion] at fatal
      cases fatal
      rfl
    | ok output =>
      cases success : output.success <;>
        simp_all [Occurrence.fatal?, nameIn, Except.bind]

/-- A unix host is asked for both names. -/
theorem detect_of_unix :
    (detect "unix" : Work σ Platform) =
      askName "-s" >>= fun kernel => askName "-m" >>= fun machine =>
        Work.ofExcept ((classify "unix" kernel machine).mapError UnknownHost.failure) :=
  if_neg fun other => other rfl

/-- A host of another family is asked for nothing. -/
theorem perform_detect_of_other {family : String} (other : family ≠ "unix") (host : Host σ)
    (world : World σ) :
    (detect family).perform host world =
      ((classify family "" "").mapError UnknownHost.failure, ⟨world, []⟩) := by
  rw [detect, if_pos other, Work.perform_ofExcept]

theorem composes_detect {C : ∀ α : Type, Work σ α → Prop} (h : Work.Composes C)
    (asking : ∀ flag, (nameQuery flag).AsksForName → C String (askName flag)) :
    C Platform (detect "unix") := by
  rw [detect_of_unix]
  exact h.bind (asking "-s" (.inl rfl)) fun _ =>
    h.bind (asking "-m" (.inr rfl)) fun _ => h.ofExcept _

end ReleaseBuilder.Platform
