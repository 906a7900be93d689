/-
# What work keeps

A property of sessions that holds when work begins may hold behind it too, whether the work
succeeds or fails. Work that is put together from pieces which keep a property keeps it, so such a
property is shown of each call on a host only.
-/

import ReleaseBuilder.Proofs.Work.Performance

namespace ReleaseBuilder.Work

variable {σ α β : Type}

/-- Behind the work a property of sessions holds, if it held before. -/
def Keeps (host : Host σ) (I : Session σ → Prop) (work : Work σ α) : Prop :=
  ∀ s : Session σ, I s → I (work.within host s).2

variable {host : Host σ} {I : Session σ → Prop}

theorem keeps_pure (a : α) : (pure a : Work σ α).Keeps host I :=
  fun _ holds => holds

theorem keeps_fail (failure : Failure) : (fail failure : Work σ α).Keeps host I :=
  fun _ holds => holds

theorem keeps_files : files.Keeps host I :=
  fun _ holds => holds

theorem Keeps.bind {first : Work σ α} {next : α → Work σ β} (hfirst : first.Keeps host I)
    (hnext : ∀ a, (next a).Keeps host I) : (first >>= next).Keeps host I := by
  intro s holds
  have between := hfirst s holds
  rw [within_bind]
  generalize first.within host s = outcome at between ⊢
  obtain ⟨failure | a, t⟩ := outcome
  · exact between
  · exact hnext a t between

theorem Keeps.tryCatch {work : Work σ α} {handle : Failure → Work σ α}
    (hwork : work.Keeps host I) (hhandle : ∀ failure, (handle failure).Keeps host I) :
    (tryCatch work handle).Keeps host I := by
  intro s holds
  have between := hwork s holds
  rw [within_tryCatch]
  generalize work.within host s = outcome at between ⊢
  obtain ⟨failure | a, t⟩ := outcome
  · exact hhandle failure t between
  · exact between

/-- What is put together from work that keeps a property keeps it. -/
theorem composes_keeps (locating : ∀ program, (locate program).Keeps host I) :
    Composes fun α (work : Work σ α) => work.Keeps host I where
  pure := keeps_pure
  fail := keeps_fail
  files := keeps_files
  locate := locating
  bind := Keeps.bind

end ReleaseBuilder.Work
