/-
# What work leaves alone

The files that work sees change only by the commands that it calls, as far as it does not write
anything itself. So whatever is true of the files, and left alone by every command, is true
behind the work too, whether it succeeds or fails.
-/

import ReleaseBuilder.Proofs.Work.Keeping

namespace ReleaseBuilder

variable {σ α β : Type}

/-- Commands leave a property of the files alone, as far as they are not piped into a file. -/
structure Host.Leaves (host : Host σ) (P : FileSystem → Prop) : Prop where
  run : ∀ c world, P world.files → P (host.run c world).world.files
  capture : ∀ c world, P world.files → P (host.capture c world).2.files

namespace Work

/-- Work leaves a property of the files alone. -/
def Leaves (host : Host σ) (P : FileSystem → Prop) (work : Work σ α) : Prop :=
  ∀ s : Session σ, P s.world.files → P (work.within host s).2.world.files

variable {host : Host σ} {P : FileSystem → Prop}

theorem Leaves.perform {work : Work σ α} (h : work.Leaves host P) {world : World σ}
    (holds : P world.files) : P (work.perform host world).2.world.files :=
  h { world } holds

theorem leaves_pure (a : α) : (pure a : Work σ α).Leaves host P :=
  keeps_pure a

theorem leaves_locate (program : String) : (locate program).Leaves host P := by
  intro s holds
  rw [within_locate]
  exact holds

theorem leaves_run (h : host.Leaves P) (c : Command) : (run c).Leaves host P := by
  intro s holds
  rw [within_run]
  exact h.run c s.world holds

theorem leaves_capture (h : host.Leaves P) (c : Command) : (capture c).Leaves host P := by
  intro s holds
  rw [within_capture]
  exact h.capture c s.world holds

theorem Leaves.bind {first : Work σ α} {next : α → Work σ β} (hfirst : first.Leaves host P)
    (hnext : ∀ a, (next a).Leaves host P) : (first >>= next).Leaves host P :=
  Keeps.bind hfirst hnext

theorem Leaves.tryCatch {work : Work σ α} {handle : Failure → Work σ α}
    (hwork : work.Leaves host P) (hhandle : ∀ failure, (handle failure).Leaves host P) :
    (tryCatch work handle).Leaves host P :=
  Keeps.tryCatch hwork hhandle

/-- What is put together from work that leaves the property alone leaves it alone. -/
theorem composes_leaves : Composes fun α (work : Work σ α) => work.Leaves host P :=
  composes_keeps leaves_locate

end Work
end ReleaseBuilder
