/-
# Whose answers are recorded

Every call that work records was made on the host, and its result is the one that the host gave in
some world. So what is known of all results of a host is known of all that are recorded.
-/

import ReleaseBuilder.Proofs.Work.Keeping

namespace ReleaseBuilder

variable {σ α : Type}

/-- Something that happens on a host: an event, or a call with the result that the host gives in
some world. -/
inductive Host.Does (host : Host σ) : Occurrence → Prop
  | event (e : Event) : Does host (.event e)
  | ran (c : Command) (world : World σ) :
      Does host (.ran c (host.run c world).result (host.run c world).shown)
  | captured (c : Command) (world : World σ) : Does host (.captured c (host.capture c world).1)
  | piped (producer consumer : Command) (dest : Path) (world : World σ) :
      Does host (.piped producer consumer dest (host.pipe producer consumer dest world).result
        (host.pipe producer consumer dest world).shown)
  | located (program : String) (world : World σ) :
      Does host (.located program (host.locate program world))

theorem Host.Does.exists_of_captured {host : Host σ} {c : Command}
    {answer : Except Failure CapturedOutput} (h : host.Does (.captured c answer)) :
    ∃ world, (host.capture c world).1 = answer := by
  cases h with
  | captured _ world => exact ⟨world, rfl⟩

namespace Work

/-- Work records only what the host does. -/
def Truthful (host : Host σ) (work : Work σ α) : Prop :=
  work.Keeps host fun s => ∀ o ∈ s.record, host.Does o

variable {host : Host σ}

theorem Truthful.perform {work : Work σ α} (h : work.Truthful host) {world : World σ}
    {o : Occurrence} (member : o ∈ (work.perform host world).2.record) : host.Does o :=
  h { world } (fun _ none => nomatch none) o member

/-- It is enough that what is recorded behind the rest is one thing that the host does. -/
theorem truthful_of_within {work : Work σ α} (added : World σ → Occurrence)
    (record : ∀ s, (work.within host s).2.record = s.record ++ [added s.world])
    (does : ∀ world, host.Does (added world)) : work.Truthful host := by
  intro s before o member
  rw [record, List.mem_append, List.mem_singleton] at member
  rcases member with member | rfl
  · exact before o member
  · exact does s.world

theorem truthful_locate (program : String) : (locate program).Truthful host :=
  truthful_of_within _ (fun s => by rw [within_locate, Session.followedBy_record])
    fun world => .located program world

theorem truthful_capture (c : Command) : (capture c).Truthful host :=
  truthful_of_within _ (fun s => by rw [within_capture, Session.followedBy_record])
    fun world => .captured c world

/-- What is put together from truthful work is truthful. -/
theorem composes_truthful : Composes fun α (work : Work σ α) => work.Truthful host :=
  composes_keeps truthful_locate

end Work
end ReleaseBuilder
