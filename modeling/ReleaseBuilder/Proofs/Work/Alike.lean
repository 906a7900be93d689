/-
# Work in worlds that are alike

A host may keep something in its state that its answers do not depend on. Two worlds that differ in
nothing else are alike, and a host that cannot tell them apart goes on from both in the same way. So
does work: from alike sessions it comes to the same result and to alike sessions again. This is shown
of each call, and then of all that is put together from calls.
-/

import Mathlib.Data.List.Forall2
import ReleaseBuilder.Proofs.Work.Performance

namespace ReleaseBuilder

variable {σ α β : Type}

/-- Two worlds have the same files, and states that are related. -/
structure World.Alike (R : σ → σ → Prop) (w w' : World σ) : Prop where
  files : w.files = w'.files
  state : R w.state w'.state

/-- A host does not tell alike worlds apart. What its commands show on the terminal does not
count. -/
structure Host.Blind (host : Host σ) (R : σ → σ → Prop) : Prop where
  run : ∀ c w w', w.Alike R w' →
    (host.run c w).result = (host.run c w').result ∧
      (host.run c w).world.Alike R (host.run c w').world
  capture : ∀ c w w', w.Alike R w' →
    (host.capture c w).1 = (host.capture c w').1 ∧
      (host.capture c w).2.Alike R (host.capture c w').2
  pipe : ∀ producer consumer dest w w', w.Alike R w' →
    (host.pipe producer consumer dest w).result = (host.pipe producer consumer dest w').result ∧
      (host.pipe producer consumer dest w).world.Alike R (host.pipe producer consumer dest w').world
  locate : ∀ program w w', w.Alike R w' → host.locate program w = host.locate program w'

/-- No host tells equal worlds apart. -/
theorem Host.blind_eq (host : Host σ) : host.Blind Eq := by
  have equal : ∀ {w w' : World σ}, w.Alike Eq w' → w = w' := by
    rintro ⟨files, state⟩ ⟨_, _⟩ ⟨rfl, rfl⟩
    rfl
  constructor
  · intro c w w' alike
    rw [equal alike]
    exact ⟨rfl, rfl, rfl⟩
  · intro c w w' alike
    rw [equal alike]
    exact ⟨rfl, rfl, rfl⟩
  · intro producer consumer dest w w' alike
    rw [equal alike]
    exact ⟨rfl, rfl, rfl⟩
  · intro program w w' alike
    rw [equal alike]

theorem World.Alike.refl {R : σ → σ → Prop} (h : ∀ state, R state state) (w : World σ) :
    w.Alike R w :=
  ⟨rfl, h w.state⟩

/-- Two states of a host are not told apart: with the same files every call gives the same, now and
ever after. -/
def Host.Indistinct (host : Host σ) (state state' : σ) : Prop :=
  ∃ R, host.Blind R ∧ R state state'

theorem Host.Indistinct.refl (host : Host σ) (state : σ) : host.Indistinct state state :=
  ⟨Eq, host.blind_eq, rfl⟩

/-- A host that does not tell states apart in two ways does not tell them apart by going the one
way and then the other. -/
theorem Host.Blind.comp {host : Host σ} {R S : σ → σ → Prop} (hR : host.Blind R)
    (hS : host.Blind S) : host.Blind fun a c => ∃ b, R a b ∧ S b c := by
  have between : ∀ {w w' : World σ}, (w.Alike (fun a c => ∃ b, R a b ∧ S b c) w') →
      ∃ mid : World σ, w.Alike R mid ∧ mid.Alike S w' := by
    rintro w w' ⟨files, state, left, right⟩
    exact ⟨⟨w.files, state⟩, ⟨rfl, left⟩, ⟨files, right⟩⟩
  have join : ∀ {w mid w' : World σ}, w.Alike R mid → mid.Alike S w' →
      w.Alike (fun a c => ∃ b, R a b ∧ S b c) w' := fun left right =>
    ⟨left.files.trans right.files, _, left.state, right.state⟩
  constructor
  · intro c w w' alike
    obtain ⟨mid, left, right⟩ := between alike
    obtain ⟨result, world⟩ := hR.run c w mid left
    obtain ⟨result', world'⟩ := hS.run c mid w' right
    exact ⟨result.trans result', join world world'⟩
  · intro c w w' alike
    obtain ⟨mid, left, right⟩ := between alike
    obtain ⟨result, world⟩ := hR.capture c w mid left
    obtain ⟨result', world'⟩ := hS.capture c mid w' right
    exact ⟨result.trans result', join world world'⟩
  · intro producer consumer dest w w' alike
    obtain ⟨mid, left, right⟩ := between alike
    obtain ⟨result, world⟩ := hR.pipe producer consumer dest w mid left
    obtain ⟨result', world'⟩ := hS.pipe producer consumer dest mid w' right
    exact ⟨result.trans result', join world world'⟩
  · intro program w w' alike
    obtain ⟨mid, left, right⟩ := between alike
    exact (hR.locate program w mid left).trans (hS.locate program mid w' right)

theorem Host.Indistinct.trans {host : Host σ} {a b c : σ} (left : host.Indistinct a b)
    (right : host.Indistinct b c) : host.Indistinct a c := by
  obtain ⟨R, hR, hab⟩ := left
  obtain ⟨S, hS, hbc⟩ := right
  exact ⟨_, hR.comp hS, b, hab, hbc⟩

/-- No host tells indistinct states apart. -/
theorem Host.blind_indistinct (host : Host σ) : host.Blind host.Indistinct := by
  have within : ∀ {w w' : World σ}, w.Alike host.Indistinct w' →
      ∃ R, host.Blind R ∧ w.Alike R w' ∧
        ∀ {v v' : World σ}, v.Alike R v' → v.Alike host.Indistinct v' := by
    rintro w w' ⟨files, R, blind, related⟩
    exact ⟨R, blind, ⟨files, related⟩, fun alike => ⟨alike.files, R, blind, alike.state⟩⟩
  constructor
  · intro c w w' alike
    obtain ⟨R, blind, alike, weaken⟩ := within alike
    exact (blind.run c w w' alike).imp_right weaken
  · intro c w w' alike
    obtain ⟨R, blind, alike, weaken⟩ := within alike
    exact (blind.capture c w w' alike).imp_right weaken
  · intro producer consumer dest w w' alike
    obtain ⟨R, blind, alike, weaken⟩ := within alike
    exact (blind.pipe producer consumer dest w w' alike).imp_right weaken
  · intro program w w' alike
    obtain ⟨R, blind, alike, -⟩ := within alike
    exact blind.locate program w w' alike

/-- The same happened twice, but for what was shown on the terminal. -/
inductive Occurrence.Alike : Occurrence → Occurrence → Prop
  | event (e : Event) : Alike (.event e) (.event e)
  | ran (c : Command) (result : Except Failure Unit) (shown shown' : Shown) :
      Alike (.ran c result shown) (.ran c result shown')
  | captured (c : Command) (answer : Except Failure CapturedOutput) :
      Alike (.captured c answer) (.captured c answer)
  | piped (producer consumer : Command) (dest : Path) (result : Except Failure Unit)
      (shown shown' : Shown) :
      Alike (.piped producer consumer dest result shown) (.piped producer consumer dest result shown')
  | located (program : String) (found : Option Path) :
      Alike (.located program found) (.located program found)

theorem Occurrence.Alike.refl : (o : Occurrence) → o.Alike o
  | .event e => .event e
  | .ran c result shown => .ran c result shown shown
  | .captured c answer => .captured c answer
  | .piped producer consumer dest result shown => .piped producer consumer dest result shown shown
  | .located program found => .located program found

section Records

variable {record record' : List Occurrence}

theorem eventsOf_eq_of_alike (h : List.Forall₂ Occurrence.Alike record record') :
    eventsOf record = eventsOf record' := by
  induction h with
  | nil => rfl
  | @cons o o' rest rest' first _ ih =>
    have event : o.event? = o'.event? := by cases first <;> rfl
    rw [eventsOf, List.filterMap_cons, event, ← eventsOf, ih]
    rfl

theorem commandLog_eq_of_alike (h : List.Forall₂ Occurrence.Alike record record') :
    commandLog record = commandLog record' := by
  induction h with
  | nil => rfl
  | @cons o o' rest rest' first _ ih =>
    have invocations : o.invocations = o'.invocations := by cases first <;> rfl
    rw [commandLog, List.flatMap_cons, invocations, ← commandLog, ih]
    rfl

end Records

/-- Two sessions are in alike worlds, and the same happened in both. -/
structure Session.Alike (R : σ → σ → Prop) (s s' : Session σ) : Prop where
  world : s.world.Alike R s'.world
  record : List.Forall₂ Occurrence.Alike s.record s'.record

theorem Session.Alike.followedBy {R : σ → σ → Prop} {s s' t t' : Session σ} (before : s.Alike R s')
    (behind : t.Alike R t') : (s.followedBy t).Alike R (s'.followedBy t') :=
  ⟨behind.world, List.rel_append before.record behind.record⟩

namespace Work

/-- From alike sessions the work comes to the same result and to alike sessions. -/
def Oblivious (host : Host σ) (R : σ → σ → Prop) (work : Work σ α) : Prop :=
  ∀ s s' : Session σ, s.Alike R s' →
    (work.within host s).1 = (work.within host s').1 ∧
      (work.within host s).2.Alike R (work.within host s').2

variable {host : Host σ} {R : σ → σ → Prop}

theorem Oblivious.perform {work : Work σ α} (h : work.Oblivious host R) {w w' : World σ}
    (alike : w.Alike R w') :
    (work.perform host w).1 = (work.perform host w').1 ∧
      (work.perform host w).2.Alike R (work.perform host w').2 :=
  h { world := w } { world := w' } ⟨alike, .nil⟩

theorem oblivious_pure (a : α) : (pure a : Work σ α).Oblivious host R :=
  fun _ _ alike => ⟨rfl, alike⟩

theorem oblivious_fail (failure : Failure) : (fail failure : Work σ α).Oblivious host R :=
  fun _ _ alike => ⟨rfl, alike⟩

theorem oblivious_files : files.Oblivious host R := by
  intro s s' alike
  rw [within_files, within_files, alike.world.files]
  exact ⟨rfl, alike⟩

theorem oblivious_emit (e : Event) : (emit e).Oblivious host R := by
  intro s s' alike
  rw [within_emit, within_emit]
  exact ⟨rfl, alike.followedBy ⟨alike.world, .cons (.event e) .nil⟩⟩

theorem oblivious_run (blind : host.Blind R) (c : Command) : (run c).Oblivious host R := by
  intro s s' alike
  obtain ⟨result, world⟩ := blind.run c _ _ alike.world
  rw [within_run, within_run, ← result]
  exact ⟨rfl, alike.followedBy ⟨world, .cons (.ran c _ _ _) .nil⟩⟩

theorem oblivious_capture (blind : host.Blind R) (c : Command) : (capture c).Oblivious host R := by
  intro s s' alike
  obtain ⟨result, world⟩ := blind.capture c _ _ alike.world
  rw [within_capture, within_capture, ← result]
  exact ⟨rfl, alike.followedBy ⟨world, .cons (.captured c _) .nil⟩⟩

theorem oblivious_pipe (blind : host.Blind R) (producer consumer : Command) (dest : Path) :
    (pipe producer consumer dest).Oblivious host R := by
  intro s s' alike
  obtain ⟨result, world⟩ := blind.pipe producer consumer dest _ _ alike.world
  rw [within_pipe, within_pipe, ← result]
  exact ⟨rfl, alike.followedBy ⟨world, .cons (.piped producer consumer dest _ _ _) .nil⟩⟩

theorem oblivious_locate (blind : host.Blind R) (program : String) :
    (locate program).Oblivious host R := by
  intro s s' alike
  rw [within_locate, within_locate, blind.locate program _ _ alike.world]
  exact ⟨rfl, alike.followedBy ⟨alike.world, .cons (.located program _) .nil⟩⟩

theorem oblivious_onFiles (change : FileSystem → Except Failure α × FileSystem) :
    (onFiles change : Work σ α).Oblivious host R := by
  intro s s' alike
  rw [within_onFiles, within_onFiles, alike.world.files]
  exact ⟨rfl, alike.followedBy ⟨⟨rfl, alike.world.state⟩, .nil⟩⟩

theorem Oblivious.bind {first : Work σ α} {next : α → Work σ β} (hfirst : first.Oblivious host R)
    (hnext : ∀ a, (next a).Oblivious host R) : (first >>= next).Oblivious host R := by
  intro s s' alike
  obtain ⟨result, between⟩ := hfirst s s' alike
  rw [within_bind, within_bind]
  generalize first.within host s = outcome at result between ⊢
  generalize first.within host s' = outcome' at result between ⊢
  obtain ⟨failure | a, t⟩ := outcome
  · obtain ⟨_, t'⟩ := outcome'
    cases result
    exact ⟨rfl, between⟩
  · obtain ⟨_, t'⟩ := outcome'
    cases result
    exact hnext a t t' between

theorem Oblivious.tryCatch {work : Work σ α} {handle : Failure → Work σ α}
    (hwork : work.Oblivious host R) (hhandle : ∀ failure, (handle failure).Oblivious host R) :
    (tryCatch work handle).Oblivious host R := by
  intro s s' alike
  obtain ⟨result, between⟩ := hwork s s' alike
  rw [within_tryCatch, within_tryCatch]
  generalize work.within host s = outcome at result between ⊢
  generalize work.within host s' = outcome' at result between ⊢
  obtain ⟨failure | a, t⟩ := outcome
  · obtain ⟨_, t'⟩ := outcome'
    cases result
    exact hhandle failure t t' between
  · obtain ⟨_, t'⟩ := outcome'
    cases result
    exact ⟨rfl, between⟩

theorem Oblivious.step {work : Work σ α} (h : work.Oblivious host R) (x : Step) :
    (step x work).Oblivious host R :=
  (oblivious_emit _).bind fun _ => h.bind fun a =>
    (oblivious_emit _).bind fun _ => oblivious_pure a

/-- What is put together from oblivious work is oblivious. -/
theorem composes_oblivious (blind : host.Blind R) :
    Composes fun α (work : Work σ α) => work.Oblivious host R where
  pure := oblivious_pure
  fail := oblivious_fail
  files := oblivious_files
  locate := oblivious_locate blind
  bind := Oblivious.bind

end Work
end ReleaseBuilder
