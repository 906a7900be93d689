/-
# Piping two processes into a file

Whether a pipe succeeds is decided by how its two processes start, are waited for and end, and the
first thing that goes wrong is told: a producer that is not started, then a consumer that is not,
then a process that was lost, and of two that ended the producer. Nothing is started if the file
cannot be created.

What the processes do to the file is up to them. If the consumer writes one piece behind the other,
and nobody gives the file another content in between, it holds what the consumer wrote, wherever it
stands when both have ended. What stands by then where it was created is taken away if the pipe did
not succeed.
-/

import Mathlib.Control.Monad.Basic
import ReleaseBuilder.Host.Processes
import ReleaseBuilder.Proofs.FileSystem.Finding
import ReleaseBuilder.Proofs.FileSystem.Holding

namespace ReleaseBuilder

namespace FileSystem

variable {fs : FileSystem} {p : Path} {outlet : Outlet}

/-- A path leads to the file that an outlet writes to. -/
def LeadsTo (fs : FileSystem) (p : Path) (outlet : Outlet) : Prop :=
  ∃ loc f, fs.find p = .ok (loc, .file f) ∧ outlet = .file f.number

/-- A path leads to the file that was created at it, whatever is written to it. -/
theorem leadsTo_of_create {number : Nat} {opened : FileSystem}
    (created : fs.create p = .ok (.file number, opened)) (content : Content) :
    (opened.pour (.file number) content).LeadsTo p (.file number) := by
  obtain ⟨before, opens, rfl⟩ := opens_of_create created
  obtain ⟨loc, access, found⟩ := opens.find content
  rw [pour_pour]
  exact ⟨loc, _, found, rfl⟩

end FileSystem

/-! ## What a course writes -/

namespace Course

variable {σ : Type}

/-- All that is written along a course whose output goes to an outlet. -/
def output (outlet : Outlet) : Course σ → ByteArray
  | .ended _ => .empty
  | .put reached offset octets goesOn =>
    octets ++ output outlet (goesOn (reached.overwrite outlet offset octets))

/-- Along a course whose output goes to the file of a number, each piece is written where the one
before it ended, and nobody gives the file another content in between. -/
inductive Undisturbed (number : Nat) : FileSystem → Nat → Course σ → Prop
  | ended {left : FileSystem} {size : Nat} {done : Connected σ}
      (keeps : FileSystem.Keeps number left done.world.files) :
      Undisturbed number left size (.ended done)
  | put {left : FileSystem} {size : Nat} {reached : World σ} {octets : ByteArray}
      {goesOn : World σ → Course σ} (keeps : FileSystem.Keeps number left reached.files)
      (rest : Undisturbed number (reached.overwrite (.file number) size octets).files
        (size + octets.size) (goesOn (reached.overwrite (.file number) size octets))) :
      Undisturbed number left size (.put reached size octets goesOn)

/-- A file that holds what was written so far holds all that is written when an undisturbed course
has come to its end. -/
theorem Undisturbed.holds {number : Nat} {left : FileSystem} {size : Nat} {course : Course σ}
    (h : Undisturbed number left size course) {written : ByteArray} (sized : written.size = size)
    (held : left.Holds number (.octets written)) :
    (course.follow (.file number)).world.files.Holds number
      (.octets (written ++ course.output (.file number))) := by
  induction h generalizing written with
  | ended keeps =>
    rw [output, ByteArray.append_empty]
    exact keeps _ held
  | @put left size reached octets goesOn keeps rest ih =>
    subst sized
    have longer := (keeps _ held).overwrite octets
    rw [output, ← ByteArray.append_assoc]
    exact ih ByteArray.size_append longer

end Course

namespace Processes

variable {σ : Type}

/-! ## How two processes end -/

/-- What is told of two connected processes that were waited for. -/
inductive Judged (producer consumer : Command) :
    Except Fault Ending → Except Fault Ending → Except Failure Unit → Prop
  | consumerLost {produced : Except Fault Ending} {fault : Fault} :
      Judged producer consumer produced (.error fault) (.error (.io fault))
  | producerLost {fault : Fault} {last : Ending} :
      Judged producer consumer (.error fault) (.ok last) (.error (.io fault))
  | producerFailed {first last : Ending} (failed : first ≠ .exited 0) :
      Judged producer consumer (.ok first) (.ok last)
        (.error (.commandFailed producer.text first.text))
  | consumerFailed {last : Ending} (failed : last ≠ .exited 0) :
      Judged producer consumer (.ok (.exited 0)) (.ok last)
        (.error (.commandFailed consumer.text last.text))
  | succeeded : Judged producer consumer (.ok (.exited 0)) (.ok (.exited 0)) (.ok ())

/-- How two processes go, one into the other and on to an outlet, and the world when they have
gone. -/
inductive Goes (p : Processes σ) (producer consumer : Command) (outlet : Outlet) (w : World σ) :
    Except Failure Unit → World σ → Prop
  /-- The producer is not started, and nothing is done. -/
  | unproduced {fault : Fault} (obstacle : p.obstacle? producer w = some fault) :
      Goes p producer consumer outlet w (.error (.commandSpawn producer.text fault)) w
  /-- The consumer is not started, and the producer is stopped. -/
  | unconsumed {fault : Fault} (starts : p.obstacle? producer w = none)
      (obstacle : p.obstacle? consumer (p.start producer w) = some fault) :
      Goes p producer consumer outlet w (.error (.commandSpawn consumer.text fault))
        (p.stop producer (p.start producer w))
  /-- Both are started and waited for. -/
  | connected {result : Except Failure Unit} {done : Connected σ}
      (starts : p.obstacle? producer w = none)
      (follows : p.obstacle? consumer (p.start producer w) = none)
      (connects : (p.connect producer consumer outlet (p.start producer w)).follow outlet = done)
      (judged : Judged producer consumer done.produced done.consumed result) :
      Goes p producer consumer outlet w result done.world

variable {producer consumer : Command} {produced consumed : Except Fault Ending}
  {result : Except Failure Unit}

theorem check_of_success (c : Command) : check c (.exited 0) = .ok () := rfl

theorem check_of_failure (c : Command) {ending : Ending} (failed : ending ≠ .exited 0) :
    check c ending = .error (.commandFailed c.text ending.text) := by
  rw [check, if_neg fun succeeded => failed (Ending.success_iff.mp succeeded)]

theorem judged_verdict (producer consumer : Command) (produced consumed : Except Fault Ending) :
    Judged producer consumer produced consumed (verdict producer consumer produced consumed) := by
  cases consumed with
  | error fault => exact .consumerLost
  | ok last =>
    cases produced with
    | error fault => exact .producerLost
    | ok first =>
      by_cases failed : first = .exited 0
      · subst failed
        by_cases lastFailed : last = .exited 0
        · subst lastFailed
          exact .succeeded
        · simp only [verdict, check_of_success, check_of_failure consumer lastFailed]
          exact .consumerFailed lastFailed
      · simp only [verdict, check_of_failure producer failed]
        exact .producerFailed failed

theorem Judged.eq_ok_iff (h : Judged producer consumer produced consumed result) :
    result = .ok () ↔ produced = .ok (.exited 0) ∧ consumed = .ok (.exited 0) := by
  cases h with
  | consumerLost | producerLost | succeeded => simp
  | producerFailed failed | consumerFailed failed => simp [failed]

/-! ## Joining -/

section

variable {p : Processes σ} {outlet : Outlet} {dest : Path} {w reached : World σ}
  {opened : FileSystem} {number : Nat}

theorem goes_join (p : Processes σ) (producer consumer : Command) (outlet : Outlet) (w : World σ) :
    Goes p producer consumer outlet w (p.join producer consumer outlet w).result
      (p.join producer consumer outlet w).world := by
  unfold join
  split
  · next obstacle => exact .unproduced obstacle
  · next starts =>
    dsimp only
    split
    · next obstacle => exact .unconsumed starts obstacle
    · next follows => exact .connected starts follows rfl (judged_verdict _ _ _ _)

/-- Two processes succeed if both of them start, are waited for, and exit with success. -/
theorem Goes.eq_ok_iff (h : Goes p producer consumer outlet w result reached) :
    let ended := (p.connect producer consumer outlet (p.start producer w)).follow outlet
    result = .ok () ↔
      p.obstacle? producer w = none ∧ p.obstacle? consumer (p.start producer w) = none ∧
      ended.produced = .ok (.exited 0) ∧ ended.consumed = .ok (.exited 0) := by
  intro ended
  cases h with
  | unproduced obstacle => simp [obstacle]
  | unconsumed starts obstacle => simp [obstacle]
  | connected starts follows connects judged =>
    rw [judged.eq_ok_iff, ← connects]
    simp [starts, follows, ended]

/-- Behind two processes that succeeded, the file of their outlet holds what the consumer wrote if
it was empty and nobody else wrote to it. -/
theorem Goes.holds_output (h : Goes p producer consumer (.file number) w (.ok ()) reached)
    (empty : w.files.Holds number .empty)
    (keeps : FileSystem.Keeps number w.files (p.start producer w).files)
    (undisturbed : (p.connect producer consumer (.file number) (p.start producer w)).Undisturbed
      number (p.start producer w).files 0) :
    let course := p.connect producer consumer (.file number) (p.start producer w)
    reached.files.Holds number (.octets (course.output (.file number))) := by
  cases h with
  | connected starts follows connects judged =>
    subst connects
    have held := undisturbed.holds ByteArray.size_empty (keeps _ empty)
    rwa [ByteArray.empty_append] at held

/-! ## Piping -/

theorem pipe_of_join_ok (created : w.files.create dest = .ok (outlet, opened))
    (joined : (p.join producer consumer outlet { w with files := opened }).result = .ok ()) :
    p.pipe producer consumer dest w =
      p.join producer consumer outlet { w with files := opened } := by
  rw [pipe, created]
  dsimp only
  rw [joined]

theorem pipe_of_join_error (created : w.files.create dest = .ok (outlet, opened))
    {failure : Failure}
    (joined : (p.join producer consumer outlet { w with files := opened }).result =
      .error failure) :
    let ran := p.join producer consumer outlet { w with files := opened }
    p.pipe producer consumer dest w =
      { ran with world := { ran.world with
          files := (ran.world.files.remove dest).toOption.getD ran.world.files } } := by
  rw [pipe, created]
  dsimp only
  rw [joined]

/-- A pipe whose file cannot be created starts nothing. Otherwise it goes as its processes go, and
succeeds if both of them start, are waited for, and exit with success. If the path then leads to
the file that was created, this holds what the consumer wrote, provided that the consumer wrote one
piece behind the other and nobody else wrote to it. If the pipe fails, and what the path names by
then can be removed, nothing is left at the path. -/
theorem pipe_by_outcomes (p : Processes σ) (producer consumer : Command) (dest : Path)
    (w : World σ) :
    let ran := p.pipe producer consumer dest w
    (∀ fault, w.files.create dest = .error fault →
      ran = { result := .error (.io fault), world := w }) ∧
    ∀ outlet opened, w.files.create dest = .ok (outlet, opened) →
      let before : World σ := { w with files := opened }
      let begun := p.start producer before
      let course := p.connect producer consumer outlet begun
      let ended := course.follow outlet
      (ran.result = .ok () ↔
        p.obstacle? producer before = none ∧ p.obstacle? consumer begun = none ∧
        ended.produced = .ok (.exited 0) ∧ ended.consumed = .ok (.exited 0)) ∧
      ∃ reached, Goes p producer consumer outlet before ran.result reached ∧
        ran.world.state = reached.state ∧
        (∀ number, outlet = .file number → FileSystem.Keeps number opened begun.files →
          course.Undisturbed number begun.files 0 → reached.files.LeadsTo dest outlet →
          ran.result = .ok () →
          ∃ loc f, ran.world.files.find dest = .ok (loc, .file f) ∧
            f.content = .octets (course.output outlet)) ∧
        (reached.files.Removable dest → ∀ failure, ran.result = .error failure →
          ran.world.files.Absent dest) := by
  intro ran
  constructor
  · intro fault uncreated
    simp only [ran, pipe, uncreated]
  · intro outlet opened created before begun course ended
    have goes := goes_join p producer consumer outlet before
    cases joined : (p.join producer consumer outlet before).result with
    | ok =>
      have same : ran = _ := pipe_of_join_ok created joined
      rw [← same] at goes
      refine ⟨goes.eq_ok_iff, ran.world, goes, rfl, ?_, ?_⟩
      · rintro number rfl keeps undisturbed ⟨loc, f, found, isFile⟩ succeeded
        rw [succeeded] at goes
        cases isFile
        have empty : opened.Holds f.number .empty := FileSystem.holds_of_create created
        exact ⟨loc, f, found, (goes.holds_output empty keeps undisturbed).content_eq found⟩
      · intro _ failure failed
        rw [same, joined] at failed
        cases failed
    | error failure =>
      have same : ran = _ := pipe_of_join_error created joined
      rw [same]
      refine ⟨goes.eq_ok_iff, _, goes, rfl, ?_, ?_⟩
      · intro _ _ _ _ _ succeeded
        cases joined.symm.trans succeeded
      · rintro ⟨cleared, removed⟩ _ _
        dsimp only
        rw [removed]
        exact FileSystem.absent_of_remove removed

end

/-! Two processes may do to the file what they like. -/

/-- Processes that change the files in some way before the second one writes, and in some way
afterwards. It ends with success. -/
def changing (change later : FileSystem → FileSystem) (first : Ending) : Processes Unit where
  obstacle? _ _ := none
  finish _ _ w := { ending := .ok (.exited 0), output := .empty, errors := .empty, world := w }
  start _ w := w
  stop _ w := w
  connect _ _ _ w :=
    .put { w with files := change w.files } 0 (Text.encode "done") fun w =>
      .ended
        { produced := .ok first
          consumed := .ok (.exited 0)
          errors := .empty
          world := { w with files := later w.files } }
  locate _ _ := none

/-- A directory to work in, and a device. -/
def workplace : World Unit where
  files := {
    nodes := [
      (["dev"], .directory ⟨0o755, .system⟩),
      (["dev", "null"], .device .null),
      (["work"], .directory ⟨0o755, .user⟩)]
    cwd := ["work"] }
  state := ()

theorem exists_created : ∃ opened, workplace.files.create ⟨"out"⟩ = .ok (.file 0, opened) :=
  FileSystem.exists_create_iff.mpr (by decide +kernel)

theorem removable_of_created {outlet : Outlet} {opened : FileSystem}
    (created : workplace.files.create ⟨"out"⟩ = .ok (outlet, opened)) :
    opened.Removable ⟨"out"⟩ :=
  have removable : ∀ outlet opened, workplace.files.create ⟨"out"⟩ = .ok (outlet, opened) →
      opened.Removable ⟨"out"⟩ :=
    FileSystem.forall_create_iff.mpr (by decide +kernel)
  removable outlet opened created

theorem files_of_goes_changing {change later : FileSystem → FileSystem} {first : Ending}
    {outlet : Outlet} {w reached : World Unit}
    (h : Goes (changing change later first) producer consumer outlet w result reached) :
    reached.files = later ((change w.files).overwrite outlet 0 (Text.encode "done")) := by
  cases h with
  | unproduced obstacle => cases obstacle
  | unconsumed starts obstacle => cases obstacle
  | connected starts follows connects judged =>
    cases connects
    rfl

/-- What is piped with success is at the path that it was piped to, and nothing is there otherwise,
when the processes leave the files alone. -/
theorem pipe_leaving_files :
    let pipe (first : Ending) :=
      (changing id id first).pipe { program := "a" } { program := "b" } ⟨"out"⟩ workplace
    (∃ loc f, (pipe (.exited 0)).world.files.find ⟨"out"⟩ = .ok (loc, .file f) ∧
      f.content = .ofText "done") ∧
    (pipe (.exited 1)).result = .error (.commandFailed "a" "exit status: 1") ∧
    (pipe (.exited 1)).world.files.Absent ⟨"out"⟩ := by
  intro pipe
  obtain ⟨opened, created⟩ := exists_created
  refine ⟨?_, rfl, ?_⟩
  · obtain ⟨-, reached, goes, -, holds, -⟩ := (pipe_by_outcomes (changing id id (.exited 0))
      { program := "a" } { program := "b" } ⟨"out"⟩ workplace).2 _ opened created
    refine holds 0 rfl (.refl 0 _) (.put (.refl 0 _) (.ended (.refl 0 _))) ?_ rfl
    rw [files_of_goes_changing goes]
    exact FileSystem.leadsTo_of_create created _
  · obtain ⟨-, reached, goes, -, -, absent⟩ := (pipe_by_outcomes (changing id id (.exited 1))
      { program := "a" } { program := "b" } ⟨"out"⟩ workplace).2 _ opened created
    refine absent ?_ _ rfl
    rw [files_of_goes_changing goes]
    exact (removable_of_created created).of_extends (FileSystem.extends_pour (.file 0) _)

/-- A consumer that removes the file leaves none behind a pipe that succeeded, and behind a pipe
that failed a directory stays that a producer made in its place. What somebody appends to the file
stays behind what the consumer wrote to its output. What is piped into a device is gone. -/
theorem dest_changed_by_processes :
    let removed (fs : FileSystem) := (fs.remove ⟨"out"⟩).toOption.getD fs
    let replaced (fs : FileSystem) := ((removed fs).makeDirectory ⟨"out"⟩).toOption.getD fs
    let extended (fs : FileSystem) := fs.overwrite (.file 0) 4 (Text.encode "XXXX")
    let pipe (change later : FileSystem → FileSystem) (first : Ending) (dest : Path) :=
      (changing change later first).pipe { program := "a" } { program := "b" } dest workplace
    (∀ change later first outlet w,
      ((changing change later first).connect { program := "a" } { program := "b" } outlet w).output
        outlet = Text.encode "done") ∧
    (∃ opened, workplace.files.create ⟨"out"⟩ = .ok (.file 0, opened) ∧
      opened.Removable ⟨"out"⟩) ∧
    ((pipe removed id (.exited 0) ⟨"out"⟩).result = .ok () ∧
      (pipe removed id (.exited 0) ⟨"out"⟩).world.files.Absent ⟨"out"⟩) ∧
    ((pipe replaced id (.exited 1) ⟨"out"⟩).result = .error (.commandFailed "a" "exit status: 1") ∧
      ¬ (pipe replaced id (.exited 1) ⟨"out"⟩).world.files.Absent ⟨"out"⟩) ∧
    ((pipe id extended (.exited 0) ⟨"out"⟩).result = .ok () ∧
      (pipe id extended (.exited 0) ⟨"out"⟩).world.files.readText ⟨"out"⟩ = .ok "doneXXXX") ∧
    (pipe id id (.exited 0) ⟨"/dev/null"⟩).result = .ok () ∧
      (pipe id id (.exited 0) ⟨"/dev/null"⟩).world.files.isFile ⟨"/dev/null"⟩ = false := by
  intro removed replaced extended pipe
  obtain ⟨opened, created⟩ := exists_created
  exact ⟨fun _ _ _ _ _ => ByteArray.append_empty, ⟨opened, created, removable_of_created created⟩,
    ⟨rfl, by decide +kernel⟩, ⟨rfl, by decide +kernel⟩, ⟨rfl, by decide +kernel⟩, rfl,
    by decide +kernel⟩

end Processes

end ReleaseBuilder
