/-
# What setting up the developer environment does

The installer is asked first, and where it names an installation the script there is run.
Nothing is called if there is no installer, and nothing behind a call that failed.
-/

import ReleaseBuilder.Proofs.Work.Orderly
import ReleaseBuilder.Variables.Developer

namespace ReleaseBuilder.Variables

variable {σ : Type}

/-- The installer that settings name, with the inherited variables put in. -/
def installerOf (settings : Settings) (lookup : String → Option String) : Path :=
  .ofText (expand settings.vswherePath lookup)

/-- The installation that an answer of the installer names. -/
def installationIn (output : CapturedOutput) : Except Failure Path :=
  if (Text.trimEnd output.stdout).isEmpty then .error NoEnvironment.noInstallation.failure
  else .ok (.ofText (Text.trimEnd output.stdout))

/-- The variables that a script printed. -/
def variablesIn (script : Path) (output : CapturedOutput) : Except Failure Variables :=
  if (parse output.stdout).isEmpty then .error (NoEnvironment.nothingPrinted script).failure
  else .ok (parse output.stdout)

/-- Running a script and reading what it prints. -/
def readScript (script : Path) : Work σ Variables :=
  Work.capture (environmentScript script) >>= fun output =>
    Work.ofExcept (variablesIn script output)

theorem installation_eq (installer : Path) :
    (installation installer : Work σ Path) =
      Work.capture (installationQuery installer) >>= fun output =>
        Work.ofExcept (installationIn output) := by
  unfold installation installationIn
  refine bind_congr fun output => ?_
  split
  · next blank =>
    rw [if_pos blank]
    rfl
  · next named =>
    rw [if_neg named]
    rfl

theorem developer_eq (settings : Settings) (lookup : String → Option String) :
    (developer settings lookup : Work σ Variables) =
      Work.files >>= fun files =>
        if files.pathExists (installerOf settings lookup) then
          installation (installerOf settings lookup) >>= fun dir =>
            readScript (dir.join settings.vcvarsScript)
        else Work.fail (NoEnvironment.noInstaller (installerOf settings lookup)).failure := by
  unfold developer installerOf
  refine bind_congr fun files => ?_
  split
  · refine bind_congr fun dir => bind_congr fun output => ?_
    unfold variablesIn
    split
    · next blank =>
      rw [if_pos blank]
      rfl
    · next named =>
      rw [if_neg named]
      rfl
  · rfl

/-- Asking the installer is one captured command. -/
@[simp] theorem perform_installation (host : Host σ) (world : World σ) (installer : Path) :
    (installation installer).perform host world =
      ((host.capture (installationQuery installer) world).1.bind installationIn,
        ⟨(host.capture (installationQuery installer) world).2,
          [.captured (installationQuery installer)
            (host.capture (installationQuery installer) world).1]⟩) := by
  rw [installation_eq, Work.perform_capture_bind_ofExcept]

section

variable {C : ∀ α : Type, Work σ α → Prop}

theorem composes_readScript (h : Work.Composes C)
    (capturing : ∀ c : Command, ¬ c.AsksForName → C CapturedOutput (Work.capture c))
    (script : Path) : C Variables (readScript script) := by
  refine h.bind (capturing _ ?_) fun output => h.ofExcept _
  simp [Command.AsksForName, environmentScript, Platform.nameQuery]

theorem composes_developer (h : Work.Composes C)
    (capturing : ∀ c : Command, ¬ c.AsksForName → C CapturedOutput (Work.capture c))
    (settings : Settings) (lookup : String → Option String) :
    C Variables (developer settings lookup) := by
  rw [developer_eq]
  refine h.bind h.files fun files => ?_
  split
  · refine h.bind ?_ fun dir => composes_readScript h capturing _
    rw [installation_eq]
    refine h.bind (capturing _ ?_) fun output => h.ofExcept _
    simp [Command.AsksForName, installationQuery, Platform.nameQuery]
  · exact h.fail _

end

theorem orderly_readScript (script : Path) : (readScript script : Work σ Variables).Orderly :=
  composes_readScript Work.composes_orderly (fun _ => Work.orderly_capture) script

/-- What setting up comes to by the answers of the host. -/
theorem perform_developer (host : Host σ) (world : World σ) (settings : Settings)
    (lookup : String → Option String) :
    (developer settings lookup).perform host world =
      let installer := installerOf settings lookup
      if world.files.pathExists installer then
        match host.capture (installationQuery installer) world with
        | (.error failure, after) =>
          (.error failure, ⟨after, [.captured (installationQuery installer) (.error failure)]⟩)
        | (.ok output, after) =>
          match installationIn output with
          | .error failure =>
            (.error failure, ⟨after, [.captured (installationQuery installer) (.ok output)]⟩)
          | .ok dir =>
            let script := dir.join settings.vcvarsScript
            let answer := host.capture (environmentScript script) after
            (answer.1.bind (variablesIn script),
              ⟨answer.2, [.captured (installationQuery installer) (.ok output),
                .captured (environmentScript script) answer.1]⟩)
      else (.error (NoEnvironment.noInstaller installer).failure, ⟨world, []⟩) := by
  rw [developer_eq, Work.perform_eq_within, Work.within_bind, Work.within_files]
  dsimp only
  rw [← Work.perform_eq_within]
  split
  · rw [Work.perform_bind host world fun dir => (orderly_readScript _).adds, perform_installation]
    rcases host.capture (installationQuery (installerOf settings lookup)) world with
      ⟨failure | output, after⟩
    · rfl
    · simp only [Except.bind]
      cases installationIn output with
      | error failure => rfl
      | ok dir =>
        dsimp only
        rw [readScript, Work.perform_capture_bind_ofExcept]
        rfl
  · rfl

/-- What setting up the developer environment records, and what it comes to. -/
inductive Prepared (settings : Settings) (lookup : String → Option String) :
    List Occurrence → Except Failure Variables → Prop
  | noInstaller :
      Prepared settings lookup []
        (.error (NoEnvironment.noInstaller (installerOf settings lookup)).failure)
  | noInstallation (answer : Except Failure CapturedOutput) (failure : Failure)
      (unnamed : answer.bind installationIn = .error failure) :
      Prepared settings lookup
        [.captured (installationQuery (installerOf settings lookup)) answer] (.error failure)
  | ran (named : CapturedOutput) (dir : Path) (answer : Except Failure CapturedOutput)
      (installed : installationIn named = .ok dir) :
      Prepared settings lookup
        [.captured (installationQuery (installerOf settings lookup)) (.ok named),
          .captured (environmentScript (dir.join settings.vcvarsScript)) answer]
        (answer.bind (variablesIn (dir.join settings.vcvarsScript)))

/-- Setting up the developer environment goes as `Prepared` says. -/
theorem prepared_of_developer (host : Host σ) (world : World σ) (settings : Settings)
    (lookup : String → Option String) :
    Prepared settings lookup ((developer settings lookup).perform host world).2.record
      ((developer settings lookup).perform host world).1 := by
  rw [perform_developer]
  dsimp only
  split
  · rcases host.capture (installationQuery (installerOf settings lookup)) world with
      ⟨failure | output, after⟩
    · exact .noInstallation (.error failure) failure rfl
    · dsimp only
      cases installed : installationIn output with
      | error failure => exact .noInstallation (.ok output) failure installed
      | ok dir => exact .ran output dir _ installed
  · exact .noInstaller

/-- Setting up the developer environment only captures what commands print. -/
theorem Prepared.captures {settings : Settings} {lookup : String → Option String}
    {record : List Occurrence} {result : Except Failure Variables}
    (h : Prepared settings lookup record result) :
    ∀ o ∈ record, ∃ c answer, o = .captured c answer := by
  cases h <;> simp

end ReleaseBuilder.Variables
