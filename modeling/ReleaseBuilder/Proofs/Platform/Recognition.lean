/-
# How a host is recognized

A detection asks for the name of the kernel and, if that is told, for the name of the machine. It
ends at the first of the two that is not told, and what two names come to is a matter of the names
alone: the blanks around them do not count, and a kernel that is not known is complained of before
a machine that is not.
-/

import ReleaseBuilder.Host.Scripted
import ReleaseBuilder.Proofs.Release.Detection
import ReleaseBuilder.Proofs.Text.Parts

namespace ReleaseBuilder.Platform

open Text

/-! ## Two names -/

/-- The names of kernels, and the systems they stand for. -/
inductive KernelName : String → OperatingSystem → Prop
  | linux : KernelName "Linux" .linux
  | darwin : KernelName "Darwin" .mac

/-- The names of machines, and the hardware they stand for. -/
inductive MachineName : String → Hardware → Prop
  | x86 : MachineName "x86_64" .x64
  | aarch : MachineName "aarch64" .arm64
  | arm : MachineName "arm64" .arm64

/-- What a host comes to whose kernel and machine have these names. -/
inductive Recognized (kernel machine : String) : Except Failure Platform → Prop
  | known {system : OperatingSystem} {hardware : Hardware} (kernelKnown : KernelName kernel system)
      (machineKnown : MachineName machine hardware) :
      Recognized kernel machine (.ok ⟨system, hardware⟩)
  | strangeKernel (strange : ∀ system, ¬ KernelName kernel system) :
      Recognized kernel machine (.error (.unsupportedPlatform ("unknown os " ++ kernel)))
  | strangeMachine {system : OperatingSystem} (kernelKnown : KernelName kernel system)
      (strange : ∀ hardware, ¬ MachineName machine hardware) :
      Recognized kernel machine (.error (.unsupportedPlatform ("unknown hardware " ++ machine)))

variable {kernel machine name : String}

theorem trim_of_bare (bare : Bare name.toList) : trim name = name := by
  have trimmed : Trimmed name.toList name.toList := ⟨⟨[], [], by simp, nofun, nofun⟩, bare⟩
  rw [trim, trimmed.eq, String.ofList_toList]

theorem KernelName.eq_or_eq {system : OperatingSystem} (h : KernelName kernel system) :
    kernel = "Linux" ∨ kernel = "Darwin" := by
  cases h with
  | linux => exact .inl rfl
  | darwin => exact .inr rfl

theorem KernelName.ofKernelName_eq {system : OperatingSystem} (h : KernelName kernel system) :
    OperatingSystem.ofKernelName kernel = .ok system := by
  cases h <;> rfl

theorem MachineName.ofMachineName_eq {hardware : Hardware} (h : MachineName machine hardware) :
    Hardware.ofMachineName machine = .ok hardware := by
  cases h <;> rfl

theorem ofKernelName_of_strange (bare : Bare kernel.toList)
    (strange : ∀ system, ¬ KernelName kernel system) :
    OperatingSystem.ofKernelName kernel = .error (.system kernel) := by
  have notLinux : kernel ≠ "Linux" := fun same => strange .linux (same ▸ .linux)
  have notDarwin : kernel ≠ "Darwin" := fun same => strange .mac (same ▸ .darwin)
  simp only [OperatingSystem.ofKernelName, trim_of_bare bare, if_neg notLinux, if_neg notDarwin]

theorem ofMachineName_of_strange (bare : Bare machine.toList)
    (strange : ∀ hardware, ¬ MachineName machine hardware) :
    Hardware.ofMachineName machine = .error (.hardware machine) := by
  have notX64 : machine ≠ "x86_64" := fun same => strange .x64 (same ▸ .x86)
  have notArm64 : ¬ (machine = "aarch64" ∨ machine = "arm64") := by
    rintro (same | same)
    · exact strange .arm64 (same ▸ .aarch)
    · exact strange .arm64 (same ▸ .arm)
  simp only [Hardware.ofMachineName, trim_of_bare bare, if_neg notX64, if_neg notArm64]

theorem classify_unix (kernel machine : String) :
    classify "unix" kernel machine =
      (OperatingSystem.ofKernelName kernel).bind fun system =>
        (Hardware.ofMachineName machine).bind fun hardware => .ok ⟨system, hardware⟩ :=
  rfl

theorem Recognized.classify_eq {result : Except Failure Platform} (kernelBare : Bare kernel.toList)
    (machineBare : Bare machine.toList) (h : Recognized kernel machine result) :
    (classify "unix" kernel machine).mapError UnknownHost.failure = result := by
  rw [classify_unix]
  cases h with
  | known kernelKnown machineKnown =>
    rw [kernelKnown.ofKernelName_eq, machineKnown.ofMachineName_eq]
    rfl
  | strangeKernel strange =>
    rw [ofKernelName_of_strange kernelBare strange]
    rfl
  | strangeMachine kernelKnown strange =>
    rw [kernelKnown.ofKernelName_eq, ofMachineName_of_strange machineBare strange]
    rfl

theorem exists_recognized (kernel machine : String) :
    ∃ result, Recognized kernel machine result := by
  by_cases kernelKnown : ∃ system, KernelName kernel system
  · obtain ⟨system, kernelKnown⟩ := kernelKnown
    by_cases machineKnown : ∃ hardware, MachineName machine hardware
    · obtain ⟨hardware, machineKnown⟩ := machineKnown
      exact ⟨_, .known kernelKnown machineKnown⟩
    · exact ⟨_, .strangeMachine kernelKnown (not_exists.mp machineKnown)⟩
  · exact ⟨_, .strangeKernel (not_exists.mp kernelKnown)⟩

theorem Recognized.ne_windows {platform : Platform}
    (h : Recognized kernel machine (.ok platform)) : platform.system ≠ .windows := by
  cases h with
  | known kernelKnown machineKnown => cases kernelKnown <;> nofun

/-! ## Two queries -/

section

variable {σ : Type} (host : Host σ)

/-- A query tells a name: it is answered, it reports success, and the answer is the name with blanks
around it. -/
structure TellsName (query : Command) (world : World σ) (output : CapturedOutput) (name : String)
    (after : World σ) : Prop where
  answered : host.capture query world = (.ok output, after)
  succeeded : output.success = true
  trimmed : Trimmed output.stdout.toList name.toList

/-- A host tells the names of its kernel and of its machine, asked in this order. -/
def TellsNames (world : World σ) (kernel machine : String) : Prop :=
  ∃ kernelOutput after machineOutput later,
    TellsName host (nameQuery "-s") world kernelOutput kernel after ∧
      TellsName host (nameQuery "-m") after machineOutput machine later

/-- How a detection goes on a host: what it comes to, which queries were made with which answers,
and the world they left. -/
inductive Detected (world : World σ) : Except Failure Platform → Session σ → Prop
  | kernelNotAsked {failure : Failure} {after : World σ}
      (refused : host.capture (nameQuery "-s") world = (.error failure, after)) :
      Detected world (.error failure) ⟨after, [.captured (nameQuery "-s") (.error failure)]⟩
  | kernelNotTold {output : CapturedOutput} {after : World σ}
      (answered : host.capture (nameQuery "-s") world = (.ok output, after))
      (failed : output.success = false) :
      Detected world (.error (.unsupportedPlatform "`uname -s` did not report a value"))
        ⟨after, [.captured (nameQuery "-s") (.ok output)]⟩
  | machineNotAsked {output : CapturedOutput} {kernel : String} {after later : World σ}
      {failure : Failure} (told : TellsName host (nameQuery "-s") world output kernel after)
      (refused : host.capture (nameQuery "-m") after = (.error failure, later)) :
      Detected world (.error failure)
        ⟨later, [.captured (nameQuery "-s") (.ok output),
          .captured (nameQuery "-m") (.error failure)]⟩
  | machineNotTold {output machineOutput : CapturedOutput} {kernel : String}
      {after later : World σ} (told : TellsName host (nameQuery "-s") world output kernel after)
      (answered : host.capture (nameQuery "-m") after = (.ok machineOutput, later))
      (failed : machineOutput.success = false) :
      Detected world (.error (.unsupportedPlatform "`uname -m` did not report a value"))
        ⟨later, [.captured (nameQuery "-s") (.ok output),
          .captured (nameQuery "-m") (.ok machineOutput)]⟩
  | told {output machineOutput : CapturedOutput} {kernel machine : String} {after later : World σ}
      {result : Except Failure Platform}
      (kernelTold : TellsName host (nameQuery "-s") world output kernel after)
      (machineTold : TellsName host (nameQuery "-m") after machineOutput machine later)
      (recognized : Recognized kernel machine result) :
      Detected world result
        ⟨later, [.captured (nameQuery "-s") (.ok output),
          .captured (nameQuery "-m") (.ok machineOutput)]⟩

variable {host} {world after : World σ} {output : CapturedOutput} {query : Command}

theorem nameIn_of_failed (failed : output.success = false) :
    nameIn query output = .error (UnknownHost.silent query.text).failure := by
  rw [nameIn, failed]
  rfl

theorem TellsName.nameIn_eq (h : TellsName host query world output name after) :
    nameIn query output = .ok name := by
  rw [nameIn, if_pos h.succeeded, trim, h.trimmed.eq, String.ofList_toList]

theorem exists_tellsName (answered : host.capture query world = (.ok output, after))
    (succeeded : output.success = true) : ∃ name, TellsName host query world output name after := by
  refine ⟨trim output.stdout, answered, succeeded, ?_⟩
  rw [trim, String.toList_ofList]
  exact trimmed_trimBoth output.stdout.toList

/-- What a detection comes to by the answers of the host. -/
theorem perform_detect (host : Host σ) (world : World σ) :
    (detect "unix").perform host world =
      match host.capture (nameQuery "-s") world with
      | (.error failure, after) =>
        (.error failure, ⟨after, [.captured (nameQuery "-s") (.error failure)]⟩)
      | (.ok output, after) =>
        match nameIn (nameQuery "-s") output with
        | .error failure => (.error failure, ⟨after, [.captured (nameQuery "-s") (.ok output)]⟩)
        | .ok kernel =>
          let answer := host.capture (nameQuery "-m") after
          ((answer.1.bind (nameIn (nameQuery "-m"))).bind fun machine =>
              (classify "unix" kernel machine).mapError UnknownHost.failure,
            ⟨answer.2, [.captured (nameQuery "-s") (.ok output),
              .captured (nameQuery "-m") answer.1]⟩) := by
  have adds : ∀ kernel, (askName "-m" >>= fun machine =>
      Work.ofExcept ((classify "unix" kernel machine).mapError UnknownHost.failure) :
      Work σ Platform).AddsToRecord := fun kernel =>
    (orderly_askName (.inr rfl)).adds.bind fun machine => Work.addsToRecord_ofExcept _
  rw [detect_of_unix, Work.perform_bind host world adds, perform_askName]
  rcases host.capture (nameQuery "-s") world with ⟨failure | output, after⟩
  · rfl
  · simp only [Except.bind]
    cases nameIn (nameQuery "-s") output with
    | error failure => rfl
    | ok kernel =>
      simp only [Work.perform_bind host after fun machine => Work.addsToRecord_ofExcept _,
        perform_askName, Work.perform_ofExcept]
      rcases host.capture (nameQuery "-m") after with ⟨failure | machineOutput, later⟩
      · rfl
      · simp only [Except.bind]
        cases nameIn (nameQuery "-m") machineOutput <;> rfl

theorem TellsName.perform_detect (h : TellsName host (nameQuery "-s") world output kernel after) :
    (detect "unix").perform host world =
      let answer := host.capture (nameQuery "-m") after
      ((answer.1.bind (nameIn (nameQuery "-m"))).bind fun machine =>
          (classify "unix" kernel machine).mapError UnknownHost.failure,
        ⟨answer.2, [.captured (nameQuery "-s") (.ok output),
          .captured (nameQuery "-m") answer.1]⟩) := by
  rw [Platform.perform_detect, h.answered]
  dsimp only
  rw [h.nameIn_eq]

theorem Detected.perform_eq {result : Except Failure Platform} {session : Session σ}
    (h : Detected host world result session) :
    (detect "unix").perform host world = (result, session) := by
  cases h with
  | kernelNotAsked refused => rw [perform_detect, refused]
  | kernelNotTold answered failed =>
    rw [perform_detect, answered]
    dsimp only
    rw [nameIn_of_failed failed]
    rfl
  | machineNotAsked told refused =>
    rw [told.perform_detect, refused]
    rfl
  | machineNotTold told answered failed =>
    rw [told.perform_detect, answered]
    dsimp only [Except.bind]
    rw [nameIn_of_failed failed]
    rfl
  | told kernelTold machineTold recognized =>
    rw [kernelTold.perform_detect, machineTold.answered]
    dsimp only [Except.bind]
    rw [machineTold.nameIn_eq]
    dsimp only
    rw [recognized.classify_eq kernelTold.trimmed.bare machineTold.trimmed.bare]

/-- Behind a kernel that is told a detection goes on in one of three ways. -/
theorem TellsName.exists_detected (h : TellsName host (nameQuery "-s") world output kernel after) :
    ∃ result session, Detected host world result session := by
  rcases answered : host.capture (nameQuery "-m") after with ⟨failure | machineOutput, later⟩
  · exact ⟨_, _, .machineNotAsked h answered⟩
  · cases reported : machineOutput.success with
    | false => exact ⟨_, _, .machineNotTold h answered reported⟩
    | true =>
      obtain ⟨machine, machineTold⟩ := exists_tellsName answered reported
      obtain ⟨result, recognized⟩ := exists_recognized kernel machine
      exact ⟨_, _, .told h machineTold recognized⟩

theorem exists_detected (host : Host σ) (world : World σ) :
    ∃ result session, Detected host world result session := by
  rcases answered : host.capture (nameQuery "-s") world with ⟨failure | output, after⟩
  · exact ⟨_, _, .kernelNotAsked answered⟩
  · cases reported : output.success with
    | false => exact ⟨_, _, .kernelNotTold answered reported⟩
    | true =>
      obtain ⟨kernel, kernelTold⟩ := exists_tellsName answered reported
      exact kernelTold.exists_detected

theorem perform_detect_iff {result : Except Failure Platform} {session : Session σ} :
    (detect "unix").perform host world = (result, session) ↔
      Detected host world result session := by
  refine ⟨fun performed => ?_, Detected.perform_eq⟩
  obtain ⟨other, others, goes⟩ := exists_detected host world
  rw [goes.perform_eq, Prod.mk.injEq] at performed
  obtain ⟨rfl, rfl⟩ := performed
  exact goes

theorem TellsNames.detect_eq_iff (h : TellsNames host world kernel machine)
    {result : Except Failure Platform} :
    ((detect "unix").perform host world).1 = result ↔ Recognized kernel machine result := by
  obtain ⟨kernelOutput, after, machineOutput, later, kernelTold, machineTold⟩ := h
  constructor
  · rintro rfl
    obtain ⟨result, recognized⟩ := exists_recognized kernel machine
    rwa [(Detected.told kernelTold machineTold recognized).perform_eq]
  · intro recognized
    rw [(Detected.told kernelTold machineTold recognized).perform_eq]

variable (host world)

/-- A detection goes as `Detected` says, on every host, and not otherwise. Where both names are
told, what it comes to depends on the names alone, so neither on the blanks around them nor on
anything else that the host does. No host is taken for a Windows host. -/
theorem detect_by_answers :
    (∀ result session, (detect "unix").perform host world = (result, session) ↔
      Detected host world result session) ∧
    (∀ kernel machine, TellsNames host world kernel machine →
      ∀ result,
        ((detect "unix").perform host world).1 = result ↔ Recognized kernel machine result) ∧
    ∀ platform,
      ((detect "unix").perform host world).1 = .ok platform → platform.system ≠ .windows := by
  refine ⟨fun result session => perform_detect_iff, fun kernel machine told result =>
    told.detect_eq_iff, fun platform detected => ?_⟩
  generalize performed : (detect "unix").perform host world = outcome at detected
  obtain ⟨result, session⟩ := outcome
  obtain rfl : result = .ok platform := detected
  cases perform_detect_iff.mp performed with
  | told kernelTold machineTold recognized => exact recognized.ne_windows

end

/-- A host that answers the two queries with these texts. -/
def namingScript (kernel machine : String) : Script where
  outputs := [("uname -s", some ⟨kernel, true⟩), ("uname -m", some ⟨machine, true⟩)]

/-- The blanks around the names are passed over, a no-break space too, and of two names that are
not known the one of the kernel is complained of. -/
theorem detect_of_padded_names :
    let known := (namingScript "\tDarwin\n" "arm64\u00a0\n").host
    let strange := (namingScript "FreeBSD\n" " riscv64\n").host
    let world : World Script.Tally := ⟨.empty, []⟩
    (TellsNames known world "Darwin" "arm64" ∧
      ((detect "unix").perform known world).1 = .ok ⟨.mac, .arm64⟩) ∧
    TellsNames strange world "FreeBSD" "riscv64" ∧
      ((detect "unix").perform strange world).1 =
        .error (.unsupportedPlatform "unknown os FreeBSD") := by
  intro known strange world
  have tellsKnown : TellsNames known world "Darwin" "arm64" :=
    ⟨_, _, _, _, ⟨rfl, rfl, trimmed_iff.mpr (by decide)⟩, rfl, rfl, trimmed_iff.mpr (by decide)⟩
  have tellsStrange : TellsNames strange world "FreeBSD" "riscv64" :=
    ⟨_, _, _, _, ⟨rfl, rfl, trimmed_iff.mpr (by decide)⟩, rfl, rfl, trimmed_iff.mpr (by decide)⟩
  have noKernel : ∀ system, ¬ KernelName "FreeBSD" system := fun system named =>
    absurd named.eq_or_eq (by decide)
  exact ⟨⟨tellsKnown, ((detect_by_answers known world).2.1 _ _ tellsKnown _).mpr
    (.known .darwin .arm)⟩, tellsStrange,
    ((detect_by_answers strange world).2.1 _ _ tellsStrange _).mpr (.strangeKernel noKernel)⟩

end ReleaseBuilder.Platform
