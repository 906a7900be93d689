/-
# Which settings matter on which platform

Each step reads a few settings only, and which they are depends on the system. Two releases whose
settings agree on what a step reads do the same in that step, and so two releases whose settings
agree on what is relevant to the platform make the same run, whatever its outcome. The inherited
variables are read on Windows only.
-/

import ReleaseBuilder.Proofs.Release.Packaging

namespace ReleaseBuilder

variable {σ : Type}

/-- Two settings agree on what the work of a step reads. -/
def Settings.AgreeIn (system : OperatingSystem) (x : Step) (s t : Settings) : Prop :=
  match x, system with
  | .fetchSubmodules, _ => s.submoduleJobs = t.submoduleJobs
  | .selectToolchain, .mac => s.gnuCandidates = t.gnuCandidates
  | .selectToolchain, _ => True
  | .bootstrapEnvironment, _ => s.vswherePath = t.vswherePath ∧ s.vcvarsScript = t.vcvarsScript
  | .clean, _ | .finalClean, _ => True
  | .build, .windows =>
    s.solution = t.solution ∧ s.windowsConfiguration = t.windowsConfiguration
  | .build, _ => s.platformMode = t.platformMode
  | .package, .windows =>
    s.product = t.product ∧ s.windowsOutputDir = t.windowsOutputDir ∧
      s.windowsBinaries = t.windowsBinaries
  | .package, _ =>
    s.product = t.product ∧ s.unixOutputDir = t.unixOutputDir ∧ s.compressor = t.compressor

/-- Two settings agree on what is relevant to a release for a system, which fetches submodules or
does not. -/
structure Settings.AgreeOn (system : OperatingSystem) (fetching : Bool) (s t : Settings) :
    Prop where
  product : s.product = t.product
  versionFile : s.versionFile = t.versionFile
  versionMarker : s.versionMarker = t.versionMarker
  submoduleJobs : fetching = true → s.submoduleJobs = t.submoduleJobs
  unixOutputDir : system ≠ .windows → s.unixOutputDir = t.unixOutputDir
  compressor : system ≠ .windows → s.compressor = t.compressor
  platformMode : system ≠ .windows → s.platformMode = t.platformMode
  gnuCandidates : system = .mac → s.gnuCandidates = t.gnuCandidates
  solution : system = .windows → s.solution = t.solution
  windowsConfiguration : system = .windows → s.windowsConfiguration = t.windowsConfiguration
  windowsOutputDir : system = .windows → s.windowsOutputDir = t.windowsOutputDir
  windowsBinaries : system = .windows → s.windowsBinaries = t.windowsBinaries
  vswherePath : system = .windows → s.vswherePath = t.vswherePath
  vcvarsScript : system = .windows → s.vcvarsScript = t.vcvarsScript

namespace Release

variable {r : Release} {settings : Settings} {inherited : String → Option String}
  {platform : Platform} {version : String} {p : Progress}

/-- What is relevant to a release is all that its steps read. -/
theorem agreeIn_of_agreeOn {x : Step} (member : x ∈ r.sequence platform)
    (agree : r.settings.AgreeOn platform.system r.fetchSubmodules settings) :
    r.settings.AgreeIn platform.system x settings := by
  have wanted := mem_sequence_iff.mp member
  cases x with
  | fetchSubmodules => exact agree.submoduleJobs wanted
  | selectToolchain =>
    cases system : platform.system with
    | mac => exact agree.gnuCandidates system
    | linux | windows => trivial
  | bootstrapEnvironment => exact ⟨agree.vswherePath wanted, agree.vcvarsScript wanted⟩
  | clean | finalClean => trivial
  | build =>
    cases system : platform.system with
    | windows => exact ⟨agree.solution system, agree.windowsConfiguration system⟩
    | linux | mac => exact agree.platformMode (by rw [system]; decide)
  | package =>
    cases system : platform.system with
    | windows =>
      exact ⟨agree.product, agree.windowsOutputDir system, agree.windowsBinaries system⟩
    | linux | mac =>
      have unix : platform.system ≠ .windows := by rw [system]; decide
      exact ⟨agree.product, agree.unixOutputDir unix, agree.compressor unix⟩

/-! ## One step -/

theorem developer_congr {s t : Settings} (h : s.AgreeIn platform.system .bootstrapEnvironment t)
    (lookup : String → Option String) :
    (Variables.developer s lookup : Work σ Variables) = Variables.developer t lookup := by
  obtain ⟨vswherePath, vcvarsScript⟩ := h
  rw [Variables.developer_eq, Variables.developer_eq, Variables.installerOf, Variables.installerOf,
    vswherePath, vcvarsScript]

theorem select_congr {system : OperatingSystem} {s t : Settings}
    (h : s.AgreeIn system .selectToolchain t) :
    (Compilers.select system s.gnuCandidates : Work σ (Option Compilers)) =
      Compilers.select system t.gnuCandidates := by
  cases system with
  | mac =>
    have candidates : s.gnuCandidates = t.gnuCandidates := h
    rw [candidates]
  | linux | windows => rfl

theorem buildCommand_congr {env : Variables} {compilers : Option Compilers}
    (h : r.settings.AgreeIn platform.system .build settings) :
    (({ r with settings, inherited } : Release).buildFor platform env).buildCommand compilers =
      (r.buildFor platform env).buildCommand compilers := by
  cases system : platform.system with
  | windows =>
    rw [system] at h
    obtain ⟨solution, configuration⟩ := h
    simp [Build.buildCommand, buildFor, Build.solutionCommand, Build.command, system, solution,
      configuration]
  | linux | mac =>
    rw [system] at h
    have mode : r.settings.platformMode = settings.platformMode := h
    cases compilers <;>
      simp [Build.buildCommand, buildFor, Build.makeCommand, Build.command, Build.target, system,
        mode]

theorem package_congr (h : r.settings.AgreeIn platform.system .package settings) :
    (({ r with settings, inherited } : Release).package platform version : Work σ Path) =
      r.package platform version := by
  unfold package plan archivePath
  cases system : platform.system with
  | windows =>
    rw [system] at h
    obtain ⟨product, outputDir, binaries⟩ := h
    simp only [product, outputDir, binaries]
    rfl
  | linux | mac =>
    rw [system] at h
    obtain ⟨product, outputDir, compressor⟩ := h
    simp only [product, outputDir, compressor]

/-- Settings that agree on what a step reads do the same work in it. -/
theorem work_congr {x : Step} (h : r.settings.AgreeIn platform.system x settings)
    (same : x = .bootstrapEnvironment → inherited = r.inherited) :
    (({ r with settings, inherited } : Release).work platform version p x : Work σ Progress) =
      r.work platform version p x := by
  cases x with
  | fetchSubmodules =>
    have jobs : r.settings.submoduleJobs = settings.submoduleJobs := h
    simp [work_fetchSubmodules, Build.fetchCommand, Build.command, buildFor, jobs]
  | selectToolchain =>
    rw [work_selectToolchain, work_selectToolchain, select_congr h]
  | bootstrapEnvironment =>
    rw [work_bootstrapEnvironment, work_bootstrapEnvironment, developer_congr h, same rfl]
  | clean | finalClean => rfl
  | build =>
    rw [work_build, work_build, Build.build, Build.build, buildCommand_congr h]
  | package =>
    rw [work_package, work_package, package_congr h]

/-! ## A whole run -/

theorem take_congr {steps : List Step}
    (h : ∀ x ∈ steps, r.settings.AgreeIn platform.system x settings)
    (same : .bootstrapEnvironment ∈ steps → inherited = r.inherited) :
    (({ r with settings, inherited } : Release).take platform version steps p : Work σ Progress) =
      r.take platform version steps p := by
  induction steps generalizing p with
  | nil => rfl
  | cons x rest ih =>
    have first : (({ r with settings, inherited } : Release).work platform version p x :
        Work σ Progress) = r.work platform version p x :=
      work_congr (h x List.mem_cons_self) fun bootstrap => same (bootstrap ▸ List.mem_cons_self)
    rw [take, take, first]
    refine bind_congr fun p => ih ?_ ?_
    · exact fun y member => h y (List.mem_cons_of_mem x member)
    · exact fun member => same (List.mem_cons_of_mem x member)

/-- Settings that agree on the version's place and on all that the steps read make the same run. -/
theorem perform_run_of_agreeIn {host : Host σ} {world : World σ}
    (agree : ∀ platform, (r.findPlatform.perform host world).1 = .ok platform →
      r.settings.versionFile = settings.versionFile ∧
        r.settings.versionMarker = settings.versionMarker ∧
        ∀ x ∈ r.sequence platform, r.settings.AgreeIn platform.system x settings)
    (same : ∀ platform, (r.findPlatform.perform host world).1 = .ok platform →
      platform.system = .windows → inherited = r.inherited) :
    ({ r with settings, inherited } : Release).run.perform host world =
      r.run.perform host world := by
  have detects : (({ r with settings, inherited } : Release).findPlatform : Work σ Platform) =
      r.findPlatform := rfl
  rcases detection : r.findPlatform.perform host world with ⟨failure | platform, s⟩
  · rw [run_of_platformUnknown detection, run_of_platformUnknown (detects ▸ detection)]
  · rw [detection] at agree same
    obtain ⟨versionFile, versionMarker, agrees⟩ := agree platform rfl
    have versions : ∀ files, ({ r with settings, inherited } : Release).versionIn files =
        r.versionIn files := by
      intro files
      simp only [versionIn, versionFile, versionMarker]
    rcases resolution : r.versionIn s.world.files with failure | version
    · rw [run_of_versionMissing detection resolution,
        run_of_versionMissing (detects ▸ detection) ((versions _).trans resolution)]
    · have finds : r.Finds host world platform version s := ⟨detection, resolution⟩
      have finds' : ({ r with settings, inherited } : Release).Finds host world platform version
          s := ⟨detects ▸ detection, (versions _).trans resolution⟩
      have steps : ({ r with settings, inherited } : Release).sequence platform =
          r.sequence platform := rfl
      rw [finds.perform_run, finds'.perform_run, steps, take_congr agrees]
      exact fun member => same platform rfl (mem_sequence_iff.mp member)

end Release

/-- A run is the same under all settings that agree on what is relevant to its platform: it comes
to the same result, records the same and leaves the same behind. On linux and mac it is the same
whatever variables are inherited. -/
theorem perform_run_of_agreeOn {r : Release} {settings : Settings}
    {inherited : String → Option String} {host : Host σ} {world : World σ}
    (agree : ∀ platform, (r.findPlatform.perform host world).1 = .ok platform →
      r.settings.AgreeOn platform.system r.fetchSubmodules settings)
    (same : ∀ platform, (r.findPlatform.perform host world).1 = .ok platform →
      platform.system = .windows → inherited = r.inherited) :
    ({ r with settings, inherited } : Release).run.perform host world =
      r.run.perform host world := by
  refine Release.perform_run_of_agreeIn (fun platform found => ?_) same
  have agrees := agree platform found
  exact ⟨agrees.versionFile, agrees.versionMarker,
    fun x member => Release.agreeIn_of_agreeOn member agrees⟩

/-- A mac does not see the settings for Windows, nor the inherited variables. -/
theorem windows_settings_unseen_on_mac :
    let r : Release := { smallRelease with platform := some ⟨.mac, .arm64⟩ }
    let settings : Settings := { r.settings with
      submoduleJobs := 1
      solution := "other.sln"
      windowsConfiguration := "Debug|x64"
      windowsOutputDir := ⟨"debug"⟩
      windowsBinaries := []
      vswherePath := "%HERE%/vswhere.exe"
      vcvarsScript := ⟨"other.bat"⟩ }
    let inherited : String → Option String := fun _ => some "elsewhere"
    let world : World Script.Tally := ⟨sourcesWith "1.0.0", readyScript.freshTally⟩
    r.settings.AgreeOn .mac false settings ∧
      ({ r with settings, inherited } : Release).run.perform readyScript.host world =
        r.run.perform readyScript.host world ∧
      (r.run.perform readyScript.host world).1.toOption.isSome := by
  intro r settings inherited world
  have agree : r.settings.AgreeOn .mac false settings :=
    { product := rfl
      versionFile := rfl
      versionMarker := rfl
      submoduleJobs := nofun
      unixOutputDir := fun _ => rfl
      compressor := fun _ => rfl
      platformMode := fun _ => rfl
      gnuCandidates := fun _ => rfl
      solution := nofun
      windowsConfiguration := nofun
      windowsOutputDir := nofun
      windowsBinaries := nofun
      vswherePath := nofun
      vcvarsScript := nofun }
  refine ⟨agree, perform_run_of_agreeOn ?_ ?_, by decide +kernel⟩
  · rintro platform ⟨⟩
    exact agree
  · rintro platform ⟨⟩ ⟨⟩

end ReleaseBuilder
