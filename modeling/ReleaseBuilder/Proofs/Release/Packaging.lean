/-
# Packaging what the build left

What is packed is decided by the files as the build left them. On linux and mac the visible names
of the output directory are piped through `tar` and the compressor into the archive, and on Windows
the named binaries are written into it without another command. What should be packed and is not
there ends the run before anything is written or started.
-/

import ReleaseBuilder.Proofs.Archive.Collecting
import ReleaseBuilder.Proofs.Archive.Entries
import ReleaseBuilder.Proofs.Release.Building
import ReleaseBuilder.Proofs.Release.Remains

namespace ReleaseBuilder

variable {σ : Type}

section

variable {r : Release} {host : Host σ} {world here : World σ} {platform : Platform}
  {version : String} {record : List Occurrence}

/-- What the commands leave alone is behind the build as it was at first. -/
theorem Release.Built.holds {P : FileSystem → Prop}
    (built : r.Built host world platform version here record) (h : host.Leaves P)
    (holds : P world.files) : P here.files := by
  obtain @⟨s, p, _, steps, finds, reached⟩ := built
  have found : P s.world.files := by
    have behind := (leaves_findPlatform (r := r) h).perform holds
    rwa [finds.platform] at behind
  have unpacked : .package ∉ r.opening platform ++ [.build] := by
    obtain ⟨system, hardware⟩ := platform
    cases system <;> cases fetching : r.fetchSubmodules <;> simp [opening, fetching]
  exact reached.holds h found unpacked

/-- A platform that is given is the platform of the run, and the version is that of the sources as
they are at first. -/
theorem Release.Built.of_given {given : Platform}
    (built : r.Built host world platform version here record) (h : r.platform = some given) :
    platform = given ∧ r.versionIn world.files = .ok version := by
  obtain @⟨s, p, _, steps, finds, reached⟩ := built
  have known := finds.platform
  rw [findPlatform, h, Work.perform_pure, Prod.mk.injEq] at known
  obtain ⟨same, rfl⟩ := known
  exact ⟨(Except.ok.inj same).symm, finds.version⟩

/-- A plan that fails ends the run, and leaves the files as the build left them. -/
theorem Release.Built.run_of_plan_error
    (built : r.Built host world platform version here record) {failure : Failure}
    (fails : r.plan here.files platform version = .error failure) :
    r.run.perform host world =
      (.error failure, ⟨here, record ++ [.event (.stepStarted .package)]⟩) := by
  refine built.run_of_package_error (s := ⟨here, []⟩) ?_
  rw [perform_package, fails]

theorem Release.plan_of_ne_windows (unix : platform.system ≠ .windows) (r : Release)
    (files : FileSystem) (version : String) :
    r.plan files platform version =
      Archive.Plan.ofDirectory files (r.archivePath platform version)
        (r.root.join r.settings.unixOutputDir) := by
  obtain ⟨system, hardware⟩ := platform
  cases system with
  | windows => exact absurd rfl unix
  | linux | mac => rfl

theorem Release.plan_of_windows (windows : platform.system = .windows) (r : Release)
    (files : FileSystem) (version : String) :
    r.plan files platform version =
      Archive.Plan.ofFiles files (r.archivePath platform version)
        (r.root.join r.settings.windowsOutputDir) r.settings.windowsBinaries := by
  obtain ⟨system, hardware⟩ := platform
  cases windows
  rfl

/-! ## A directory -/

/-- On linux and mac a readable directory with something visible in it is piped through `tar` and
the compressor into the archive, under what its visible entries show as, one for each, in the order
of their octets. These are the names of the entries exactly if all of those are texts; then none
comes twice. A directory that is missing, or is none, or shows nothing, ends the run: it is the
missing artifact, and nothing is started or changed behind the build. -/
theorem packaging_of_directory (built : r.Built host world platform version here record)
    (unix : platform.system ≠ .windows) :
    let outcome := r.run.perform host world
    let dir := r.root.join r.settings.unixOutputDir
    let Visible := fun (loc : Location) (entry : String) =>
      (here.files.get? (loc ++ [entry])).isSome ∧ entry.toList.head? ≠ some '.'
    let Spelled := fun (loc : Location) =>
      ∀ entry, Visible loc entry → ∃ name, entry = Text.narrow name
    (∀ loc access, here.files.find dir = .ok (loc, .directory access) → access.allows .read →
      (∃ entry, Visible loc entry) →
      ∃ entries names result shown,
        entries.Nodup ∧ (∀ entry, entry ∈ entries ↔ Visible loc entry) ∧
        names = entries.map Text.widen ∧
        names.Pairwise (fun a b => Text.octets a ≤ Text.octets b) ∧
        (names.map Text.narrow = entries ↔ Spelled loc) ∧
        (Spelled loc → names.Pairwise (fun a b => Text.octets a < Text.octets b)) ∧
        record ++ [.event (.stepStarted .package),
            .piped { program := "tar", args := "-c" :: names, dir := some dir }
              { program := r.settings.compressor } (r.archivePath platform version) result
              shown] <+: outcome.2.record) ∧
      ((∀ loc access, here.files.find dir ≠ .ok (loc, .directory access)) ∨
        (∃ loc access, here.files.find dir = .ok (loc, .directory access) ∧
          access.allows .read ∧ ∀ entry, ¬ Visible loc entry) →
        outcome = (.error (.missingArtifact dir),
          ⟨here, record ++ [.event (.stepStarted .package)]⟩)) := by
  intro outcome dir Visible Spelled
  have visible_iff : ∀ loc entry, Visible loc entry ↔
      entry ∈ here.files.namesIn loc ∧ Archive.isVisible entry := by
    intro loc entry
    rw [FileSystem.mem_namesIn, Archive.isVisible_iff]
  have spelled_iff : ∀ loc, Spelled loc ↔ Archive.Spelled (here.files.namesIn loc) := by
    intro loc
    simp only [Spelled, Archive.Spelled, visible_iff, and_imp]
  have planned := Release.plan_of_ne_windows unix r here.files version
  constructor
  · intro loc access found readable some_visible
    have different := here.files.nodup_namesIn loc
    have visible : Archive.visibleMembers dir (here.files.namesIn loc) ≠ [] := by
      obtain ⟨entry, isVisible⟩ := some_visible
      exact Archive.visibleMembers_ne_nil_iff.mpr ⟨entry, (visible_iff loc entry).mp isVisible⟩
    rw [Archive.ofDirectory_of_find found readable, if_neg visible] at planned
    obtain ⟨result, shown, piped⟩ :=
      Archive.record_of_packing_by_commands unix r.settings.compressor _ host here
    refine ⟨_, _, result, shown, Archive.nodup_visibleEntries different, fun entry => ?_, rfl,
      Archive.ascending_visibleNames _, ?_, fun spelled => ?_, ?_⟩
    · rw [Archive.mem_visibleEntries, visible_iff]
    · rw [spelled_iff]
      exact Archive.map_narrow_visibleNames_iff
    · exact Archive.pairwise_visibleNames different ((spelled_iff loc).mp spelled)
    · have packed := built.record_prefix
      rw [Release.perform_package, planned] at packed
      dsimp only at packed
      rwa [piped, Archive.names_visibleMembers] at packed
  · intro nothing
    refine built.run_of_plan_error (planned.trans ?_)
    rcases nothing with missing | ⟨loc, access, found, readable, none_visible⟩
    · exact Archive.ofDirectory_of_not_directory missing _
    · rw [Archive.ofDirectory_of_find found readable, if_pos]
      by_contra visible
      obtain ⟨entry, isVisible⟩ := Archive.visibleMembers_ne_nil_iff.mp visible
      exact none_visible entry ((visible_iff loc entry).mpr isVisible)

/-- Sources and one file that is built from them. Its name is the octet `FF` alone, which is no
text. -/
def sourcesWithIllegible : FileSystem where
  nodes := [
    (["src"], .directory ⟨0o755, .user⟩),
    (["src", "version"], .file ⟨0, .ofText "V \"1.0.0\"", ⟨0o644, .user⟩⟩),
    (["src", "bin"], .directory ⟨0o755, .user⟩),
    (["src", "bin", "\u00ff"], .file ⟨1, .empty, ⟨0o755, .user⟩⟩)]
  next := 2
  cwd := ["src"]

/-- The file is asked for under a name that no entry of the directory has. -/
theorem packaging_of_illegible_name :
    let world : World Script.Tally := ⟨sourcesWithIllegible, readyScript.freshTally⟩
    ∃ version here record result shown,
      linuxRelease.Built readyScript.host world ⟨.linux, .x64⟩ version here record ∧
      here.files.namesIn ["src", "bin"] = ["\u00ff"] ∧
      record ++ [.event (.stepStarted .package),
          .piped { program := "tar", args := ["-c", "\uFFFD"], dir := some (.ofText "bin") }
            { program := "pigz" } (linuxRelease.archivePath ⟨.linux, .x64⟩ version) result
            shown] <+:
        (linuxRelease.run.perform readyScript.host world).2.record ∧
      Text.narrow "\uFFFD" ∉ here.files.namesIn ["src", "bin"] := by
  intro world
  have told : .stepFinished .build ∈
      eventsOf (linuxRelease.run.perform readyScript.host world).2.record := by
    decide +kernel
  obtain ⟨platform, version, here, record, built⟩ := Release.exists_built_iff.mpr told
  obtain ⟨rfl, -⟩ := built.of_given rfl
  have files : here.files = sourcesWithIllegible :=
    built.holds (Script.leaves_host rfl (· = sourcesWithIllegible)) rfl
  have dir : linuxRelease.root.join linuxRelease.settings.unixOutputDir = .ofText "bin" := by
    decide +kernel
  have inDirectory : here.files.namesIn ["src", "bin"] = ["\u00ff"] := by
    rw [files]
    decide
  have found : here.files.find (linuxRelease.root.join linuxRelease.settings.unixOutputDir) =
      .ok (["src", "bin"], .directory ⟨0o755, .user⟩) := by
    have plain : Path.ofText "bin" = ⟨"bin"⟩ := by decide +kernel
    rw [files, dir, plain]
    rfl
  have visible : (here.files.get? (["src", "bin"] ++ ["\u00ff"])).isSome ∧
      "\u00ff".toList.head? ≠ some '.' := by
    rw [files]
    decide
  obtain ⟨entries, names, result, shown, different, members, rfl, -, -, -, piped⟩ :=
    (packaging_of_directory built (by decide)).1 _ _ found (by decide) ⟨"\u00ff", visible⟩
  have only : entries = ["\u00ff"] := by
    refine List.perm_singleton.mp ((List.perm_ext_iff_of_nodup different (by decide)).mpr ?_)
    intro entry
    rw [members, List.mem_singleton]
    constructor
    · rintro ⟨there, -⟩
      rwa [← FileSystem.mem_namesIn, inDirectory, List.mem_singleton] at there
    · rintro rfl
      exact visible
  have shows : Text.widen "\u00ff" = "\uFFFD" := by decide +kernel
  rw [only, dir, List.map_singleton, shows] at piped
  refine ⟨version, here, record, result, shown, built, inDirectory, piped, ?_⟩
  rw [inDirectory]
  decide +kernel

/-! ## Named files -/

/-- On Windows the first named binary that is no regular file is the missing artifact, and nothing
is started or changed behind the build. If all of them are files that can be packed, and the archive
can be created as a file, the run succeeds without another command, and the archive that it reports
holds one entry for each name, in the order of the names. -/
theorem packaging_of_named_files (built : r.Built host world platform version here record)
    (windows : platform.system = .windows) :
    let outcome := r.run.perform host world
    let dir := r.root.join r.settings.windowsOutputDir
    let archive := r.archivePath platform version
    (∀ before name after, r.settings.windowsBinaries = before ++ name :: after →
      (∀ earlier ∈ before, here.files.isFile (dir.join (.ofText earlier))) →
      ¬ here.files.isFile (dir.join (.ofText name)) →
      outcome = (.error (.missingArtifact (dir.join (.ofText name))),
        ⟨here, record ++ [.event (.stepStarted .package)]⟩)) ∧
      ∀ number opened, here.files.create archive = .ok (.file number, opened) →
        (∀ name ∈ r.settings.windowsBinaries, Archive.Packable here.files dir number name) →
        ∃ report behind loc access entries,
          outcome = (.ok report, ⟨⟨behind, here.state⟩,
            record ++ [.event (.stepStarted .package), .event (.stepFinished .package)]⟩) ∧
          report.archive = archive ∧
          behind.find archive = .ok (loc, .file ⟨number, .tarball entries, access⟩) ∧
          List.Forall₂ (Archive.HoldsFile here.files dir) r.settings.windowsBinaries entries := by
  intro outcome dir archive
  have planned := Release.plan_of_windows windows r here.files version
  constructor
  · intro before name after split earlier missing
    refine built.run_of_plan_error (planned.trans ?_)
    rw [split, Archive.Plan.ofFiles, Archive.membersOf_of_missing earlier missing]
  · intro number opened created packable
    rw [Archive.Plan.ofFiles, Archive.membersOf_of_isFile fun name member =>
      (packable name member).isFile] at planned
    obtain ⟨entries, behind, loc, access, written, found, holds⟩ :=
      Archive.write_of_packable created packable
    have packs : (r.package platform version).perform host here =
        (.ok archive, ⟨⟨behind, here.state⟩, []⟩) := by
      rw [Release.perform_package, planned]
      dsimp only
      rw [windows, Release.packing_directly, Work.perform_map, Work.perform_onFiles, written]
      rfl
    obtain ⟨report, reported, ran⟩ := built.run_of_package windows packs
    exact ⟨report, behind, loc, access, entries, ran, reported, found, holds⟩

/-- A release for Windows. -/
def windowsRelease : Release where
  root := ⟨""⟩
  settings := {
    versionFile := ⟨"version"⟩
    versionMarker := "V"
    windowsOutputDir := ⟨"out"⟩
    windowsBinaries := ["bkc.exe", "dump.exe"]
    vswherePath := "vswhere.exe" }
  fetchSubmodules := false
  platform := some ⟨.windows, .x64⟩
  jobsFlag := "-j1"

/-- What a build for Windows leaves, with a mode for the second binary. -/
def windowsOutputs (mode : Nat) : FileSystem where
  nodes := [
    (["src"], .directory ⟨0o755, .user⟩),
    (["src", "version"], .file ⟨0, .ofText "V \"1.0.0\"", ⟨0o644, .user⟩⟩),
    (["src", "vswhere.exe"], .file ⟨1, .empty, ⟨0o755, .user⟩⟩),
    (["src", "out"], .directory ⟨0o755, .user⟩),
    (["src", "out", "bkc.exe"], .file ⟨2, .ofText "counter", ⟨0o755, .user⟩⟩),
    (["src", "out", "dump.exe"], .file ⟨3, .ofText "dumper", ⟨mode, .user⟩⟩)]
  next := 4
  cwd := ["src"]

/-- Both binaries are packed. -/
theorem packaging_of_two_binaries :
    let files := windowsOutputs 0o755
    let world : World Script.Tally := ⟨files, readyScript.freshTally⟩
    let outcome := windowsRelease.run.perform readyScript.host world
    ∃ here record report loc number entries access,
      windowsRelease.Built readyScript.host world ⟨.windows, .x64⟩ "1.0.0" here record ∧
      outcome.1 = .ok report ∧
      outcome.2.world.files.find report.archive =
        .ok (loc, .file ⟨number, .tarball entries, access⟩) ∧
      List.Forall₂ (Archive.HoldsFile files ⟨"out"⟩) ["bkc.exe", "dump.exe"] entries := by
  intro files world outcome
  have told : .stepFinished .build ∈ eventsOf outcome.2.record := by decide +kernel
  obtain ⟨platform, version, here, record, built⟩ := Release.exists_built_iff.mpr told
  obtain ⟨rfl, versioned⟩ := built.of_given rfl
  obtain rfl : version = "1.0.0" := by
    have first : (windowsRelease.versionIn files).toOption = some "1.0.0" := by decide +kernel
    rw [versioned] at first
    exact Option.some.inj first
  have unchanged : here.files = files := built.holds (Script.leaves_host rfl (· = files)) rfl
  have outlet :
      (files.create (windowsRelease.archivePath ⟨.windows, .x64⟩ "1.0.0")).toOption.map Prod.fst =
        some (.file 4) := by
    decide +kernel
  have packable : ∀ name ∈ windowsRelease.settings.windowsBinaries,
      Archive.Packable files ⟨"out"⟩ 4 name := by
    decide +kernel
  cases creation : files.create (windowsRelease.archivePath ⟨.windows, .x64⟩ "1.0.0") with
  | error fault =>
    rw [creation] at outlet
    cases outlet
  | ok pair =>
    obtain ⟨opens, opened⟩ := pair
    rw [creation] at outlet
    obtain rfl : opens = .file 4 := Option.some.inj outlet
    rw [← unchanged] at creation packable
    obtain ⟨report, behind, loc, access, entries, ran, reported, found, holds⟩ :=
      (packaging_of_named_files built rfl).2 4 opened creation packable
    refine ⟨here, record, report, loc, 4, entries, access, built, ?_, ?_, ?_⟩
    · exact congrArg Prod.fst ran
    · rw [show outcome = _ from ran, reported]
      exact found
    · rwa [unchanged] at holds

/-- Both names are those of regular files beside the archive, which can be created, and after a
build that succeeded the run fails all the same: the second file may not be read. -/
theorem packaging_of_unreadable_binary :
    let files := windowsOutputs 0o200
    let outcome := windowsRelease.run.perform readyScript.host ⟨files, readyScript.freshTally⟩
    let dir := windowsRelease.root.join windowsRelease.settings.windowsOutputDir
    let archive := windowsRelease.archivePath ⟨.windows, .x64⟩ "1.0.0"
    .stepFinished .build ∈ eventsOf outcome.2.record ∧
      (readyScript.host.Leaves fun left => left = files) ∧
      (∀ name ∈ windowsRelease.settings.windowsBinaries,
        files.isFile (dir.join (.ofText name)) ∧ dir.join (.ofText name) ≠ archive ∧
          (Tarball.storedName? name).isSome) ∧
      files.Absent archive ∧ (files.create archive).toOption.isSome ∧
      outcome.1 = .error (.io (.system .denied)) := by
  intro files outcome dir archive
  have told : .stepFinished .build ∈ eventsOf outcome.2.record := by decide +kernel
  have named : ∀ name ∈ windowsRelease.settings.windowsBinaries,
      files.isFile (dir.join (.ofText name)) ∧ dir.join (.ofText name) ≠ archive ∧
        (Tarball.storedName? name).isSome := by
    decide +kernel
  have absent : files.Absent archive := by decide +kernel
  have created : (files.create archive).toOption.isSome := by decide +kernel
  have failed : outcome.1 = .error (.io (.system .denied)) := by decide +kernel
  exact ⟨told, Script.leaves_host rfl _, named, absent, created, failed⟩

end

end ReleaseBuilder
