/-
# How a developer environment is set up

Setting up asks the installer, runs the script that its answer leads to, and reads what that
prints. It ends at the first of these that does not go through, and there is one way for it to go
on every host. What counts of an answer is its text alone: whether a command reports success is
never looked at.
-/

import ReleaseBuilder.Host.Scripted
import ReleaseBuilder.Proofs.FileSystem.Reading
import ReleaseBuilder.Proofs.Text.Parts
import ReleaseBuilder.Proofs.Variables.Developer
import ReleaseBuilder.Proofs.Variables.Table

namespace ReleaseBuilder

/-- The host on which the same is printed, and captured commands report success as they are told
to. -/
def Host.reporting {σ : Type} (host : Host σ) (report : Command → Bool) : Host σ :=
  { host with
    capture := fun c world =>
      ((host.capture c world).1.map fun output => { output with success := report c },
        (host.capture c world).2) }

namespace Variables

open Text

/-! ## Tables without variables -/

/-- No line of a text sets a variable. -/
def SetsNothing (table : String) : Prop :=
  ∀ lines, Lines table.toList lines → ∀ line ∈ lines, ∀ name value, ¬ Sets line name value

theorem isEmpty_eq_false_iff {v : Variables} :
    v.isEmpty = false ↔ ∃ name value, v.get? name = some value := by
  rw [isEmpty, List.isEmpty_eq_false_iff_exists_mem, Prod.exists]
  simp only [mem_entries_iff]

theorem exists_get?_parse_iff {table : String} {lines : List (List Char)}
    (falls : Lines table.toList lines) :
    (∃ name value, (parse table).get? name = some value) ↔
      ∃ line ∈ lines, ∃ name value, Sets line name value := by
  simp only [get?_parse falls]
  constructor
  · rintro ⟨name, value, before, line, behind, rfl, set, -⟩
    exact ⟨line, by simp, name, value, set⟩
  · rintro ⟨line, member, name, value, set⟩
    -- Some line sets the name, so there is a last one that does.
    have assigned : (name, value) ∈ lines.filterMap ofLine? :=
      List.mem_filterMap.mpr ⟨line, member, ofLine?_eq_some_iff.mpr set⟩
    have told : (Command.assigned? (lines.filterMap ofLine?) name).isSome := by
      rw [Command.assigned?, List.lookup_isSome_iff]
      exact ⟨_, List.mem_reverse.mpr assigned, BEq.refl _⟩
    obtain ⟨last, lastTold⟩ := Option.isSome_iff_exists.mp told
    exact ⟨name, last, assigned?_filterMap_ofLine?.mp lastTold⟩

/-- A text prints an empty table exactly if none of its lines sets a variable. -/
theorem isEmpty_parse_iff {table : String} : (parse table).isEmpty ↔ SetsNothing table := by
  have falls := lines_linesOf table.toList
  rw [← Bool.not_eq_false, isEmpty_eq_false_iff, exists_get?_parse_iff falls, SetsNothing]
  constructor
  · intro none_sets lines falls' line member name value set
    rw [← lines_iff.mp falls'] at member
    exact none_sets ⟨line, member, name, value, set⟩
  · rintro none_sets ⟨line, member, name, value, set⟩
    exact none_sets _ falls line member name value set

/-! ## Setting up -/

/-- The installer is asked where the latest installation is. -/
def askingWhere (installer : Path) : Command :=
  { program := installer.shown, args := ["-latest", "-property", "installationPath"] }

/-- A script is run, and the variables are printed that it leaves. -/
def printingAfter (script : Path) : Command :=
  { program := "cmd", args := ["/C", "call", script.shown, "&&", "set"] }

theorem installationQuery_eq : installationQuery = askingWhere := rfl

theorem environmentScript_eq : environmentScript = printingAfter := rfl

/-- The script that settings name in an installation. -/
def scriptIn (settings : Settings) (dir : String) : Path :=
  (Path.ofText dir).join settings.vcvarsScript

section

variable {σ : Type} (host : Host σ) (world : World σ) (settings : Settings)
  (lookup : String → Option String)

/-- The installer names an installation: it is there, links followed, it answers where the latest
one is, and the answer is not blank. The blanks behind the answer do not belong to the name. -/
structure Names (output : CapturedOutput) (dir : String) (after : World σ) : Prop where
  found : ∃ loc node, world.files.find (installerOf settings lookup) = .ok (loc, node)
  answered : host.capture (askingWhere (installerOf settings lookup)) world = (.ok output, after)
  trimmed : TrimmedBack output.stdout.toList dir.toList
  filled : dir ≠ ""

/-- How setting up a developer environment goes on a host: what it comes to, which commands were
called with which answers, and the world they left. -/
inductive SetsUp : Except Failure Variables → Session σ → Prop
  | noInstaller
      (missing : ∀ loc node, world.files.find (installerOf settings lookup) ≠ .ok (loc, node)) :
      SetsUp
        (.error (.environmentSetup
          ("vswhere.exe not found at: " ++ (installerOf settings lookup).shown)))
        ⟨world, []⟩
  | notAsked {loc : Location} {node : Node} {failure : Failure} {after : World σ}
      (found : world.files.find (installerOf settings lookup) = .ok (loc, node))
      (refused : host.capture (askingWhere (installerOf settings lookup)) world =
        (.error failure, after)) :
      SetsUp (.error failure)
        ⟨after, [.captured (askingWhere (installerOf settings lookup)) (.error failure)]⟩
  | noInstallation {loc : Location} {node : Node} {output : CapturedOutput} {after : World σ}
      (found : world.files.find (installerOf settings lookup) = .ok (loc, node))
      (answered : host.capture (askingWhere (installerOf settings lookup)) world =
        (.ok output, after))
      (blank : TrimmedBack output.stdout.toList []) :
      SetsUp (.error (.environmentSetup "vswhere.exe found no Visual Studio installation"))
        ⟨after, [.captured (askingWhere (installerOf settings lookup)) (.ok output)]⟩
  | notRun {output : CapturedOutput} {dir : String} {after later : World σ} {failure : Failure}
      (named : Names host world settings lookup output dir after)
      (refused : host.capture (printingAfter (scriptIn settings dir)) after =
        (.error failure, later)) :
      SetsUp (.error failure)
        ⟨later, [.captured (askingWhere (installerOf settings lookup)) (.ok output),
          .captured (printingAfter (scriptIn settings dir)) (.error failure)]⟩
  | nothingPrinted {output printed : CapturedOutput} {dir : String} {after later : World σ}
      (named : Names host world settings lookup output dir after)
      (ran : host.capture (printingAfter (scriptIn settings dir)) after =
        (.ok printed, later))
      (empty : SetsNothing printed.stdout) :
      SetsUp
        (.error (.environmentSetup
          ((scriptIn settings dir).shown ++ " did not print an environment")))
        ⟨later, [.captured (askingWhere (installerOf settings lookup)) (.ok output),
          .captured (printingAfter (scriptIn settings dir)) (.ok printed)]⟩
  | ready {output printed : CapturedOutput} {dir : String} {after later : World σ}
      (named : Names host world settings lookup output dir after)
      (ran : host.capture (printingAfter (scriptIn settings dir)) after =
        (.ok printed, later))
      (filled : ¬ SetsNothing printed.stdout) :
      SetsUp (.ok (parse printed.stdout))
        ⟨later, [.captured (askingWhere (installerOf settings lookup)) (.ok output),
          .captured (printingAfter (scriptIn settings dir)) (.ok printed)]⟩

variable {host world settings lookup}

theorem installationIn_of_trimmed {output : CapturedOutput} {dir : String}
    (trimmed : TrimmedBack output.stdout.toList dir.toList) :
    installationIn output =
      if dir = "" then .error NoEnvironment.noInstallation.failure else .ok (.ofText dir) := by
  obtain rfl : trimEnd output.stdout = dir := trimEnd_eq_iff.mpr trimmed
  simp only [installationIn, String.isEmpty_iff]

theorem variablesIn_of_setsNothing {printed : CapturedOutput} (script : Path)
    (empty : SetsNothing printed.stdout) :
    variablesIn script printed = .error (NoEnvironment.nothingPrinted script).failure :=
  if_pos (isEmpty_parse_iff.mpr empty)

theorem variablesIn_of_sets {printed : CapturedOutput} (script : Path)
    (filled : ¬ SetsNothing printed.stdout) :
    variablesIn script printed = .ok (parse printed.stdout) :=
  if_neg (mt isEmpty_parse_iff.mp filled)

/-- Behind an installation that is named it is the script that counts. -/
theorem Names.perform_developer {output : CapturedOutput} {dir : String} {after : World σ}
    (h : Names host world settings lookup output dir after) :
    (developer settings lookup).perform host world =
      let script := scriptIn settings dir
      let answer := host.capture (printingAfter script) after
      (answer.1.bind (variablesIn script),
        ⟨answer.2, [.captured (askingWhere (installerOf settings lookup)) (.ok output),
          .captured (printingAfter script) answer.1]⟩) := by
  rw [Variables.perform_developer, installationQuery_eq, environmentScript_eq]
  dsimp only
  rw [if_pos (FileSystem.pathExists_iff.mpr h.found), h.answered]
  dsimp only
  rw [installationIn_of_trimmed h.trimmed, if_neg h.filled]
  rfl

theorem SetsUp.perform_eq {result : Except Failure Variables} {session : Session σ}
    (h : SetsUp host world settings lookup result session) :
    (developer settings lookup).perform host world = (result, session) := by
  cases h with
  | noInstaller missing =>
    rw [perform_developer, installationQuery_eq]
    dsimp only
    rw [if_neg]
    · rfl
    · rw [FileSystem.pathExists_iff]
      rintro ⟨loc, node, found⟩
      exact missing loc node found
  | notAsked found refused =>
    rw [perform_developer, installationQuery_eq]
    dsimp only
    rw [if_pos (FileSystem.pathExists_iff.mpr ⟨_, _, found⟩), refused]
  | noInstallation found answered blank =>
    have unnamed := @installationIn_of_trimmed _ "" blank
    rw [perform_developer, installationQuery_eq]
    dsimp only
    rw [if_pos (FileSystem.pathExists_iff.mpr ⟨_, _, found⟩), answered]
    dsimp only
    rw [unnamed]
    rfl
  | notRun named refused =>
    rw [named.perform_developer]
    dsimp only
    rw [refused]
    rfl
  | nothingPrinted named ran empty =>
    rw [named.perform_developer]
    dsimp only
    rw [ran, Except.bind, variablesIn_of_setsNothing _ empty]
    rfl
  | ready named ran filled =>
    rw [named.perform_developer]
    dsimp only
    rw [ran, Except.bind, variablesIn_of_sets _ filled]

/-- Behind an installation that is named setting up goes on in one of three ways. -/
theorem Names.exists_setsUp {output : CapturedOutput} {dir : String} {after : World σ}
    (h : Names host world settings lookup output dir after) :
    ∃ result session, SetsUp host world settings lookup result session := by
  rcases ran : host.capture (printingAfter (scriptIn settings dir)) after with
    ⟨failure | printed, later⟩
  · exact ⟨_, _, .notRun h ran⟩
  · by_cases empty : SetsNothing printed.stdout
    · exact ⟨_, _, .nothingPrinted h ran empty⟩
    · exact ⟨_, _, .ready h ran empty⟩

theorem exists_setsUp (host : Host σ) (world : World σ) (settings : Settings)
    (lookup : String → Option String) :
    ∃ result session, SetsUp host world settings lookup result session := by
  by_cases there : ∃ loc node, world.files.find (installerOf settings lookup) = .ok (loc, node)
  · rcases answered : host.capture (askingWhere (installerOf settings lookup)) world with
      ⟨failure | output, after⟩
    · obtain ⟨loc, node, found⟩ := there
      exact ⟨_, _, .notAsked found answered⟩
    · have trimmed : TrimmedBack output.stdout.toList (trimEnd output.stdout).toList :=
        trimEnd_eq_iff.mp rfl
      by_cases blank : trimEnd output.stdout = ""
      · obtain ⟨loc, node, found⟩ := there
        rw [blank] at trimmed
        exact ⟨_, _, .noInstallation found answered trimmed⟩
      · exact @Names.exists_setsUp σ _ _ _ _ _ (trimEnd output.stdout) _
          ⟨there, answered, trimmed, blank⟩
  · exact ⟨_, _, .noInstaller fun loc node found => there ⟨loc, node, found⟩⟩

theorem perform_developer_iff {result : Except Failure Variables} {session : Session σ} :
    (developer settings lookup).perform host world = (result, session) ↔
      SetsUp host world settings lookup result session := by
  refine ⟨fun performed => ?_, SetsUp.perform_eq⟩
  obtain ⟨other, others, goes⟩ := exists_setsUp host world settings lookup
  rw [goes.perform_eq, Prod.mk.injEq] at performed
  obtain ⟨rfl, rfl⟩ := performed
  exact goes

end

/-! ## What setting up comes to -/

section

variable {σ : Type} (host : Host σ) (world : World σ) (settings : Settings)
  (lookup : String → Option String)

/-- Setting up a developer environment goes as `SetsUp` says, on every host, and not otherwise.
An environment that it gives has variables. The script of the settings is looked for in the
installation, unless it is an absolute path. -/
theorem developer_by_answers :
    (∀ result session, (developer settings lookup).perform host world = (result, session) ↔
      SetsUp host world settings lookup result session) ∧
    (∀ env, ((developer settings lookup).perform host world).1 = .ok env →
      ∃ name value, env.get? name = some value) ∧
    (settings.vcvarsScript.isAbsolute → ∀ dir, scriptIn settings dir = settings.vcvarsScript) := by
  refine ⟨fun result session => perform_developer_iff, fun env ready => ?_,
    fun absolute dir => Path.join_of_isAbsolute absolute⟩
  generalize performed : (developer settings lookup).perform host world = outcome at ready
  obtain ⟨result, session⟩ := outcome
  obtain rfl : result = .ok env := ready
  cases perform_developer_iff.mp performed with
  | ready named ran filled =>
    rwa [← isEmpty_parse_iff, Bool.not_eq_true, isEmpty_eq_false_iff] at filled

end

/-- The installer stands in the directory that a variable names, and it names an installation. -/
def installedScript : Script where
  outputs := [("vs/vswhere.exe", some ⟨" VS 2022 \n", true⟩),
    ("cmd", some ⟨"Ready.\nINCLUDE=VS\\include\n=C:=C:\\\nLIB=a=b\n", false⟩)]

/-- The blanks behind an answer do not belong to the name of an installation, those in front of it
do. Of the lines that the script prints those count that set a variable. -/
theorem developer_in_installation :
    let files : FileSystem :=
      { nodes := [(["vs"], .directory ⟨0o755, .user⟩),
          (["vs", "vswhere.exe"], .file ⟨0, .empty, ⟨0o755, .user⟩⟩)]
        next := 1 }
    let settings : Settings :=
      { vswherePath := "%TOOLS%/vswhere.exe", vcvarsScript := .ofText "vcvars64.bat" }
    let lookup : String → Option String := fun name => if name = "TOOLS" then some "vs" else none
    let world : World Script.Tally := ⟨files, []⟩
    let table := "Ready.\nINCLUDE=VS\\include\n=C:=C:\\\nLIB=a=b\n"
    (developer settings lookup).perform installedScript.host world =
        (.ok (parse table), ⟨world,
          [.captured
              { program := "vs/vswhere.exe", args := ["-latest", "-property", "installationPath"] }
              (.ok ⟨" VS 2022 \n", true⟩),
            .captured
              { program := "cmd", args := ["/C", "call", " VS 2022/vcvars64.bat", "&&", "set"] }
              (.ok ⟨table, false⟩)]⟩) ∧
      (parse table).entries = [("INCLUDE", "VS\\include"), ("LIB", "a=b")] := by
  intro files settings lookup world table
  have installer : installerOf settings lookup = ⟨"vs/vswhere.exe"⟩ := by decide +kernel
  have asked : askingWhere ⟨"vs/vswhere.exe"⟩ =
      { program := "vs/vswhere.exe", args := ["-latest", "-property", "installationPath"] } := by
    decide +kernel
  have script : printingAfter (scriptIn settings " VS 2022") =
      { program := "cmd", args := ["/C", "call", " VS 2022/vcvars64.bat", "&&", "set"] } := by
    decide +kernel
  have read : (parse table).entries = [("INCLUDE", "VS\\include"), ("LIB", "a=b")] := by
    decide +kernel
  have named : Names installedScript.host world settings lookup ⟨" VS 2022 \n", true⟩ " VS 2022"
      world := by
    refine ⟨?_, ?_, trimEnd_eq_iff.mp (by decide +kernel), by decide⟩
    · exact FileSystem.pathExists_iff.mp (by decide +kernel)
    · rw [installer, asked]
      rfl
  have filled : ¬ SetsNothing table := by
    rw [← isEmpty_parse_iff, isEmpty, read]
    decide
  have ran : installedScript.host.capture (printingAfter (scriptIn settings " VS 2022")) world =
      (.ok ⟨table, false⟩, world) := by
    rw [script]
    rfl
  have goes := ((developer_by_answers installedScript.host world settings lookup).1 _ _).mpr
    (SetsUp.ready named ran filled)
  rw [installer, asked, script] at goes
  exact ⟨goes, read⟩

/-! ## What is reported -/

section

variable {σ : Type} {host : Host σ} {world after : World σ} {settings : Settings}
  {lookup : String → Option String} {output : CapturedOutput} (report : Command → Bool)

theorem capture_reporting_of_ok {c : Command} (h : host.capture c world = (.ok output, after)) :
    (host.reporting report).capture c world = (.ok ⟨output.stdout, report c⟩, after) := by
  simp only [Host.reporting, h]
  rfl

theorem capture_reporting_of_error {c : Command} {failure : Failure}
    (h : host.capture c world = (.error failure, after)) :
    (host.reporting report).capture c world = (.error failure, after) := by
  simp only [Host.reporting, h]
  rfl

theorem Names.reporting {dir : String} (h : Names host world settings lookup output dir after) :
    Names (host.reporting report) world settings lookup
      ⟨output.stdout, report (askingWhere (installerOf settings lookup))⟩ dir after :=
  ⟨h.found, capture_reporting_of_ok report h.answered, h.trimmed, h.filled⟩

/-- Whatever commands report, setting up comes to the same. -/
theorem SetsUp.reporting {result : Except Failure Variables} {session : Session σ}
    (h : SetsUp host world settings lookup result session) :
    ∃ record, SetsUp (host.reporting report) world settings lookup result ⟨session.world, record⟩ ∧
      commandLog record = commandLog session.record ∧
      ∀ c output, .captured c (.ok output) ∈ record → output.success = report c := by
  cases h with
  | noInstaller missing => exact ⟨_, .noInstaller missing, rfl, by simp⟩
  | notAsked found refused =>
    exact ⟨_, .notAsked found (capture_reporting_of_error report refused), rfl, by simp⟩
  | noInstallation found answered blank =>
    refine ⟨_, .noInstallation found (capture_reporting_of_ok report answered) blank, rfl, ?_⟩
    simp +contextual
  | notRun named refused =>
    refine ⟨_, .notRun (named.reporting report) (capture_reporting_of_error report refused),
      rfl, ?_⟩
    simp +contextual
  | nothingPrinted named ran empty =>
    refine ⟨_, .nothingPrinted (named.reporting report) (capture_reporting_of_ok report ran) empty,
      rfl, ?_⟩
    simp +contextual [or_imp]
  | @ready output printed dir after later named ran filled =>
    -- The result alone does not say what the script reports now.
    refine ⟨_, @SetsUp.ready _ _ _ _ _ _
      ⟨printed.stdout, report (printingAfter (scriptIn settings dir))⟩ _ _ _
      (named.reporting report) (capture_reporting_of_ok report ran) filled, rfl, ?_⟩
    simp +contextual [or_imp]

variable (host world settings lookup)

/-- An environment is given exactly if an installation is named and its script prints a variable;
what the two commands report is not looked at. Let them all report failure: the same commands are
run, and the same environment comes out. -/
theorem developer_whatever_reported :
    (∀ env, ((developer settings lookup).perform host world).1 = .ok env ↔
      ∃ output dir after printed later,
        Names host world settings lookup output dir after ∧
        host.capture (printingAfter (scriptIn settings dir)) after =
          (.ok printed, later) ∧
        ¬ SetsNothing printed.stdout ∧ env = parse printed.stdout) ∧
    ∀ report : Command → Bool,
      let told := (developer settings lookup).perform host world
      let retold := (developer settings lookup).perform (host.reporting report) world
      retold.1 = told.1 ∧ retold.2.world = told.2.world ∧
        commandLog retold.2.record = commandLog told.2.record ∧
        ∀ c output, .captured c (.ok output) ∈ retold.2.record → output.success = report c := by
  obtain ⟨result, session, goes⟩ := exists_setsUp host world settings lookup
  refine ⟨fun env => ⟨fun given => ?_, ?_⟩, fun report => ?_⟩
  · rw [goes.perform_eq] at given
    obtain rfl : result = .ok env := given
    cases goes with
    | ready named ran filled => exact ⟨_, _, _, _, _, named, ran, filled, rfl⟩
  · rintro ⟨output, dir, after, printed, later, named, ran, filled, rfl⟩
    rw [(SetsUp.ready named ran filled).perform_eq]
  · obtain ⟨record, goes_again, commands, reports⟩ := goes.reporting report
    rw [goes.perform_eq, goes_again.perform_eq]
    exact ⟨rfl, rfl, commands, reports⟩

end

end Variables
end ReleaseBuilder
