/-
# What selecting compilers does

A selection looks for the versioned pairs in order, asks those that are installed, and
checks the pair it settles on. Two relations say which occurrences a selection can record
and what it then comes to: `Probed` for the versioned pairs, and `Selected` for the whole.
Both speak of the answers only, so they hold of every host, whether it answers the same
question always the same way or not.
-/

import ReleaseBuilder.Proofs.Work.Orderly

namespace ReleaseBuilder.Compilers

variable {σ : Type}

/-- A text shows a family if the family's name stands somewhere in it, letters being taken in
either case. -/
def Identifies (text family : String) : Prop :=
  ∃ letters, letters <:+: text.toList ∧ letters.map Char.toLower = family.toList

theorem shows_iff {family : String} {output : CapturedOutput} :
    shows family output ↔ Identifies output.stdout family :=
  Text.contains_lowerAscii_iff

/-- Whether the answer to a version query shows a family. A compiler that could not be asked
has shown nothing. -/
def showing (family : String) : Except Failure CapturedOutput → Bool
  | .ok output => shows family output
  | .error _ => false

theorem showing_iff {family : String} {answer : Except Failure CapturedOutput} :
    showing family answer ↔ ∃ output, answer = .ok output ∧ Identifies output.stdout family := by
  cases answer with
  | error failure => simp [showing]
  | ok output => simp [showing, shows_iff]

/-! ## One query -/

theorem within_reports (host : Host σ) (s : Session σ) (compiler family : String) :
    (reports compiler family).within host s =
      (.ok (showing family (host.capture (versionQuery compiler) s.world).1),
        s.followedBy ⟨(host.capture (versionQuery compiler) s.world).2,
          [.captured (versionQuery compiler)
            (host.capture (versionQuery compiler) s.world).1]⟩) := by
  rw [reports, Work.within_tryCatch, Work.within_bind, Work.within_capture]
  cases (host.capture (versionQuery compiler) s.world).1 <;> rfl

theorem addsToRecord_reports (compiler family : String) :
    (reports compiler family : Work σ Bool).AddsToRecord :=
  (Work.addsToRecord_capture _).bind (fun _ => Work.addsToRecord_pure _) |>.tryCatch
    fun _ => Work.addsToRecord_pure _

/-- Asking a compiler is one captured command, and no failure. -/
@[simp] theorem perform_reports (host : Host σ) (world : World σ) (compiler family : String) :
    (reports compiler family).perform host world =
      (.ok (showing family (host.capture (versionQuery compiler) world).1),
        ⟨(host.capture (versionQuery compiler) world).2,
          [.captured (versionQuery compiler)
            (host.capture (versionQuery compiler) world).1]⟩) :=
  within_reports host { world } compiler family

theorem orderly_reports (compiler family : String) :
    (reports compiler family : Work σ Bool).Orderly where
  adds := addsToRecord_reports compiler family
  quiet host world := by
    rw [perform_reports]
    rfl
  stops host world := by
    rw [perform_reports]
    apply stopsWith_of_harmless
    intro o member
    obtain rfl := List.mem_singleton.mp member
    have noName : ¬ (versionQuery compiler).AsksForName := by
      simp [Command.AsksForName, versionQuery, Platform.nameQuery]
    cases (host.capture (versionQuery compiler) world).1 with
    | error failure => exact if_pos rfl
    | ok output => exact if_neg fun h => noName h.1

/-! ## One pair -/

/-- Whether a pair is installed and shows the family; it is asked only if it is installed. -/
def fits (pair : Compilers) : Work σ Bool := do
  if ← installed pair then identifies pair else return false

/-- What a look at one pair records, and whether the pair fits. -/
inductive Tried (pair : Compilers) : List Occurrence → Bool → Prop
  | noCxx : Tried pair [.located pair.cxx none] false
  | noCc (cxx : Path) : Tried pair [.located pair.cxx (some cxx), .located pair.cc none] false
  | strangeCxx (cxx cc : Path) (cxxAnswer : Except Failure CapturedOutput)
      (strange : showing cSignature cxxAnswer = false) :
      Tried pair
        [.located pair.cxx (some cxx), .located pair.cc (some cc),
          .captured (versionQuery pair.cxx) cxxAnswer] false
  | asked (cxx cc : Path) (cxxAnswer ccAnswer : Except Failure CapturedOutput)
      (gnu : showing cSignature cxxAnswer = true) :
      Tried pair
        [.located pair.cxx (some cxx), .located pair.cc (some cc),
          .captured (versionQuery pair.cxx) cxxAnswer, .captured (versionQuery pair.cc) ccAnswer]
        (showing cSignature ccAnswer)

section

variable {C : ∀ α : Type, Work σ α → Prop}

theorem composes_installed (h : Work.Composes C) (pair : Compilers) : C Bool (installed pair) := by
  refine h.bind (h.locate pair.cxx) fun cxx => ?_
  split
  · exact h.bind (h.locate pair.cc) fun cc => h.pure _
  · exact h.pure _

theorem composes_identifies (h : Work.Composes C)
    (asking : ∀ compiler family, C Bool (reports compiler family)) (pair : Compilers) :
    C Bool (identifies pair) := by
  refine h.bind (asking pair.cxx cSignature) fun gnu => ?_
  split
  · exact asking pair.cc cSignature
  · exact h.pure _

theorem composes_fits (h : Work.Composes C)
    (asking : ∀ compiler family, C Bool (reports compiler family)) (pair : Compilers) :
    C Bool (fits pair) := by
  refine h.bind (composes_installed h pair) fun there => ?_
  split
  · exact composes_identifies h asking pair
  · exact h.pure _

end

/-- The second compiler is looked for only if the first is there. -/
theorem perform_installed (host : Host σ) (world : World σ) (pair : Compilers) :
    (installed pair).perform host world =
      match host.locate pair.cxx world with
      | none => (.ok false, ⟨world, [.located pair.cxx none]⟩)
      | some cxx =>
        (.ok (host.locate pair.cc world).isSome,
          ⟨world, [.located pair.cxx (some cxx),
            .located pair.cc (host.locate pair.cc world)]⟩) := by
  simp only [Work.perform_eq_within, installed, Work.within_bind, Work.within_locate]
  cases host.locate pair.cxx world with
  | none => rfl
  | some cxx =>
    simp only [Option.isSome_some, if_true, Work.within_bind, Work.within_locate]
    rfl

/-- The second compiler is asked only if the first shows the family. -/
theorem perform_identifies (host : Host σ) (world : World σ) (pair : Compilers) :
    (identifies pair).perform host world =
      let (cxxAnswer, between) := host.capture (versionQuery pair.cxx) world
      let (ccAnswer, behind) := host.capture (versionQuery pair.cc) between
      if showing cSignature cxxAnswer then
        (.ok (showing cSignature ccAnswer),
          ⟨behind, [.captured (versionQuery pair.cxx) cxxAnswer,
            .captured (versionQuery pair.cc) ccAnswer]⟩)
      else (.ok false, ⟨between, [.captured (versionQuery pair.cxx) cxxAnswer]⟩) := by
  simp only [Work.perform_eq_within, identifies, Work.within_bind, within_reports]
  split
  · simp only [within_reports]
    rfl
  · rfl

theorem tried_of_fits (host : Host σ) (world : World σ) (pair : Compilers) :
    ∃ b, ((fits pair).perform host world).1 = .ok b ∧
      Tried pair ((fits pair).perform host world).2.record b := by
  rcases outcome : (fits pair).perform host world with ⟨result, s⟩
  rcases Work.perform_bind_cases (fun there => by
      split
      · exact (composes_identifies Work.composes_orderly orderly_reports pair).adds
      · exact Work.addsToRecord_pure _) outcome with
    ⟨failure, failed, -⟩ | ⟨there, first, second, looked, asked, rfl⟩
  · rw [perform_installed] at failed
    split at failed <;> cases failed
  · rw [perform_installed] at looked
    cases cxx : host.locate pair.cxx world with
    | none =>
      rw [cxx] at looked
      cases looked
      cases asked
      exact ⟨false, rfl, .noCxx⟩
    | some cxxPath =>
      rw [cxx] at looked
      cases cc : host.locate pair.cc world with
      | none =>
        rw [cc] at looked
        cases looked
        cases asked
        exact ⟨false, rfl, .noCc cxxPath⟩
      | some ccPath =>
        rw [cc] at looked
        cases looked
        simp only [Option.isSome_some, if_true, perform_identifies] at asked
        split at asked
        · next gnu =>
          cases asked
          exact ⟨_, rfl, .asked cxxPath ccPath _ _ gnu⟩
        · next strange =>
          cases asked
          exact ⟨false, rfl, .strangeCxx cxxPath ccPath _ (Bool.not_eq_true _ ▸ strange)⟩

/-! ## The versioned pairs -/

/-- What a look at versioned pairs records, and the first pair that fits. -/
inductive Probed : List UInt32 → List Occurrence → Option Compilers → Prop
  | exhausted : Probed [] [] none
  | passedOver {version : UInt32} {rest : List UInt32} {record later : List Occurrence}
      {found : Option Compilers} (tried : Tried (versioned version) record false)
      (goesOn : Probed rest later found) :
      Probed (version :: rest) (record ++ later) found
  | settled {version : UInt32} {rest : List UInt32} {record : List Occurrence}
      (tried : Tried (versioned version) record true) :
      Probed (version :: rest) record (some (versioned version))

theorem probe?_cons (version : UInt32) (rest : List UInt32) :
    (probe? (version :: rest) : Work σ (Option Compilers)) =
      fits (versioned version) >>= fun fit =>
        if fit then pure (some (versioned version)) else probe? rest := by
  rw [probe?, fits, bind_assoc]
  congr 1
  funext there
  cases there <;> simp

theorem composes_probe? {C : ∀ α : Type, Work σ α → Prop} (h : Work.Composes C)
    (asking : ∀ compiler family, C Bool (reports compiler family)) (versions : List UInt32) :
    C (Option Compilers) (probe? versions) := by
  induction versions with
  | nil => exact h.pure none
  | cons version rest ih =>
      rw [probe?_cons]
      refine h.bind (composes_fits h asking _) fun fit => ?_
      cases fit with
      | false => exact ih
      | true => exact h.pure _

theorem orderly_probe? (versions : List UInt32) :
    (probe? versions : Work σ (Option Compilers)).Orderly :=
  composes_probe? Work.composes_orderly orderly_reports versions

/-- A look at versioned pairs goes as `Probed` says, and does not fail. -/
theorem probed_of_probe? (host : Host σ) (world : World σ) (versions : List UInt32) :
    ∃ found, ((probe? versions).perform host world).1 = .ok found ∧
      Probed versions ((probe? versions).perform host world).2.record found := by
  induction versions generalizing world with
  | nil => exact ⟨none, rfl, .exhausted⟩
  | cons version rest ih =>
      obtain ⟨fit, fits_ok, tried⟩ := tried_of_fits host world (versioned version)
      rw [probe?_cons, Work.perform_bind host world fun fit => by
        cases fit with
        | false => exact (orderly_probe? rest).adds
        | true => exact Work.addsToRecord_pure _]
      rcases outcome : (fits (versioned version)).perform host world with ⟨result, s⟩
      rw [outcome] at fits_ok tried
      cases fits_ok
      cases fit with
      | true =>
        refine ⟨some (versioned version), rfl, ?_⟩
        simpa using Probed.settled tried
      | false =>
        obtain ⟨found, rest_ok, goesOn⟩ := ih s.world
        exact ⟨found, rest_ok, .passedOver tried goesOn⟩

/-- A look at versioned pairs can find none installed. -/
theorem probed_of_none_installed (versions : List UInt32) :
    Probed versions (versions.map fun version => .located (versioned version).cxx none) none := by
  induction versions with
  | nil => exact .exhausted
  | cons version rest ih => exact .passedOver .noCxx ih

/-! ## A whole selection -/

/-- What is recorded until a pair is settled on, and the pair, which is still to be checked. -/
inductive Considered (versions : List UInt32) :
    OperatingSystem → List Occurrence → Compilers → Prop
  | linux : Considered versions .linux [] standard
  | mac {record : List Occurrence} {found : Option Compilers}
      (probed : Probed versions record found) :
      Considered versions .mac record (found.getD standard)

/-- What a selection records, and what it comes to. The pair that is settled on is asked again,
both compilers in any case, and selected if each of them shows its own signature. -/
inductive Selected (versions : List UInt32) :
    OperatingSystem → List Occurrence → Except Failure (Option Compilers) → Prop
  | windows : Selected versions .windows [] (.ok none)
  | checked {system : OperatingSystem} {record : List Occurrence} {pair : Compilers}
      (considered : Considered versions system record pair)
      (cxxAnswer ccAnswer : Except Failure CapturedOutput) :
      Selected versions system
        (record ++ [.captured (versionQuery pair.cxx) cxxAnswer,
          .captured (versionQuery pair.cc) ccAnswer])
        (if showing cxxSignature cxxAnswer && showing cSignature ccAnswer then .ok (some pair)
          else .error (.toolchainMismatch pair.cc pair.cxx))

section

variable {C : ∀ α : Type, Work σ α → Prop}

theorem composes_validate (h : Work.Composes C)
    (asking : ∀ compiler family, C Bool (reports compiler family)) (pair : Compilers) :
    C Unit (validate pair) := by
  refine h.bind (asking pair.cxx cxxSignature) fun cxx => ?_
  refine h.bind (asking pair.cc cSignature) fun cc => ?_
  split
  · exact h.pure _
  · exact h.fail _

theorem composes_candidate (h : Work.Composes C)
    (asking : ∀ compiler family, C Bool (reports compiler family)) (system : OperatingSystem)
    (versions : List UInt32) : C Compilers (candidate system versions) := by
  cases system with
  | mac => exact h.bind (composes_probe? h asking versions) fun found => h.pure _
  | linux | windows => exact h.pure _

theorem composes_select (h : Work.Composes C)
    (asking : ∀ compiler family, C Bool (reports compiler family)) (system : OperatingSystem)
    (versions : List UInt32) : C (Option Compilers) (select system versions) := by
  have makefile : ∀ system, C (Option Compilers) (do
      let pair ← candidate system versions
      validate pair
      return some pair) := fun system =>
    h.bind (composes_candidate h asking system versions) fun pair =>
      h.bind (composes_validate h asking pair) fun _ => h.pure _
  cases system with
  | windows => exact h.pure none
  | linux | mac => exact makefile _

end

/-- On mac the search comes first, and then the check of the pair that it settles on. -/
theorem select_mac_eq (versions : List UInt32) :
    (select .mac versions : Work σ (Option Compilers)) =
      probe? versions >>= fun found =>
        (fun _ => some (found.getD standard)) <$> validate (found.getD standard) := by
  simp [select, candidate]

/-- On linux the plain names are checked, whatever the versions. -/
theorem select_linux_eq (versions : List UInt32) :
    (select .linux versions : Work σ (Option Compilers)) =
      (fun _ => some standard) <$> validate standard := by
  simp [select, candidate]

theorem orderly_validate (pair : Compilers) : (validate pair : Work σ Unit).Orderly :=
  composes_validate Work.composes_orderly orderly_reports pair

/-- Both compilers of a pair are asked, and both must show their signatures. -/
theorem perform_validate (host : Host σ) (world : World σ) (pair : Compilers) :
    (validate pair).perform host world =
      let (cxxAnswer, between) := host.capture (versionQuery pair.cxx) world
      let (ccAnswer, behind) := host.capture (versionQuery pair.cc) between
      (if showing cxxSignature cxxAnswer && showing cSignature ccAnswer then .ok ()
        else .error (.toolchainMismatch pair.cc pair.cxx),
        ⟨behind, [.captured (versionQuery pair.cxx) cxxAnswer,
          .captured (versionQuery pair.cc) ccAnswer]⟩) := by
  simp only [Work.perform_eq_within, validate, Work.within_bind, within_reports,
    Session.followedBy_world]
  split <;> rfl

theorem considered_of_candidate (host : Host σ) (world : World σ) {system : OperatingSystem}
    (versions : List UInt32) (h : system ≠ .windows) :
    ∃ pair, ((candidate system versions).perform host world).1 = .ok pair ∧
      Considered versions system ((candidate system versions).perform host world).2.record
        pair := by
  cases system with
  | windows => exact absurd rfl h
  | linux => exact ⟨standard, rfl, .linux⟩
  | mac =>
    obtain ⟨found, found_ok, probed⟩ := probed_of_probe? host world versions
    have asMap : (candidate .mac versions : Work σ Compilers) =
        (fun found => found.getD standard) <$> probe? versions := by
      rw [← bind_pure_comp]
      rfl
    rw [asMap, Work.perform_map, found_ok]
    exact ⟨found.getD standard, rfl, .mac probed⟩

/-- Selecting compilers goes as `Selected` says. -/
theorem selected_of_select (host : Host σ) (world : World σ) (system : OperatingSystem)
    (versions : List UInt32) :
    Selected versions system ((select system versions).perform host world).2.record
      ((select system versions).perform host world).1 := by
  by_cases windows : system = .windows
  · subst windows
    exact .windows
  · obtain ⟨pair, pair_ok, considered⟩ := considered_of_candidate host world versions windows
    have asBind : (select system versions : Work σ (Option Compilers)) =
        candidate system versions >>= fun pair =>
          (fun _ => some pair) <$> validate pair := by
      cases system with
      | windows => exact absurd rfl windows
      | linux | mac => simp [select]
    rw [asBind, Work.perform_bind host world fun pair => ((orderly_validate pair).map _).adds]
    rcases outcome : (candidate system versions).perform host world with ⟨result, s⟩
    rw [outcome] at pair_ok considered
    cases pair_ok
    have checked := Selected.checked considered
      (host.capture (versionQuery pair.cxx) s.world).1
      (host.capture (versionQuery pair.cc) (host.capture (versionQuery pair.cxx) s.world).2).1
    simp only [Work.perform_map, perform_validate, Session.followedBy_record]
    split
    · next shown => rwa [if_pos shown] at checked
    · next strange => rwa [if_neg strange] at checked

/-- Looking for a program, or asking one for its version. -/
def Asks (o : Occurrence) : Prop :=
  (∃ program found, o = .located program found) ∨
    ∃ compiler answer, o = .captured (versionQuery compiler) answer

theorem Tried.asks {pair : Compilers} {record : List Occurrence} {b : Bool}
    (h : Tried pair record b) : ∀ o ∈ record, Asks o := by
  have located : ∀ program found, Asks (.located program found) := fun program found =>
    .inl ⟨program, found, rfl⟩
  have asked : ∀ compiler answer, Asks (.captured (versionQuery compiler) answer) :=
    fun compiler answer => .inr ⟨compiler, answer, rfl⟩
  cases h <;> simp [located, asked]

theorem Probed.asks {versions : List UInt32} {record : List Occurrence}
    {found : Option Compilers} (h : Probed versions record found) : ∀ o ∈ record, Asks o := by
  induction h with
  | exhausted => exact fun o member => nomatch member
  | passedOver tried goesOn ih =>
      intro o member
      rcases List.mem_append.mp member with member | member
      · exact tried.asks o member
      · exact ih o member
  | settled tried => exact tried.asks

/-- A selection only looks for compilers and asks them. -/
theorem Selected.asks {versions : List UInt32} {system : OperatingSystem}
    {record : List Occurrence} {result : Except Failure (Option Compilers)}
    (h : Selected versions system record result) : ∀ o ∈ record, Asks o := by
  cases h with
  | windows => exact fun o member => nomatch member
  | @checked _ before pair considered cxxAnswer ccAnswer =>
    have earlier : ∀ o ∈ before, Asks o := by
      cases considered with
      | linux => exact fun o member => nomatch member
      | mac probed => exact probed.asks
    intro o member
    rcases List.mem_append.mp member with member | member
    · exact earlier o member
    · right
      simp only [List.mem_cons, List.not_mem_nil, or_false] at member
      rcases member with rfl | rfl
      · exact ⟨_, _, rfl⟩
      · exact ⟨_, _, rfl⟩

/-- A selection can find no compiler installed and none that can be asked. -/
theorem selected_of_none_installed (versions : List UInt32) {system : OperatingSystem}
    (h : system ≠ .windows) :
    ∃ record, Selected versions system record
      (.error (.toolchainMismatch standard.cc standard.cxx)) := by
  have unasked : ∀ {record}, Considered versions system record standard →
      ∃ record, Selected versions system record
        (.error (.toolchainMismatch standard.cc standard.cxx)) := fun considered =>
    ⟨_, .checked considered (.error (.io .unknownEntity)) (.error (.io .unknownEntity))⟩
  cases system with
  | windows => exact absurd rfl h
  | linux => exact unasked .linux
  | mac => exact unasked (.mac (probed_of_none_installed versions))

/-- A pair that is selected has shown its signatures. -/
theorem Selected.shown {versions : List UInt32} {system : OperatingSystem}
    {record : List Occurrence} {pair : Compilers}
    (h : Selected versions system record (.ok (some pair))) :
    ∃ cxxOutput ccOutput : CapturedOutput,
      .captured (versionQuery pair.cxx) (.ok cxxOutput) ∈ record ∧
      Identifies cxxOutput.stdout cxxSignature ∧
      .captured (versionQuery pair.cc) (.ok ccOutput) ∈ record ∧
      Identifies ccOutput.stdout cSignature := by
  generalize result : (.ok (some pair) : Except Failure (Option Compilers)) = outcome at h
  cases h with
  | windows => cases result
  | checked considered cxxAnswer ccAnswer =>
    split at result
    · next shown =>
      cases result
      rw [Bool.and_eq_true] at shown
      obtain ⟨cxxOutput, rfl, cxxShown⟩ := showing_iff.mp shown.1
      obtain ⟨ccOutput, rfl, ccShown⟩ := showing_iff.mp shown.2
      exact ⟨cxxOutput, ccOutput, by simp, cxxShown, by simp, ccShown⟩
    · cases result

/-- Only on Windows no pair is selected. -/
theorem Selected.eq_windows {versions : List UInt32} {system : OperatingSystem}
    {record : List Occurrence} (h : Selected versions system record (.ok none)) :
    system = .windows := by
  generalize result : (.ok none : Except Failure (Option Compilers)) = outcome at h
  cases h with
  | windows => rfl
  | checked considered cxxAnswer ccAnswer =>
    split at result <;> cases result

end ReleaseBuilder.Compilers
