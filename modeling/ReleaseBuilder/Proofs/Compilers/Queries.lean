/-
# Which compilers are asked

Where a host gives the same answers always, the answers tell which commands a selection runs. The
search goes through the versions up to the first one that fits and asks no compiler in vain: none
of a pair that is not complete, and not the second one if the first shows no GNU C family. The check
asks both compilers of the pair that is settled on, whatever the first one answers.
-/

import Mathlib.Data.List.Forall2
import ReleaseBuilder.Proofs.Compilers.Choice
import ReleaseBuilder.Proofs.Work.Answering

namespace ReleaseBuilder

variable {σ : Type} {host : Host σ} {a : Answers}

/-! ## Answers in a record -/

theorem Host.AnswersBy.eq_located (answers : host.AnswersBy a) {program : String}
    {found : Option Path} (h : host.Does (.located program found)) : found = a.located program := by
  cases h with
  | located _ world => exact answers.locate program world

theorem Host.AnswersBy.eq_captured (answers : host.AnswersBy a) {c : Command}
    {answer : Except Failure CapturedOutput} (h : host.Does (.captured c answer)) :
    answer = a.captured c := by
  obtain ⟨world, rfl⟩ := h.exists_of_captured
  exact answers.capture c world

namespace Answers

/-- The versions that are looked at, and the one that is accepted: all up to the first version that
fits, or all that there are if none does. -/
inductive Reached (a : Answers) (versions : List UInt32) : List UInt32 → Option UInt32 → Prop
  | accepted {before after : List UInt32} {version : UInt32}
      (split : versions = before ++ version :: after) (fits : a.Fits version)
      (earlier : ∀ other ∈ before, ¬ a.Fits other) :
      Reached a versions (before ++ [version]) (some version)
  | exhausted (unfit : ∀ version ∈ versions, ¬ a.Fits version) : Reached a versions versions none

/-- Both compilers of a pair are located. -/
def Installed (a : Answers) (pair : Compilers) : Prop :=
  (a.located pair.cxx).isSome ∧ (a.located pair.cc).isSome

/-- The compilers that are asked when a pair is looked at: none if one of them is not located, and
the C compiler only if the C++ compiler shows the GNU C family. -/
inductive Asks (a : Answers) (pair : Compilers) : List String → Prop
  | incomplete (missing : ¬ a.Installed pair) : Asks a pair []
  | strange (there : a.Installed pair) (strange : ¬ a.Shows pair.cxx "gcc") :
      Asks a pair [pair.cxx]
  | both (there : a.Installed pair) (shown : a.Shows pair.cxx "gcc") :
      Asks a pair [pair.cxx, pair.cc]

variable {version : UInt32} {versions tried : List UInt32} {accepted : Option UInt32}

/-- The first version ends the search if it fits, and otherwise the later ones are looked at. -/
theorem reached_cons_iff :
    a.Reached (version :: versions) tried accepted ↔
      a.Fits version ∧ tried = [version] ∧ accepted = some version ∨
        ¬ a.Fits version ∧
          ∃ later, tried = version :: later ∧ a.Reached versions later accepted := by
  constructor
  · intro reached
    cases reached with
    | @accepted before after found split fits earlier =>
      rcases before with _ | ⟨first, before⟩
      · obtain ⟨rfl, rfl⟩ := List.cons.inj split
        exact .inl ⟨fits, rfl, rfl⟩
      · obtain ⟨rfl, rfl⟩ := List.cons.inj split
        obtain ⟨unfit, earlierToo⟩ := List.forall_mem_cons.mp earlier
        exact .inr ⟨unfit, _, rfl, .accepted rfl fits earlierToo⟩
    | exhausted unfit =>
      obtain ⟨unfitHere, unfitLater⟩ := List.forall_mem_cons.mp unfit
      exact .inr ⟨unfitHere, versions, rfl, .exhausted unfitLater⟩
  · rintro (⟨fits, rfl, rfl⟩ | ⟨unfit, later, rfl, goesOn⟩)
    · have split : version :: versions = [] ++ version :: versions := rfl
      exact .accepted split fits nofun
    · cases goesOn with
      | accepted split fits earlier =>
        rw [split, ← List.cons_append, ← List.cons_append]
        exact .accepted rfl fits (List.forall_mem_cons.mpr ⟨unfit, earlier⟩)
      | exhausted unfitLater =>
        exact .exhausted (List.forall_mem_cons.mpr ⟨unfit, unfitLater⟩)

theorem Reached.unique {others : List UInt32} {other : Option UInt32}
    (h : a.Reached versions tried accepted) (h' : a.Reached versions others other) :
    tried = others ∧ accepted = other := by
  induction versions generalizing tried others with
  | nil =>
    have ends : ∀ {tried accepted}, a.Reached [] tried accepted → tried = [] ∧ accepted = none := by
      intro tried accepted reached
      cases reached with
      | accepted split => simp at split
      | exhausted => exact ⟨rfl, rfl⟩
    rw [(ends h).1, (ends h).2, (ends h').1, (ends h').2]
    exact ⟨rfl, rfl⟩
  | cons version rest ih =>
    rcases reached_cons_iff.mp h with ⟨fits, rfl, rfl⟩ | ⟨unfit, later, rfl, goesOn⟩
    · rcases reached_cons_iff.mp h' with ⟨-, rfl, rfl⟩ | ⟨unfit, -⟩
      · exact ⟨rfl, rfl⟩
      · exact absurd fits unfit
    · rcases reached_cons_iff.mp h' with ⟨fits, -⟩ | ⟨-, laterToo, rfl, goesOnToo⟩
      · exact absurd fits unfit
      · obtain ⟨rfl, rfl⟩ := ih goesOn goesOnToo
        exact ⟨rfl, rfl⟩

theorem Asks.unique {pair : Compilers} {asked other : List String} (h : a.Asks pair asked)
    (h' : a.Asks pair other) : asked = other := by
  cases h with
  | incomplete missing =>
    cases h' with
    | incomplete => rfl
    | strange there | both there => exact absurd there missing
  | strange there strange =>
    cases h' with
    | incomplete missing => exact absurd there missing
    | strange => rfl
    | both _ shown => exact absurd shown strange
  | both there shown =>
    cases h' with
    | incomplete missing => exact absurd there missing
    | strange _ strange => exact absurd shown strange
    | both => rfl

end Answers

theorem Host.AnswersBy.installed (answers : host.AnswersBy a) {pair : Compilers} {cxx cc : Path}
    (cxxThere : host.Does (.located pair.cxx (some cxx)))
    (ccThere : host.Does (.located pair.cc (some cc))) : a.Installed pair := by
  rw [Answers.Installed, ← answers.eq_located cxxThere, ← answers.eq_located ccThere]
  exact ⟨rfl, rfl⟩

theorem Host.AnswersBy.showing_iff (answers : host.AnswersBy a) {compiler family : String}
    {answer : Except Failure CapturedOutput}
    (told : host.Does (.captured (Compilers.versionQuery compiler) answer)) :
    Compilers.showing family answer = true ↔ a.Shows compiler family := by
  rw [answers.eq_captured told]
  exact Answers.shows_iff

namespace Compilers

/-- A compiler being asked for its version. -/
def queried (compiler : String) : Invocation :=
  ⟨.capture, { program := compiler, args := ["--version"] }⟩

/-- What is looked for or asked is a compiler of the pair. -/
inductive Concerns (pair : Compilers) : Occurrence → Prop
  | located {compiler : String} (found : Option Path)
      (ofPair : compiler = pair.cxx ∨ compiler = pair.cc) :
      Concerns pair (.located compiler found)
  | captured {compiler : String} (answer : Except Failure CapturedOutput)
      (ofPair : compiler = pair.cxx ∨ compiler = pair.cc) :
      Concerns pair (.captured { program := compiler, args := ["--version"] } answer)

theorem truthful_reports (compiler family : String) : (reports compiler family).Truthful host :=
  Work.Keeps.tryCatch
    (Work.composes_truthful.bind (Work.truthful_capture _) fun _ => Work.composes_truthful.pure _)
    fun _ => Work.composes_truthful.pure _

theorem truthful_probe? (versions : List UInt32) : (probe? versions).Truthful host :=
  composes_probe? Work.composes_truthful truthful_reports versions

/-! ## The search -/

theorem Tried.concerns {pair : Compilers} {record : List Occurrence} {fit : Bool}
    (tried : Tried pair record fit) : ∀ o ∈ record, Concerns pair o := by
  have cxx : ∀ found, Concerns pair (.located pair.cxx found) := fun found =>
    .located found (.inl rfl)
  have cc : ∀ found, Concerns pair (.located pair.cc found) := fun found =>
    .located found (.inr rfl)
  have cxxAsked : ∀ answer, Concerns pair (.captured (versionQuery pair.cxx) answer) :=
    fun answer => .captured answer (.inl rfl)
  have ccAsked : ∀ answer, Concerns pair (.captured (versionQuery pair.cc) answer) :=
    fun answer => .captured answer (.inr rfl)
  cases tried <;> simp [cxx, cc, cxxAsked, ccAsked]

/-- Which compilers of a pair are asked, and whether the pair fits, is a matter of the answers. -/
theorem Tried.queries (answers : host.AnswersBy a) {version : UInt32} {record : List Occurrence}
    {fit : Bool} (tried : Tried (versioned version) record fit)
    (does : ∀ o ∈ record, host.Does o) :
    (fit = true ↔ a.Fits version) ∧
      ∃ asked, a.Asks (versioned version) asked ∧ commandLog record = asked.map queried := by
  have not_fits : ¬ a.Installed (versioned version) → ¬ a.Fits version := fun missing fits =>
    missing ⟨fits.cxxThere, fits.ccThere⟩
  cases tried with
  | noCxx =>
    have cxxMissing : none = a.located (versioned version).cxx :=
      answers.eq_located (does _ (by simp))
    have missing : ¬ a.Installed (versioned version) := fun there => by
      simpa [← cxxMissing] using there.1
    exact ⟨iff_of_false nofun (not_fits missing), [], .incomplete missing, rfl⟩
  | noCc cxx =>
    have ccMissing : none = a.located (versioned version).cc :=
      answers.eq_located (does _ (by simp))
    have missing : ¬ a.Installed (versioned version) := fun there => by
      simpa [← ccMissing] using there.2
    exact ⟨iff_of_false nofun (not_fits missing), [], .incomplete missing, rfl⟩
  | strangeCxx cxx cc cxxAnswer strange =>
    have there : a.Installed (versioned version) :=
      answers.installed (does (.located _ (some cxx)) (by simp))
        (does (.located _ (some cc)) (by simp))
    have cxxShows : showing cSignature cxxAnswer = true ↔ a.Shows (versioned version).cxx "gcc" :=
      answers.showing_iff (does _ (by simp))
    have notShown : ¬ a.Shows (versioned version).cxx "gcc" := by
      rw [← cxxShows, strange]
      exact Bool.false_ne_true
    exact ⟨iff_of_false nofun fun fits => notShown fits.cxxShows, [(versioned version).cxx],
      .strange there notShown, rfl⟩
  | asked cxx cc cxxAnswer ccAnswer gnu =>
    have there : a.Installed (versioned version) :=
      answers.installed (does (.located _ (some cxx)) (by simp))
        (does (.located _ (some cc)) (by simp))
    have cxxShows : showing cSignature cxxAnswer = true ↔ a.Shows (versioned version).cxx "gcc" :=
      answers.showing_iff (does _ (by simp))
    have ccShows : showing cSignature ccAnswer = true ↔ a.Shows (versioned version).cc "gcc" :=
      answers.showing_iff (does _ (by simp))
    have shown := cxxShows.mp gnu
    have fits_iff : showing cSignature ccAnswer = true ↔ a.Fits version :=
      ccShows.trans ⟨fun ccShown => ⟨there.1, there.2, shown, ccShown⟩, fun fits => fits.ccShows⟩
    exact ⟨fits_iff, [(versioned version).cxx, (versioned version).cc], .both there shown, rfl⟩

theorem Probed.queries (answers : host.AnswersBy a) {versions : List UInt32}
    {record : List Occurrence} {found : Option Compilers} (probed : Probed versions record found)
    (does : ∀ o ∈ record, host.Does o) :
    ∃ tried accepted asked, a.Reached versions tried accepted ∧ found = accepted.map versioned ∧
      List.Forall₂ (fun version => a.Asks (versioned version)) tried asked ∧
      commandLog record = asked.flatten.map queried ∧
      ∀ o ∈ record, ∃ version ∈ tried, Concerns (versioned version) o := by
  induction probed with
  | exhausted => exact ⟨[], none, [], .exhausted (by simp), rfl, .nil, rfl, by simp⟩
  | @passedOver version rest record later found looked goesOn ih =>
    obtain ⟨fits_iff, first, asks, commands⟩ :=
      looked.queries answers fun o member => does o (List.mem_append_left _ member)
    obtain ⟨tried, accepted, asked, reached, same, asksLater, commandsLater, concerns⟩ :=
      ih fun o member => does o (List.mem_append_right _ member)
    have unfit : ¬ a.Fits version := fun fits => nomatch fits_iff.mpr fits
    refine ⟨version :: tried, accepted, first :: asked,
      Answers.reached_cons_iff.mpr (.inr ⟨unfit, tried, rfl, reached⟩), same,
      .cons asks asksLater, ?_, fun o member => ?_⟩
    · rw [commandLog_append, commands, commandsLater, List.flatten_cons, List.map_append]
    · rcases List.mem_append.mp member with here | behind
      · exact ⟨version, List.mem_cons_self, looked.concerns o here⟩
      · obtain ⟨other, isTried, concern⟩ := concerns o behind
        exact ⟨other, List.mem_cons_of_mem version isTried, concern⟩
  | @settled version rest record looked =>
    obtain ⟨fits_iff, first, asks, commands⟩ := looked.queries answers does
    have fits : a.Fits version := fits_iff.mp rfl
    refine ⟨[version], some version, [first],
      Answers.reached_cons_iff.mpr (.inl ⟨fits, rfl, rfl⟩), rfl, .cons asks .nil, ?_,
      fun o member => ?_⟩
    · rw [commands, List.flatten_singleton]
    · exact ⟨version, List.mem_singleton_self version, looked.concerns o member⟩

/-! ## The whole selection -/

theorem commandLog_validate (host : Host σ) (world : World σ) (pair : Compilers) :
    commandLog ((validate pair).perform host world).2.record =
      [queried pair.cxx, queried pair.cc] := by
  rw [perform_validate]
  rfl

/-- Behind the search stands the check of the pair that it settles on. -/
theorem commandLog_select_mac (host : Host σ) (world : World σ) {versions : List UInt32}
    {found : Option Compilers}
    (probed : ((probe? versions).perform host world).1 = .ok found) :
    commandLog ((select .mac versions).perform host world).2.record =
      commandLog ((probe? versions).perform host world).2.record ++
        [queried (found.getD standard).cxx, queried (found.getD standard).cc] := by
  rw [select_mac_eq, Work.perform_bind host world fun found => ((orderly_validate _).map _).adds]
  rcases outcome : (probe? versions).perform host world with ⟨result, s⟩
  rw [outcome] at probed
  cases probed
  simp only [Work.perform_map, Session.followedBy_record, commandLog_append, commandLog_validate]

theorem commandLog_select_linux (host : Host σ) (world : World σ) (versions : List UInt32) :
    commandLog ((select .linux versions).perform host world).2.record =
      [queried standard.cxx, queried standard.cc] := by
  rw [select_linux_eq, Work.perform_map]
  exact commandLog_validate host world standard

/-- Which commands a selection runs is settled by the answers. The search looks at the versions up
to the first one that fits, touches no later one, and asks for each version what `Asks` says. On mac
the search is followed by the two queries for the pair that is settled on, which is the one that is
selected or that the failure names. On linux the plain names are asked, and nothing else. -/
theorem queries_by_answers (answers : host.AnswersBy a) (versions : List UInt32)
    (world : World σ) :
    let search := (probe? versions).perform host world
    let selection := fun system => (select system versions).perform host world
    (∃ tried accepted asked, a.Reached versions tried accepted ∧
      List.Forall₂ (fun version => a.Asks (versioned version)) tried asked ∧
      (search.1 = .ok (accepted.map versioned) ∧
        commandLog search.2.record = asked.flatten.map queried ∧
        ∀ o ∈ search.2.record, ∃ version ∈ tried, Concerns (versioned version) o) ∧
      ∃ pair, pair = (accepted.map versioned).getD standard ∧
        ((selection .mac).1 = .ok (some pair) ∨
          (selection .mac).1 = .error (.toolchainMismatch pair.cc pair.cxx)) ∧
        commandLog (selection .mac).2.record =
          commandLog search.2.record ++ [queried pair.cxx, queried pair.cc]) ∧
    commandLog (selection .linux).2.record = [queried "g++", queried "gcc"] := by
  intro search selection
  obtain ⟨found, probed_ok, probed⟩ := probed_of_probe? host world versions
  have does : ∀ o ∈ ((probe? versions).perform host world).2.record, host.Does o :=
    fun o => (truthful_probe? versions).perform
  obtain ⟨tried, accepted, asked, reached, rfl, asks, commands, concerns⟩ :=
    probed.queries answers does
  refine ⟨⟨tried, accepted, asked, reached, asks, ⟨probed_ok, commands, concerns⟩, _, rfl, ?_,
    commandLog_select_mac host world probed_ok⟩, commandLog_select_linux host world versions⟩
  have settled : a.settled versions = (accepted.map versioned).getD standard := by
    rw [probe?_of_answers answers, Except.ok.injEq] at probed_ok
    rw [Answers.settled, probed_ok]
  have selected := select_of_answers answers world versions
  rw [settled] at selected
  split at selected
  · exact .inl selected
  · exact .inr selected

/-- Version 14 is not complete, the C++ compiler of version 11 alone is asked, as it does not tell
that it belongs to GCC, and version 13 ends the search, so version 12 is not touched. The check asks
both compilers of version 13, although the first one fails it. -/
theorem queries_behind_unfit :
    let world : World Script.Tally := ⟨.empty, unevenScript.freshTally⟩
    unevenScript.host.AnswersBy unevenScript.answers ∧
      commandLog ((select .mac [14, 11, 13, 12]).perform unevenScript.host world).2.record =
        [queried "g++-11", queried "g++-13", queried "gcc-13", queried "g++-13",
          queried "gcc-13"] := by
  intro world
  have answers := unevenScript.answersBy_host
  refine ⟨answers, ?_⟩
  obtain ⟨⟨tried, accepted, asked, reached, asks, ⟨-, searched, -⟩, pair, rfl, -, selected⟩, -⟩ :=
    queries_by_answers answers [14, 11, 13, 12] world
  have reachedToo : unevenScript.answers.Reached [14, 11, 13, 12] [14, 11, 13] (some 13) := by
    have split : ([14, 11, 13, 12] : List UInt32) = [14, 11] ++ 13 :: [12] := rfl
    refine .accepted split (Answers.accepts_iff.mp (by decide +kernel)) ?_
    rw [List.forall_mem_cons, List.forall_mem_singleton, ← Answers.accepts_iff,
      ← Answers.accepts_iff]
    decide +kernel
  have asksToo : List.Forall₂ (fun version => unevenScript.answers.Asks (versioned version))
      [14, 11, 13] [[], ["g++-11"], ["g++-13", "gcc-13"]] := by
    refine .cons (.incomplete ?_) (.cons (.strange ?_ ?_) (.cons (.both ?_ ?_) .nil))
    all_goals simp only [Answers.Installed, ← Answers.shows_iff]
    all_goals decide +kernel
  obtain ⟨rfl, rfl⟩ := reached.unique reachedToo
  have unique : Relator.RightUnique fun version asked =>
      unevenScript.answers.Asks (versioned version) asked := fun _ _ _ => Answers.Asks.unique
  obtain rfl := List.right_unique_forall₂' unique asks asksToo
  rw [selected, searched]
  rfl

end Compilers

end ReleaseBuilder
