/-
# The choice of compilers

Where a host gives the same answers always, the answers alone tell which pair a selection settles
on. `Chosen` says which it is, and there is exactly one for each system that builds with a makefile.
That pair is selected if both of its compilers show their families, and otherwise the selection
fails and names the pair. Windows has no pair, and nothing is asked there.
-/

import ReleaseBuilder.Proofs.Compilers.Agreement

namespace ReleaseBuilder

variable {σ : Type}

namespace Answers

/-- A compiler prints a version that shows a family. One that cannot be started does not. -/
def Shows (a : Answers) (compiler family : String) : Prop :=
  ∃ output, a.captured { program := compiler, args := ["--version"] } = .ok output ∧
    Compilers.Identifies output.stdout family

/-- Both compilers of a version are installed, and both show the family of GNU C compilers. -/
structure Fits (a : Answers) (version : UInt32) : Prop where
  cxxThere : (a.located (Compilers.versioned version).cxx).isSome
  ccThere : (a.located (Compilers.versioned version).cc).isSome
  cxxShows : a.Shows (Compilers.versioned version).cxx "gcc"
  ccShows : a.Shows (Compilers.versioned version).cc "gcc"

/-- Each compiler of a pair shows its own family. -/
structure Valid (a : Answers) (pair : Compilers) : Prop where
  cxx : a.Shows pair.cxx "g++"
  cc : a.Shows pair.cc "gcc"

/-- The pair that a selection settles on. On mac it is the one of the first version that fits, and
the plain names if none does. -/
inductive Chosen (a : Answers) (versions : List UInt32) : OperatingSystem → Compilers → Prop
  | linux : Chosen a versions .linux .standard
  | first {before after : List UInt32} {version : UInt32}
      (split : versions = before ++ version :: after) (fits : a.Fits version)
      (earlier : ∀ other ∈ before, ¬ a.Fits other) : Chosen a versions .mac (.versioned version)
  | fallback (unfit : ∀ version ∈ versions, ¬ a.Fits version) : Chosen a versions .mac .standard

variable {a : Answers}

theorem shows_iff {compiler family : String} : a.shows compiler family ↔ a.Shows compiler family :=
  Compilers.showing_iff

theorem accepts_iff {version : UInt32} : a.accepts (.versioned version) ↔ a.Fits version := by
  simp only [accepts, Bool.and_eq_true, shows_iff]
  constructor
  · rintro ⟨⟨⟨cxxThere, ccThere⟩, cxxShows⟩, ccShows⟩
    exact ⟨cxxThere, ccThere, cxxShows, ccShows⟩
  · rintro ⟨cxxThere, ccThere, cxxShows, ccShows⟩
    exact ⟨⟨⟨cxxThere, ccThere⟩, cxxShows⟩, ccShows⟩

theorem passes_iff {pair : Compilers} : a.passes pair ↔ a.Valid pair := by
  simp only [passes, Bool.and_eq_true, shows_iff]
  exact ⟨fun ⟨cxx, cc⟩ => ⟨cxx, cc⟩, fun ⟨cxx, cc⟩ => ⟨cxx, cc⟩⟩

theorem chosen_settled (a : Answers) (versions : List UInt32) :
    a.Chosen versions .mac (a.settled versions) := by
  by_cases some_fits : ∃ version ∈ versions, a.accepts (.versioned version)
  · obtain ⟨version, found⟩ := Option.isSome_iff_exists.mp (List.find?_isSome.mpr some_fits)
    obtain ⟨fits, before, after, split, earlier⟩ := List.find?_eq_some_iff_append.mp found
    rw [split, settled_of_accepts fits fun other member => by simpa using earlier other member]
    refine .first rfl (accepts_iff.mp fits) fun other member fitsToo => ?_
    simpa [accepts_iff.mpr fitsToo] using earlier other member
  · have unfit : ∀ version ∈ versions, ¬ a.accepts (.versioned version) :=
      fun version member fits => some_fits ⟨version, member, fits⟩
    rw [settled_of_none unfit]
    exact .fallback fun version member fits => unfit version member (accepts_iff.mpr fits)

theorem Chosen.eq_settled {versions : List UInt32} {pair : Compilers}
    (h : a.Chosen versions .mac pair) : pair = a.settled versions := by
  cases h with
  | first split fits earlier =>
    rw [split, settled_of_accepts (accepts_iff.mpr fits)]
    exact fun other member fits => earlier other member (accepts_iff.mp fits)
  | fallback unfit =>
    rw [settled_of_none]
    exact fun version member fits => unfit version member (accepts_iff.mp fits)

end Answers

namespace Compilers

variable {host : Host σ} {a : Answers}

theorem select_linux_of_answers (answers : host.AnswersBy a) (world : World σ)
    (versions : List UInt32) :
    ((select .linux versions).perform host world).1 =
      if a.passes standard then .ok (some standard)
      else .error (.toolchainMismatch standard.cc standard.cxx) := by
  rw [select_linux_eq, Work.perform_map, validate_of_answers answers]
  split <;> rfl

/-- What a selection comes to if the pair it settles on is this one. -/
theorem select_of_chosen (answers : host.AnswersBy a) (world : World σ) {versions : List UInt32}
    {system : OperatingSystem} {pair : Compilers} (chosen : a.Chosen versions system pair) :
    ((select system versions).perform host world).1 =
      if a.passes pair then .ok (some pair) else .error (.toolchainMismatch pair.cc pair.cxx) := by
  cases system with
  | windows => cases chosen
  | linux =>
    cases chosen
    exact select_linux_of_answers answers world versions
  | mac =>
    rw [chosen.eq_settled]
    exact select_of_answers answers world versions

/-- Selecting compilers is settled by the answers. On Windows no pair is selected, and the host is
not called. On the other systems there is exactly one pair that a selection settles on: it is
selected if its compilers show their families, and otherwise the selection fails with a failure
that names the pair, and with no other one. -/
theorem select_by_answers (answers : host.AnswersBy a) (versions : List UInt32) (world : World σ) :
    (select .windows versions).perform host world = (.ok none, ⟨world, []⟩) ∧
      ∀ system, system ≠ .windows →
        ∃ pair, a.Chosen versions system pair ∧
          (∀ other, a.Chosen versions system other → other = pair) ∧
          (((select system versions).perform host world).1 = .ok (some pair) ↔ a.Valid pair) ∧
          (((select system versions).perform host world).1 =
            .error (.toolchainMismatch pair.cc pair.cxx) ↔ ¬ a.Valid pair) := by
  refine ⟨rfl, fun system makefile => ?_⟩
  obtain ⟨pair, chosen, unique⟩ : ∃ pair, a.Chosen versions system pair ∧
      ∀ other, a.Chosen versions system other → other = pair := by
    cases system with
    | windows => exact absurd rfl makefile
    | linux => exact ⟨standard, .linux, fun other chosen => by cases chosen; rfl⟩
    | mac => exact ⟨a.settled versions, a.chosen_settled versions, fun other => (·.eq_settled)⟩
  refine ⟨pair, chosen, unique, ?_⟩
  rw [select_of_chosen answers world chosen, ← Answers.passes_iff]
  cases a.passes pair <;> simp

/-- Version 14 is not complete and version 11 does not tell that it belongs to GCC. Behind them
version 12 is selected, and version 13, whose C++ compiler is none, makes the selection fail. -/
theorem select_behind_unfit :
    let world : World Script.Tally := ⟨.empty, unevenScript.freshTally⟩
    unevenScript.host.AnswersBy unevenScript.answers ∧
      ((select .mac [14, 11, 12, 13]).perform unevenScript.host world).1 =
        .ok (some ⟨"gcc-12", "g++-12"⟩) ∧
      ((select .mac [14, 11, 13, 12]).perform unevenScript.host world).1 =
        .error (.toolchainMismatch "gcc-13" "g++-13") := by
  intro world
  have answers := unevenScript.answersBy_host
  refine ⟨answers, ?_, ?_⟩
  · obtain ⟨pair, chosen, -, selected, -⟩ :=
      (select_by_answers answers [14, 11, 12, 13] world).2 .mac (by decide)
    have settles : unevenScript.answers.settled [14, 11, 12, 13] = versioned 12 ∧
        unevenScript.answers.passes (versioned 12) := by
      decide +kernel
    rw [chosen.eq_settled, settles.1] at selected
    exact selected.mpr (Answers.passes_iff.mp settles.2)
  · obtain ⟨pair, chosen, -, -, failed⟩ :=
      (select_by_answers answers [14, 11, 13, 12] world).2 .mac (by decide)
    have settles : unevenScript.answers.settled [14, 11, 13, 12] = versioned 13 ∧
        ¬ unevenScript.answers.passes (versioned 13) := by
      decide +kernel
    rw [chosen.eq_settled, settles.1] at failed
    exact failed.mpr fun valid => settles.2 (Answers.passes_iff.mpr valid)

end Compilers

end ReleaseBuilder
