/-
# Looking for compilers and checking them

Versioned compilers are looked for by what both of them print: each has to show the GNU C
family. The pair that is settled on is then checked, and the check wants the C++ compiler to
show its own family. On a host whose answers are always the same the two ask about the same
outputs, so what a selection comes to is a matter of the answers alone. The search settles on the
first pair it accepts, and if that one does not pass the check no other pair is tried.
-/

import ReleaseBuilder.Host.Scripted
import ReleaseBuilder.Proofs.Compilers.Selection

namespace ReleaseBuilder

variable {σ : Type}

/-- Where programs are, and what commands answer. -/
structure Answers where
  located : String → Option Path
  captured : Command → Except Failure CapturedOutput

/-- A host gives these answers in every world. The world may still change as it answers. -/
structure Host.AnswersBy (host : Host σ) (a : Answers) : Prop where
  locate : ∀ program world, host.locate program world = a.located program
  capture : ∀ c world, (host.capture c world).1 = a.captured c

namespace Answers

/-- Whether a compiler shows a family in its version. -/
def shows (a : Answers) (compiler family : String) : Bool :=
  Compilers.showing family (a.captured (Compilers.versionQuery compiler))

/-- Whether the search accepts a pair: both compilers are there, and both show the GNU C
family. -/
def accepts (a : Answers) (pair : Compilers) : Bool :=
  (a.located pair.cxx).isSome && (a.located pair.cc).isSome &&
    a.shows pair.cxx Compilers.cSignature && a.shows pair.cc Compilers.cSignature

/-- Whether a pair passes the check: each compiler shows its own family. -/
def passes (a : Answers) (pair : Compilers) : Bool :=
  a.shows pair.cxx Compilers.cxxSignature && a.shows pair.cc Compilers.cSignature

/-- The first version whose pair the search accepts. -/
def first? (a : Answers) (versions : List UInt32) : Option UInt32 :=
  versions.find? fun version => a.accepts (.versioned version)

/-- The pair that the search settles on. -/
def settled (a : Answers) (versions : List UInt32) : Compilers :=
  ((a.first? versions).map Compilers.versioned).getD .standard

theorem settled_of_accepts {a : Answers} {before after : List UInt32} {n : UInt32}
    (accepted : a.accepts (.versioned n)) (earlier : ∀ m ∈ before, ¬ a.accepts (.versioned m)) :
    a.settled (before ++ n :: after) = .versioned n := by
  have found : a.first? (before ++ n :: after) = some n :=
    List.find?_eq_some_iff_append.mpr ⟨accepted, before, after, rfl, fun m member => by
      simpa using earlier m member⟩
  rw [settled, found]
  rfl

theorem settled_of_none {a : Answers} {versions : List UInt32}
    (none : ∀ m ∈ versions, ¬ a.accepts (.versioned m)) : a.settled versions = .standard := by
  rw [settled, first?, List.find?_eq_none.mpr none]
  rfl

/-- If a version is accepted, the search settles on the pair of one that is, and that is this
version or one before it. -/
theorem exists_settled_of_accepts {a : Answers} {n : UInt32} (accepted : a.accepts (.versioned n))
    (before after : List UInt32) :
    ∃ m ∈ before ++ [n], a.accepts (.versioned m) ∧
      a.settled (before ++ n :: after) = .versioned m := by
  have found : (a.first? (before ++ [n])).isSome :=
    List.find?_isSome.mpr ⟨n, by simp, accepted⟩
  obtain ⟨m, isFirst⟩ := Option.isSome_iff_exists.mp found
  have acceptedToo : a.accepts (.versioned m) := by
    simpa using List.find?_some isFirst
  refine ⟨m, List.mem_of_find?_eq_some isFirst, acceptedToo, ?_⟩
  have whole : a.first? (before ++ [n] ++ after) = some m := by
    rw [first?, List.find?_append]
    exact congrArg (Option.or · _) isFirst
  rw [settled, List.append_cons, whole]
  rfl

end Answers

namespace Compilers

variable {host : Host σ} {a : Answers}

/-! ## What the work comes to on such a host -/

theorem fits_of_answers (answers : host.AnswersBy a) (world : World σ) (pair : Compilers) :
    ((fits pair).perform host world).1 = .ok (a.accepts pair) := by
  have asks : ∀ there : Bool,
      (if there then identifies pair else pure false : Work σ Bool).AddsToRecord := fun there => by
    cases there with
    | true => exact (composes_identifies Work.composes_orderly orderly_reports pair).adds
    | false => exact Work.addsToRecord_pure _
  rw [fits, Work.perform_bind host world asks, perform_installed]
  simp only [answers.locate, Answers.accepts]
  cases a.located pair.cxx with
  | none => rfl
  | some cxx =>
    cases a.located pair.cc with
    | none => rfl
    | some cc =>
      simp only [Option.isSome_some, if_true, perform_identifies, answers.capture,
        Bool.true_and, Answers.shows]
      cases showing cSignature (a.captured (versionQuery pair.cxx)) <;> rfl

theorem probe?_of_answers (answers : host.AnswersBy a) (world : World σ)
    (versions : List UInt32) :
    ((probe? versions).perform host world).1 = .ok ((a.first? versions).map versioned) := by
  induction versions generalizing world with
  | nil => rfl
  | cons version rest ih =>
      have goesOn : ∀ fit : Bool, (if fit then pure (some (versioned version)) else probe? rest :
          Work σ (Option Compilers)).AddsToRecord := fun fit => by
        cases fit with
        | true => exact Work.addsToRecord_pure _
        | false => exact (orderly_probe? rest).adds
      have looked := fits_of_answers answers world (versioned version)
      rw [probe?_cons, Work.perform_bind host world goesOn]
      rcases outcome : (fits (versioned version)).perform host world with ⟨result, s⟩
      rw [outcome] at looked
      cases looked
      cases fit : a.accepts (versioned version) with
      | true => simp [Answers.first?, fit]
      | false => simpa [Answers.first?, fit] using ih s.world

theorem validate_of_answers (answers : host.AnswersBy a) (world : World σ) (pair : Compilers) :
    ((validate pair).perform host world).1 =
      if a.passes pair then .ok () else .error (.toolchainMismatch pair.cc pair.cxx) := by
  rw [perform_validate]
  simp only [answers.capture]
  rfl

theorem validate_eq_ok_iff (answers : host.AnswersBy a) {world : World σ} {pair : Compilers} :
    ((validate pair).perform host world).1 = .ok () ↔ a.passes pair := by
  rw [validate_of_answers answers]
  split <;> simp_all

/-- The pair that the search settles on is selected if it passes the check. -/
theorem select_of_answers (answers : host.AnswersBy a) (world : World σ)
    (versions : List UInt32) :
    ((select .mac versions).perform host world).1 =
      if a.passes (a.settled versions) then .ok (some (a.settled versions))
      else .error (.toolchainMismatch (a.settled versions).cc (a.settled versions).cxx) := by
  have found := probe?_of_answers answers world versions
  rw [select_mac_eq, Work.perform_bind host world fun found => ((orderly_validate _).map _).adds]
  rcases outcome : (probe? versions).perform host world with ⟨result, s⟩
  rw [outcome] at found
  cases found
  simp only [Work.perform_map, validate_of_answers answers]
  show Except.map _ (if a.passes (a.settled versions) then _ else _) = _
  split <;> rfl

/-! ## The search and the check -/

/-- What selecting compilers on mac comes to. The first version that is accepted decides: its pair
is selected if it passes the check, and otherwise the selection fails with that pair. Without
one, the same holds of the plain names. So a version that is installed, passes the check and
shows the GNU C family in both outputs guarantees a selection if every accepted version before
it passes the check as well. -/
theorem select_mac_of_answers (answers : host.AnswersBy a) (versions : List UInt32)
    (world : World σ) :
    let result := ((select .mac versions).perform host world).1
    let Passes := fun pair : Compilers => ((validate pair).perform host world).1 = .ok ()
    let Decides := fun pair : Compilers =>
      (Passes pair → result = .ok (some pair)) ∧
        (¬ Passes pair → result = .error (.toolchainMismatch pair.cc pair.cxx))
    (∀ before n after, versions = before ++ n :: after → a.accepts (versioned n) →
        (∀ m ∈ before, ¬ a.accepts (versioned m)) → Decides (versioned n)) ∧
      ((∀ m ∈ versions, ¬ a.accepts (versioned m)) → Decides standard) ∧
      ∀ before n after, versions = before ++ n :: after →
        (a.located (versioned n).cxx).isSome → (a.located (versioned n).cc).isSome →
        Passes (versioned n) → a.shows (versioned n).cxx cSignature →
        (∀ m ∈ before, a.accepts (versioned m) → Passes (versioned m)) →
        ∃ m ∈ before ++ [n], result = .ok (some (versioned m)) := by
  intro result Passes Decides
  have decides : Decides (a.settled versions) := by
    constructor
    · intro passes
      exact (select_of_answers answers world versions).trans
        (if_pos ((validate_eq_ok_iff answers).mp passes))
    · intro fails
      exact (select_of_answers answers world versions).trans
        (if_neg fun passes => fails ((validate_eq_ok_iff answers).mpr passes))
  refine ⟨?_, ?_, ?_⟩
  · rintro before n after rfl accepted earlier
    rwa [Answers.settled_of_accepts accepted earlier] at decides
  · intro none
    rwa [Answers.settled_of_none none] at decides
  · rintro before n after rfl cxxThere ccThere passes cxxShown earlier
    have ccShown : a.shows (versioned n).cc cSignature :=
      (Bool.and_eq_true_iff.mp ((validate_eq_ok_iff answers).mp passes)).2
    have accepted : a.accepts (versioned n) := by
      simp only [Answers.accepts, cxxThere, ccThere, cxxShown, ccShown, Bool.and_self]
    obtain ⟨m, member, acceptedToo, settled⟩ :=
      Answers.exists_settled_of_accepts accepted before after
    have passesToo : Passes (versioned m) := by
      rcases List.mem_append.mp member with inBefore | isLast
      · exact earlier m inBefore acceptedToo
      · rwa [List.mem_singleton.mp isLast]
    rw [settled] at decides
    exact ⟨m, member, decides.1 passesToo⟩

end Compilers

/-! ## Two ways in which they disagree -/

namespace Script

/-- The answers that a script gives. -/
def answers (s : Script) : Answers where
  located program := if s.installed.contains program then some (.ofText program) else none
  captured c :=
    match s.answer? c with
    | some output => .ok output
    | none => .error (.commandSpawn c.text .unknownEntity)

/-- A scripted host gives the answers of its script always. -/
theorem answersBy_host (s : Script) : s.host.AnswersBy s.answers where
  locate _ _ := rfl
  capture c world := by
    simp only [host, answers]
    cases s.answer? c <;> rfl

end Script

namespace Compilers

/-- Of these compilers the version 14 has no C compiler, the C++ compiler of 13 is the C compiler
under another name, 12 is as it should be, and the C++ compiler of 11 does not tell that it
belongs to GCC. -/
def unevenScript : Script where
  installed := ["g++-14", "g++-13", "gcc-13", "g++-12", "gcc-12", "g++-11", "gcc-11"]
  outputs := [("g++-14", some ⟨"g++-14 (GCC) 14.1.0", true⟩),
    ("g++-13", some ⟨"gcc-13 (GCC) 13.2.0", true⟩), ("gcc-13", some ⟨"gcc-13 (GCC) 13.2.0", true⟩),
    ("g++-12", some ⟨"g++-12 (GCC) 12.3.0", true⟩), ("gcc-12", some ⟨"gcc-12 (GCC) 12.3.0", true⟩),
    ("g++-11", some ⟨"g++-11 11.4.0", true⟩), ("gcc-11", some ⟨"gcc-11 11.4.0", true⟩)]

/-- The pair of version 12 is selected behind a version that is not complete. -/
theorem select_mac_behind_partial :
    let world : World Script.Tally := ⟨.empty, unevenScript.freshTally⟩
    unevenScript.host.AnswersBy unevenScript.answers ∧
      ((select .mac [14, 12, 13]).perform unevenScript.host world).1 =
        .ok (some ⟨"gcc-12", "g++-12"⟩) := by
  intro world
  have answers := unevenScript.answersBy_host
  have partial_pair : ∀ m ∈ [14], ¬ unevenScript.answers.accepts (versioned m) := by
    intro m member
    rw [List.mem_singleton.mp member]
    decide +kernel
  have decided := (select_mac_of_answers answers [14, 12, 13] world).1 [14] 12 [13] rfl
    (by decide +kernel) partial_pair
  have passes : ((validate (versioned 12)).perform unevenScript.host world).1 = .ok () :=
    (validate_eq_ok_iff answers).mpr (by decide +kernel)
  exact ⟨answers, decided.1 passes⟩

/-- Version 12 is installed and passes the check, and the selection fails with version 13, which
the search has accepted before. And version 11 is installed and passes the check, and the search
passes over it and settles on the plain names, which are not there. -/
theorem select_mac_of_disagreement :
    let world : World Script.Tally := ⟨.empty, unevenScript.freshTally⟩
    unevenScript.host.AnswersBy unevenScript.answers ∧
      (∀ n ∈ [11, 12], (unevenScript.answers.located (versioned n).cxx).isSome ∧
        (unevenScript.answers.located (versioned n).cc).isSome ∧
        ((validate (versioned n)).perform unevenScript.host world).1 = .ok ()) ∧
      ((select .mac [13, 12]).perform unevenScript.host world).1 =
        .error (.toolchainMismatch "gcc-13" "g++-13") ∧
      ((select .mac [11]).perform unevenScript.host world).1 =
        .error (.toolchainMismatch "gcc" "g++") := by
  intro world
  have answers := unevenScript.answersBy_host
  refine ⟨answers, ?_, ?_, ?_⟩
  · have eleven : (unevenScript.answers.located (versioned 11).cxx).isSome ∧
        (unevenScript.answers.located (versioned 11).cc).isSome ∧
        unevenScript.answers.passes (versioned 11) := by
      decide +kernel
    have twelve : (unevenScript.answers.located (versioned 12).cxx).isSome ∧
        (unevenScript.answers.located (versioned 12).cc).isSome ∧
        unevenScript.answers.passes (versioned 12) := by
      decide +kernel
    intro n member
    rw [validate_eq_ok_iff answers]
    rcases List.mem_cons.mp member with rfl | member
    · exact eleven
    · rw [List.mem_singleton.mp member]
      exact twelve
  · have impostor : unevenScript.answers.settled [13, 12] = versioned 13 ∧
        ¬ unevenScript.answers.passes (versioned 13) := by
      decide +kernel
    rw [select_of_answers answers, impostor.1, if_neg impostor.2]
    rfl
  · have passedOver : unevenScript.answers.settled [11] = standard ∧
        ¬ unevenScript.answers.passes standard := by
      decide +kernel
    rw [select_of_answers answers, passedOver.1, if_neg passedOver.2]
    rfl

end Compilers

end ReleaseBuilder
