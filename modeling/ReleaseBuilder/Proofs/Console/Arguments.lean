/-
# Arguments that ask for a release

What the command line takes for a release, written down without reading it: a list of options,
none of them twice, each in one of its spellings, and perhaps a mark that the options end there.
Reading such arguments gives the options that stand in the list, and all arguments that are read as
a release are of this kind.
-/

import Mathlib.Data.List.TakeWhile
import ReleaseBuilder.Console.Request
import ReleaseBuilder.Proofs.FileSystem.Paths

namespace ReleaseBuilder.Console

/-- The long name of an option. -/
def Choice.longName : Choice → String
  | root => "root"
  | config => "config"
  | skipSubmodules => "skip-submodules"
  | nativePlatform => "native-platform"
  | verbose => "verbose"
  | help => "help"
  | version => "version"

/-- How an option is given its value. -/
inductive Spelling where
  /-- In one argument, behind an equals sign. -/
  | joined
  /-- In the next argument. -/
  | apart
  deriving DecidableEq

/-- An option that is given. -/
inductive Argument where
  | root (path : String) (spelling : Spelling)
  | config (path : String) (spelling : Spelling)
  | skipSubmodules
  | nativePlatform
  | verbose (short : Bool)
  deriving DecidableEq

namespace Argument

/-- Which option it is. -/
def choice : Argument → Choice
  | root _ _ => .root
  | config _ _ => .config
  | skipSubmodules => .skipSubmodules
  | nativePlatform => .nativePlatform
  | verbose _ => .verbose

/-- The words of an option with a value. -/
def valued (name value : String) : Spelling → List String
  | .joined => ["--" ++ name ++ "=" ++ value]
  | .apart => ["--" ++ name, value]

/-- The words that are written for it. -/
def words : Argument → List String
  | root path spelling => valued Choice.root.longName path spelling
  | config path spelling => valued Choice.config.longName path spelling
  | skipSubmodules => ["--" ++ Choice.skipSubmodules.longName]
  | nativePlatform => ["--" ++ Choice.nativePlatform.longName]
  | verbose short => [if short then "-v" else "--" ++ Choice.verbose.longName]

theorem words_ne_nil (a : Argument) : a.words ≠ [] := by
  cases a with
  | root path spelling | config path spelling => cases spelling <;> exact List.cons_ne_nil _ _
  | skipSubmodules | nativePlatform | verbose => exact List.cons_ne_nil _ _

/-- A value is not empty, and does not look like an option if it stands apart. -/
def WellFormed : Argument → Prop
  | root path spelling | config path spelling =>
    path ≠ "" ∧ (spelling = .apart → Request.isValue path = true)
  | skipSubmodules | nativePlatform | verbose _ => True

/-- The path that it names as the root. -/
def root? : Argument → Option Path
  | root path _ => some (.ofText path)
  | _ => none

/-- The path that it names as the settings file. -/
def config? : Argument → Option Path
  | config path _ => some (.ofText path)
  | _ => none

end Argument

/-- Arguments for a release. -/
structure Arguments where
  given : List Argument
  wellFormed : ∀ a ∈ given, a.WellFormed
  once : (given.map Argument.choice).Nodup
  /-- The end of the options is marked. -/
  ended : Bool := false

namespace Options

/-- Whether an option has been given. -/
def has (o : Options) : Choice → Bool
  | .root => o.root.isSome
  | .config => o.config.isSome
  | .skipSubmodules => o.skipSubmodules
  | .nativePlatform => o.nativePlatform
  | .verbose => o.verbose
  | .help | .version => false

/-- The options with others that are given behind them. -/
def followedBy (o : Options) (given : List Argument) : Options where
  root := o.root.or (given.findSome? Argument.root?)
  config := o.config.or (given.findSome? Argument.config?)
  skipSubmodules := o.skipSubmodules || given.any (·.choice = .skipSubmodules)
  nativePlatform := o.nativePlatform || given.any (·.choice = .nativePlatform)
  verbose := o.verbose || given.any (·.choice = .verbose)

@[simp] theorem followedBy_nil (o : Options) : o.followedBy [] = o := by
  cases o
  simp [followedBy]

theorem followedBy_append (o : Options) (first second : List Argument) :
    o.followedBy (first ++ second) = (o.followedBy first).followedBy second := by
  simp [followedBy, List.findSome?_append, Option.or_assoc, Bool.or_assoc]

/-- Of an option that was not given before it is known afterwards that it was. -/
theorem has_followedBy {o : Options} {a : Argument} (c : Choice) :
    (o.followedBy [a]).has c = (o.has c || decide (c = a.choice)) := by
  cases a <;> cases c <;> simp [followedBy, has, Argument.choice, Argument.root?, Argument.config?]

end Options

namespace Arguments

/-- The words that are written for arguments. -/
def words (a : Arguments) : List String :=
  a.given.flatMap Argument.words ++ if a.ended then ["--"] else []

/-- The options that arguments give. -/
def options (a : Arguments) : Options :=
  Options.followedBy {} a.given

end Arguments

theorem Choice.lookup_longNames {name : String} {c : Choice} :
    longNames.lookup name = some c ↔ name = c.longName := by
  constructor
  · intro found
    obtain ⟨before, behind, split, -⟩ := List.lookup_eq_some_iff.mp found
    have member : (name, c) ∈ longNames := by
      rw [split]
      simp
    revert member
    simp only [longNames, List.mem_cons, List.not_mem_nil, or_false, Prod.mk.injEq]
    rintro (⟨rfl, rfl⟩ | ⟨rfl, rfl⟩ | ⟨rfl, rfl⟩ | ⟨rfl, rfl⟩ | ⟨rfl, rfl⟩ | ⟨rfl, rfl⟩ |
      ⟨rfl, rfl⟩) <;> rfl
  · rintro rfl
    cases c <;> rfl

theorem Choice.lookup_longName (c : Choice) :
    longNames.lookup (String.ofList c.longName.toList) = some c := by
  rw [String.ofList_toList]
  exact lookup_longNames.mpr rfl

namespace Request

/-! ## Reading one argument -/

section Reading

variable {o : Options} {arg : String} {rest : List String} {name value : List Char}

/-- An option with its long name and a value behind an equals sign. -/
theorem readWith?_joined (shape : arg.toList = '-' :: '-' :: (name ++ '=' :: value))
    (plain : '=' ∉ name) :
    readWith? o (arg :: rest) =
      (Choice.longNames.lookup (String.ofList name)).bind fun c =>
        (takeValue? o c (String.ofList value)).bind fun o => readWith? o rest := by
  obtain ⟨first, others, long⟩ : ∃ first others, name ++ '=' :: value = first :: others := by
    cases name <;> simp
  have front : (first :: others).takeWhile (· ≠ '=') = name := by
    rw [← long, List.takeWhile_append_of_pos fun c member => ?_]
    · simp
    · simpa using fun same : c = '=' => plain (same ▸ member)
  have back : (first :: others).drop name.length = '=' :: value := by
    rw [← long, List.drop_left]
  rw [long] at shape
  rw [readWith?]
  simp only [shape, front, back]
  cases Choice.longNames.lookup (String.ofList name) with
  | none => rfl
  | some c =>
    rw [Option.bind_some]
    cases read : takeValue? o c (String.ofList value) <;> simp only [read] <;> rfl

/-- An option with its long name and nothing else. -/
theorem readWith?_bare (shape : arg.toList = '-' :: '-' :: name) (plain : '=' ∉ name)
    (more : name ≠ []) :
    readWith? o (arg :: rest) =
      (Choice.longNames.lookup (String.ofList name)).bind fun c =>
        if takesValue c then
          match rest with
          | value :: others =>
            if isValue value then (takeValue? o c value).bind fun o => readWith? o others else none
          | [] => none
        else
          match take? o c with
          | some (.reading o) => readWith? o rest
          | some (.decided request) => some request
          | none => none := by
  have whole : name.takeWhile (· ≠ '=') = name :=
    List.takeWhile_eq_self_iff.mpr fun c member => by
      simpa using fun same : c = '=' => plain (same ▸ member)
  have back : name.drop name.length = [] := List.drop_length
  obtain ⟨first, others, rfl⟩ := List.exists_cons_of_ne_nil more
  rw [readWith?]
  simp only [shape, whole, back]
  cases Choice.longNames.lookup (String.ofList (first :: others)) with
  | none => rfl
  | some c =>
    rw [Option.bind_some]
    dsimp only
    congr 1
    cases rest with
    | nil => rfl
    | cons value others =>
      dsimp only
      congr 1
      cases takeValue? o c value <;> rfl

/-- An option with a value, in either spelling. -/
theorem readWith?_valued {c : Choice} (takes : takesValue c = true) {text : String}
    {spelling : Spelling} (plain : spelling = .apart → isValue text = true) :
    readWith? o (Argument.valued c.longName text spelling ++ rest) =
      (takeValue? o c text).bind fun o => readWith? o rest := by
  have unequal : '=' ∉ c.longName.toList := by cases c <;> decide
  have found := c.lookup_longName
  cases spelling with
  | joined =>
    have shape : ("--" ++ c.longName ++ "=" ++ text).toList =
        '-' :: '-' :: (c.longName.toList ++ '=' :: text.toList) := by
      simp
    rw [Argument.valued, List.singleton_append, readWith?_joined shape unequal, found,
      String.ofList_toList]
    rfl
  | apart =>
    have shape : ("--" ++ c.longName).toList = '-' :: '-' :: c.longName.toList := by simp
    rw [Argument.valued, List.cons_append, List.singleton_append,
      readWith?_bare shape unequal (by cases c <;> decide), found, Option.bind_some, if_pos takes]
    dsimp only
    rw [if_pos (plain rfl)]

/-- An option without a value. -/
theorem readWith?_flag {c : Choice} {o' : Options} (takes : takesValue c = false)
    (taken : take? o c = some (.reading o')) :
    readWith? o (("--" ++ c.longName) :: rest) = readWith? o' rest := by
  have shape : ("--" ++ c.longName).toList = '-' :: '-' :: c.longName.toList := by simp
  have found := c.lookup_longName
  rw [readWith?_bare shape (by cases c <;> decide) (by cases c <;> decide), found,
    Option.bind_some, takes, taken]
  rfl

/-- The mark behind the options. -/
theorem readWith?_end : readWith? o ["--"] = some (.release o) := by
  have shape : "--".toList = ['-', '-'] := by simp
  rw [readWith?]
  simp only [shape, List.isEmpty_nil, if_pos]

/-- Options with their short names. -/
theorem readWith?_letters {letter : Char} {letters : List Char}
    (shape : arg.toList = '-' :: letter :: letters) (single : letter ≠ '-') :
    readWith? o (arg :: rest) =
      match takeLetters? o (letter :: letters) with
      | some (.reading o) => readWith? o rest
      | some (.decided request) => some request
      | none => none := by
  rw [readWith?]
  simp only [shape]
  split
  · next same => exact absurd (List.cons.inj (List.cons.inj same).2).1 single
  · next same => exact absurd (List.cons.inj (List.cons.inj same).2).1 single
  · next same =>
    obtain ⟨rfl, rfl⟩ := List.cons.inj (List.cons.inj same).2
    rfl
  · next other => exact absurd rfl (other letter letters)

/-! ## Reading what was written -/

/-- A value is taken by an option that was not given before, if it is not empty. -/
theorem takeValue?_eq_some_iff {a : Argument} {value : String} {o₁ : Options}
    (names : (a.root?.or a.config?) = some (.ofText value)) :
    takeValue? o a.choice value = some o₁ ↔
      value ≠ "" ∧ o.has a.choice = false ∧ o.followedBy [a] = o₁ := by
  by_cases empty : value = ""
  · simp [takeValue?, empty]
  · cases a with
    | root path spelling =>
      obtain rfl : path = value := Path.ofText_inj.mp (Option.some.inj names)
      cases set : o.root <;>
        simp [takeValue?, empty, set, Options.has, Options.followedBy, Argument.root?,
          Argument.config?, Argument.choice]
    | config path spelling =>
      obtain rfl : path = value := Path.ofText_inj.mp (Option.some.inj names)
      cases set : o.config <;>
        simp [takeValue?, empty, set, Options.has, Options.followedBy, Argument.root?,
          Argument.config?, Argument.choice]
    | skipSubmodules | nativePlatform | verbose => cases names

/-- An option without a value is taken if it was not given before. -/
theorem take?_eq_reading_iff {a : Argument} {o₁ : Options} (flag : takesValue a.choice = false) :
    take? o a.choice = some (.reading o₁) ↔
      o.has a.choice = false ∧ o.followedBy [a] = o₁ := by
  cases a with
  | root | config => cases flag
  | skipSubmodules =>
    cases set : o.skipSubmodules <;>
      simp [take?, set, Options.has, Options.followedBy, Argument.root?, Argument.config?,
        Argument.choice]
  | nativePlatform =>
    cases set : o.nativePlatform <;>
      simp [take?, set, Options.has, Options.followedBy, Argument.root?, Argument.config?,
        Argument.choice]
  | verbose =>
    cases set : o.verbose <;>
      simp [take?, set, Options.has, Options.followedBy, Argument.root?, Argument.config?,
        Argument.choice]

/-- An option that was not given before is read, and the rest behind it. -/
theorem readWith?_words {a : Argument} (wellFormed : a.WellFormed)
    (new : o.has a.choice = false) (rest : List String) :
    readWith? o (a.words ++ rest) = readWith? (o.followedBy [a]) rest := by
  cases a with
  | root path spelling =>
    have taken : takeValue? o .root path = some (o.followedBy [.root path spelling]) :=
      (takeValue?_eq_some_iff (a := .root path spelling) rfl).mpr ⟨wellFormed.1, new, rfl⟩
    rw [Argument.words, readWith?_valued rfl wellFormed.2, taken]
    rfl
  | config path spelling =>
    have taken : takeValue? o .config path = some (o.followedBy [.config path spelling]) :=
      (takeValue?_eq_some_iff (a := .config path spelling) rfl).mpr ⟨wellFormed.1, new, rfl⟩
    rw [Argument.words, readWith?_valued rfl wellFormed.2, taken]
    rfl
  | skipSubmodules =>
    exact readWith?_flag rfl ((take?_eq_reading_iff (a := .skipSubmodules) rfl).mpr ⟨new, rfl⟩)
  | nativePlatform =>
    exact readWith?_flag rfl ((take?_eq_reading_iff (a := .nativePlatform) rfl).mpr ⟨new, rfl⟩)
  | verbose short =>
    have taken := (take?_eq_reading_iff (a := .verbose short) rfl).mpr ⟨new, rfl⟩
    cases short with
    | false => exact readWith?_flag rfl taken
    | true =>
      have letter : Choice.shortNames.lookup 'v' = some .verbose := rfl
      have shape : "-v".toList = '-' :: 'v' :: [] := by simp
      rw [Argument.words, if_pos rfl, List.singleton_append, readWith?_letters shape (by decide),
        takeLetters?, letter, Option.bind_some]
      rw [Argument.choice] at taken
      rw [taken]
      rfl

end Reading

/-- Options that were not given before are read one after the other. -/
theorem readWith?_flatMap_words {o : Options} {given : List Argument}
    (wellFormed : ∀ a ∈ given, a.WellFormed) (once : (given.map Argument.choice).Nodup)
    (new : ∀ a ∈ given, o.has a.choice = false) (rest : List String) :
    readWith? o (given.flatMap Argument.words ++ rest) = readWith? (o.followedBy given) rest := by
  induction given generalizing o with
  | nil => simp
  | cons a given ih =>
    obtain ⟨first, others⟩ := List.forall_mem_cons.mp wellFormed
    obtain ⟨firstNew, othersNew⟩ := List.forall_mem_cons.mp new
    obtain ⟨apart, once⟩ := List.nodup_cons.mp once
    rw [List.flatMap_cons, List.append_assoc, readWith?_words first firstNew, ih others once]
    · rw [← Options.followedBy_append, List.singleton_append]
    · intro b member
      have differ : b.choice ≠ a.choice := fun same =>
        apart (same ▸ List.mem_map_of_mem member)
      simp [Options.has_followedBy, othersNew b member, differ]

/-- Nothing is given at first. -/
theorem has_empty (c : Choice) : ({} : Options).has c = false := by
  cases c <;> rfl

/-- The arguments for a release are read as the options that they give. -/
theorem read?_words (a : Arguments) : read? a.words = some (.release a.options) := by
  have given := readWith?_flatMap_words a.wellFormed a.once (fun b _ => has_empty b.choice)
  rw [read?, Arguments.words, given]
  cases a.ended with
  | false => rw [if_neg (by decide), readWith?, Arguments.options]
  | true => rw [if_pos rfl, readWith?_end, Arguments.options]

/-! ## What was read was written -/

section Written

variable {o o' : Options}

theorem release_ne_of_take? {c : Choice} {request : Request}
    (taken : take? o c = some (.decided request)) : request ≠ .release o' := by
  cases c with
  | help | version =>
    cases taken
    exact nofun
  | root | config => cases taken
  | skipSubmodules | nativePlatform | verbose =>
    rw [take?] at taken
    split at taken <;> cases taken

theorem lookup_shortNames {letter : Char} {c : Choice}
    (found : Choice.shortNames.lookup letter = some c) :
    (letter = 'v' ∧ c = .verbose) ∨ c = .help ∨ c = .version := by
  obtain ⟨before, behind, split, -⟩ := List.lookup_eq_some_iff.mp found
  have member : (letter, c) ∈ Choice.shortNames := by
    rw [split]
    simp
  revert member
  simp only [Choice.shortNames, List.mem_cons, List.not_mem_nil, or_false, Prod.mk.injEq]
  rintro (short | ⟨-, help⟩ | ⟨-, version⟩)
  · exact .inl short
  · exact .inr (.inl help)
  · exact .inr (.inr version)

/-- A short option decides for something else, or it is the one that goes with a release. -/
theorem takeLetters?_cons_eq_some {letter : Char} {letters : List Char} {progress : Progress}
    (taken : takeLetters? o (letter :: letters) = some progress) :
    (∃ request, progress = .decided request ∧ request ≠ .release o') ∨
      letter = 'v' ∧ o.verbose = false ∧
        takeLetters? { o with verbose := true } letters = some progress := by
  rw [takeLetters?] at taken
  cases found : Choice.shortNames.lookup letter with
  | none =>
    rw [found] at taken
    cases taken
  | some c =>
    rw [found, Option.bind_some] at taken
    rcases lookup_shortNames found with ⟨short, rfl⟩ | rfl | rfl
    · cases unset : o.verbose with
      | true =>
        rw [take?, if_pos unset] at taken
        cases taken
      | false =>
        rw [take?, unset, if_neg (by decide)] at taken
        exact .inr ⟨short, rfl, taken⟩
    · cases taken
      exact .inl ⟨_, rfl, nofun⟩
    · cases taken
      exact .inl ⟨_, rfl, nofun⟩

/-- Short options ask for no release, but for one of them alone. -/
theorem takeLetters?_eq_some {letter : Char} {letters : List Char} {progress : Progress}
    (taken : takeLetters? o (letter :: letters) = some progress) :
    (∃ request, progress = .decided request ∧ request ≠ .release o') ∨
      letter = 'v' ∧ letters = [] ∧ o.verbose = false ∧
        progress = .reading { o with verbose := true } := by
  rcases takeLetters?_cons_eq_some taken with decides | ⟨short, unset, goesOn⟩
  · exact .inl decides
  · cases letters with
    | nil =>
      cases goesOn
      exact .inr ⟨short, rfl, unset, rfl⟩
    | cons next letters =>
      -- It cannot be given twice, so the next letter decides.
      rcases takeLetters?_cons_eq_some goesOn with decides | ⟨-, again, -⟩
      · exact .inl decides
      · cases again

/-- An option to which a value was given was not given before. -/
theorem exists_argument_of_takeValue? {c : Choice} {value : String} {o₁ : Options}
    (taken : takeValue? o c value = some o₁) (spelling : Spelling)
    (plain : spelling = .apart → isValue value = true) :
    ∃ a : Argument, a.words = Argument.valued c.longName value spelling ∧ a.WellFormed ∧
      o.has a.choice = false ∧ o.followedBy [a] = o₁ := by
  cases c with
  | root =>
    obtain ⟨nonempty, new, same⟩ :=
      (takeValue?_eq_some_iff (a := .root value spelling) rfl).mp taken
    exact ⟨.root value spelling, rfl, ⟨nonempty, plain⟩, new, same⟩
  | config =>
    obtain ⟨nonempty, new, same⟩ :=
      (takeValue?_eq_some_iff (a := .config value spelling) rfl).mp taken
    exact ⟨.config value spelling, rfl, ⟨nonempty, plain⟩, new, same⟩
  | skipSubmodules | nativePlatform | verbose | help | version => simp [takeValue?] at taken

/-- An option that was read without a value was not given before. -/
theorem exists_argument_of_take? {c : Choice} {o₁ : Options}
    (taken : take? o c = some (.reading o₁)) :
    ∃ a : Argument, a.words = ["--" ++ c.longName] ∧ a.WellFormed ∧ o.has a.choice = false ∧
      o.followedBy [a] = o₁ := by
  cases c with
  | root | config | help | version => cases taken
  | skipSubmodules =>
    exact ⟨.skipSubmodules, rfl, trivial,
      (take?_eq_reading_iff (a := .skipSubmodules) rfl).mp taken⟩
  | nativePlatform =>
    exact ⟨.nativePlatform, rfl, trivial,
      (take?_eq_reading_iff (a := .nativePlatform) rfl).mp taken⟩
  | verbose =>
    exact ⟨.verbose false, rfl, trivial,
      (take?_eq_reading_iff (a := .verbose false) rfl).mp taken⟩

section First

variable {arg : String} {rest : List String}

/-- A release was asked for with an option and others behind it. -/
def BeginsWith (o : Options) (args : List String) (o' : Options) : Prop :=
  ∃ (a : Argument) (others : List String), args = a.words ++ others ∧ a.WellFormed ∧
    o.has a.choice = false ∧ readWith? (o.followedBy [a]) others = some (.release o')

theorem beginsWith_of_joined {name value : List Char}
    (shape : arg.toList = '-' :: '-' :: (name ++ '=' :: value)) (plain : '=' ∉ name)
    (read : readWith? o (arg :: rest) = some (.release o')) : BeginsWith o (arg :: rest) o' := by
  rw [readWith?_joined shape plain] at read
  obtain ⟨c, found, read⟩ := Option.bind_eq_some_iff.mp read
  obtain ⟨o₁, taken, goesOn⟩ := Option.bind_eq_some_iff.mp read
  obtain ⟨a, words, wellFormed, new, rfl⟩ := exists_argument_of_takeValue? taken .joined nofun
  refine ⟨a, rest, ?_, wellFormed, new, goesOn⟩
  have text : arg = "--" ++ c.longName ++ "=" ++ String.ofList value := by
    apply String.toList_injective
    rw [shape, ← Choice.lookup_longNames.mp found]
    simp
  rw [words, Argument.valued, text, List.singleton_append]

theorem beginsWith_of_bare {name : List Char} (shape : arg.toList = '-' :: '-' :: name)
    (plain : '=' ∉ name) (more : name ≠ [])
    (read : readWith? o (arg :: rest) = some (.release o')) : BeginsWith o (arg :: rest) o' := by
  rw [readWith?_bare shape plain more] at read
  obtain ⟨c, found, read⟩ := Option.bind_eq_some_iff.mp read
  have text : arg = "--" ++ c.longName := by
    apply String.toList_injective
    rw [shape, ← Choice.lookup_longNames.mp found]
    simp
  split at read
  · cases rest with
    | nil => cases read
    | cons value others =>
      dsimp only at read
      split at read
      · next isValue =>
        obtain ⟨o₁, taken, goesOn⟩ := Option.bind_eq_some_iff.mp read
        obtain ⟨a, words, wellFormed, new, rfl⟩ :=
          exists_argument_of_takeValue? taken .apart fun _ => isValue
        refine ⟨a, others, ?_, wellFormed, new, goesOn⟩
        rw [words, Argument.valued, text]
        rfl
      · cases read
  · split at read
    · next taken =>
      obtain ⟨a, words, wellFormed, new, rfl⟩ := exists_argument_of_take? taken
      refine ⟨a, rest, ?_, wellFormed, new, read⟩
      rw [words, text, List.singleton_append]
    · next taken =>
      cases read
      exact absurd rfl (release_ne_of_take? taken)
    · cases read

theorem beginsWith_of_letters {letter : Char} {letters : List Char}
    (shape : arg.toList = '-' :: letter :: letters) (single : letter ≠ '-')
    (read : readWith? o (arg :: rest) = some (.release o')) : BeginsWith o (arg :: rest) o' := by
  rw [readWith?_letters shape single] at read
  cases taken : takeLetters? o (letter :: letters) with
  | none =>
    rw [taken] at read
    cases read
  | some progress =>
    rw [taken] at read
    rcases takeLetters?_eq_some taken with ⟨request, rfl, other⟩ | ⟨rfl, rfl, unset, rfl⟩
    · cases read
      exact absurd rfl other
    · have text : arg = "-v" := by
        apply String.toList_injective
        rw [shape]
        simp
      have same : o.followedBy [.verbose true] = { o with verbose := true } := by
        simp [Options.followedBy, Argument.root?, Argument.config?, Argument.choice]
      refine ⟨.verbose true, rest, ?_, trivial, unset, ?_⟩
      · rw [Argument.words, if_pos rfl, text, List.singleton_append]
      · rw [same]
        exact read

theorem beginsWith_of_long {name : List Char} (shape : arg.toList = '-' :: '-' :: name)
    (read : readWith? o (arg :: rest) = some (.release o')) :
    (arg = "--" ∧ rest = [] ∧ o' = o) ∨ BeginsWith o (arg :: rest) o' := by
  by_cases more : name = []
  · obtain rfl : arg = "--" := by
      apply String.toList_injective
      rw [shape, more]
      simp
    cases rest with
    | nil =>
      rw [readWith?_end] at read
      cases read
      exact .inl ⟨rfl, rfl, rfl⟩
    | cons next others => simp [readWith?] at read
  · by_cases joined : '=' ∈ name
    · obtain ⟨front, value, rfl, plain⟩ := List.eq_append_cons_of_mem joined
      exact .inr (beginsWith_of_joined shape plain read)
    · exact .inr (beginsWith_of_bare shape joined more read)

/-- The first argument for a release marks the end, or begins an option that was not given
before. -/
theorem beginsWith_of_readWith? (read : readWith? o (arg :: rest) = some (.release o')) :
    (arg = "--" ∧ rest = [] ∧ o' = o) ∨ BeginsWith o (arg :: rest) o' := by
  cases shape : arg.toList with
  | nil => simp [readWith?, shape] at read
  | cons dash short =>
    by_cases marked : dash = '-'
    · subst marked
      cases short with
      | nil => simp [readWith?, shape] at read
      | cons letter letters =>
        by_cases single : letter = '-'
        · subst single
          exact beginsWith_of_long shape read
        · exact .inr (beginsWith_of_letters shape single read)
    · simp [readWith?, shape, marked] at read

end First

/-- Arguments that are read as a release are options that were not given before, and perhaps the
mark of their end. -/
theorem given_of_readWith? {o o' : Options} {args : List String}
    (read : readWith? o args = some (.release o')) :
    ∃ (given : List Argument) (ended : Bool),
      args = given.flatMap Argument.words ++ (if ended then ["--"] else []) ∧
      (∀ a ∈ given, a.WellFormed) ∧ (given.map Argument.choice).Nodup ∧
      (∀ a ∈ given, o.has a.choice = false) ∧ o' = o.followedBy given := by
  match args, read with
  | [], read =>
    rw [readWith?] at read
    cases read
    exact ⟨[], false, rfl, nofun, .nil, nofun, (Options.followedBy_nil o).symm⟩
  | arg :: rest, read =>
    rcases beginsWith_of_readWith? read with
      ⟨rfl, rfl, rfl⟩ | ⟨a, others, split, wellFormed, new, goesOn⟩
    · exact ⟨[], true, rfl, nofun, .nil, nofun, (Options.followedBy_nil o').symm⟩
    · have shorter : others.length < (arg :: rest).length := by
        have some_word := List.length_pos_iff.mpr a.words_ne_nil
        rw [split, List.length_append]
        omega
      obtain ⟨given, ended, rfl, allWellFormed, once, allNew, rfl⟩ := given_of_readWith? goesOn
      have apart : ∀ b ∈ given, o.has b.choice = false ∧ b.choice ≠ a.choice := by
        intro b member
        have new := allNew b member
        rw [Options.has_followedBy, Bool.or_eq_false_iff, decide_eq_false_iff_not] at new
        exact new
      refine ⟨a :: given, ended, ?_, List.forall_mem_cons.mpr ⟨wellFormed, allWellFormed⟩, ?_,
        List.forall_mem_cons.mpr ⟨new, fun b member => (apart b member).1⟩, ?_⟩
      · rw [split, List.flatMap_cons, List.append_assoc]
      · refine List.nodup_cons.mpr ⟨fun member => ?_, once⟩
        obtain ⟨b, given, same⟩ := List.mem_map.mp member
        exact (apart b given).2 same
      · exact (Options.followedBy_append o [a] given).symm
termination_by args.length
decreasing_by exact shorter

end Written

/-- What is read as a release was written for it, and gives the options that were read. -/
theorem read?_eq_release_iff {args : List String} {o : Options} :
    read? args = some (.release o) ↔ ∃ a : Arguments, a.words = args ∧ a.options = o := by
  constructor
  · intro read
    obtain ⟨given, ended, rfl, wellFormed, once, -, rfl⟩ := given_of_readWith? read
    exact ⟨⟨given, wellFormed, once, ended⟩, rfl, rfl⟩
  · rintro ⟨a, rfl, rfl⟩
    exact read?_words a

end Request
end ReleaseBuilder.Console
