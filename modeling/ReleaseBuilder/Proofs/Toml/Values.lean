/-
# Written values

How strings, whole numbers and arrays of them are written, and that they are read as what was
written. A string ends at its second quote and an array at its bracket; a number ends where
something follows that can be no part of a word.
-/

import Mathlib.Data.List.Forall2
import ReleaseBuilder.Proofs.Toml.Spelling
import ReleaseBuilder.Toml.Expression

namespace ReleaseBuilder.Toml

open Expression (atom? dropGaps items? value?)
open Quotation (Spelling isSpacing)

/-! ## Writing -/

/-- A string between double quotes, in one of its spellings. -/
def Quoted (s : String) (text : List Char) : Prop :=
  ∃ spelled, Spelling s.toList spelled ∧ text = '"' :: (spelled ++ ['"'])

/-- A whole number in decimal. -/
def Decimal (n : Nat) (text : List Char) : Prop :=
  text = Nat.toDigits 10 n

instance (n : Nat) (text : List Char) : Decidable (Decimal n text) :=
  inferInstanceAs (Decidable (_ = _))

/-- Items with commas between them, and with blanks before and behind each. -/
inductive Listed {α : Type} (one : α → List Char → Prop) : List α → List Char → Prop
  | none {gap : List Char} (blank : gap.all isSpacing = true) : Listed one [] gap
  | last {a : α} {front text back : List Char} (blank : front.all isSpacing = true)
      (written : one a text) (blankBehind : back.all isSpacing = true) :
      Listed one [a] (front ++ (text ++ back))
  | more {a b : α} {as : List α} {front text back later : List Char}
      (blank : front.all isSpacing = true) (written : one a text)
      (blankBehind : back.all isSpacing = true) (goesOn : Listed one (b :: as) later) :
      Listed one (a :: b :: as) (front ++ (text ++ (back ++ ',' :: later)))

/-- An array in brackets. -/
def Bracketed {α : Type} (one : α → List Char → Prop) (as : List α) (text : List Char) : Prop :=
  ∃ listed, Listed one as listed ∧ text = '[' :: (listed ++ [']'])

/-! ## Reading -/

/-- What may follow a value: no part of a word, and no quote. -/
def Closed (rest : List Char) : Prop :=
  ∀ c, rest.head? = some c → Scalar.isWordChar c = false ∧ c ≠ '"'

/-- What a gap between the items of an array begins with. -/
def gapMarks : List Char := [' ', '\t', '\r', '\n', '#']

/-- A text is read as a good value, whatever may follow it. -/
structure Reads (depth : Nat) (text : List Char) (good : Value → Prop) : Prop where
  begins : ∃ c behind, text = c :: behind ∧ c ∉ gapMarks ∧ c ≠ ']'
  read : ∀ rest, Closed rest →
    ∃ value, value? depth (text ++ rest) = some (value, rest) ∧ good value

variable {depth : Nat} {text rest : List Char}

theorem Reads.imp {good fine : Value → Prop} (reads : Reads depth text good)
    (implies : ∀ value, good value → fine value) : Reads depth text fine where
  begins := reads.begins
  read := by
    intro rest closed
    obtain ⟨value, isRead, isGood⟩ := reads.read rest closed
    exact ⟨value, isRead, implies value isGood⟩

/-- What does not begin with a bracket or a brace is a string or a word. -/
theorem value?_eq_atom? {c : Char} (noBracket : c ≠ '[') (noBrace : c ≠ '\x7b') :
    value? depth (c :: rest) = atom? (c :: rest) := by
  cases depth with
  | zero => rfl
  | succ depth =>
    rw [Expression.value?.eq_def]
    split
    · next same => cases same
    · next same =>
      cases same
      split
      · next same => exact absurd (List.cons.inj same).1 noBracket
      · next same => exact absurd (List.cons.inj same).1 noBrace
      · rfl

/-! ## Strings -/

theorem exists_quoted (s : String) : ∃ text, Quoted s text := by
  obtain ⟨spelled, spelling⟩ := Quotation.exists_spelling s.toList
  exact ⟨_, spelled, spelling, rfl⟩

theorem reads_quoted {s : String} (quoted : Quoted s text) :
    Reads depth text fun value => ∃ span, value = .string span s where
  begins := by
    obtain ⟨spelled, -, rfl⟩ := quoted
    exact ⟨'"', _, rfl, by decide, by decide⟩
  read := by
    intro rest closed
    obtain ⟨spelled, spelling, rfl⟩ := quoted
    have openEnd : rest.head? ≠ some '"' := fun quote => (closed _ quote).2 rfl
    have read := Quotation.string?_of_spelling spelling openEnd
    have whole : '"' :: (spelled ++ ['"']) ++ rest = '"' :: (spelled ++ '"' :: rest) := by simp
    rw [whole, value?_eq_atom? (by decide) (by decide), atom?, read]
    exact ⟨_, rfl, _, congrArg _ String.ofList_toList⟩

/-! ## Numbers -/

section

variable {digits : List Char}

theorem isWordChar_of_isDigit {c : Char} (digit : c.isDigit = true) :
    Scalar.isWordChar c = true := by
  simp [Scalar.isWordChar, Char.isAlphanum, digit]

theorem splitOn_of_digits (all : ∀ c ∈ digits, c.isDigit = true) {mark : Char}
    (noDigit : mark.isDigit = false) : digits.splitOn mark = [digits] := by
  refine List.splitOn_eq_singleton fun member => ?_
  rw [all mark member] at noDigit
  cases noDigit

theorem not_isDate_of_digits (all : ∀ c ∈ digits, c.isDigit = true) :
    Scalar.isDate digits = false := by
  rw [Scalar.isDate, splitOn_of_digits all (by decide)]

theorem not_isTime_of_digits (all : ∀ c ∈ digits, c.isDigit = true) :
    Scalar.isTime digits = false := by
  rw [Scalar.isTime, splitOn_of_digits all (by decide)]

theorem not_isMoment_of_digits (all : ∀ c ∈ digits, c.isDigit = true) :
    Scalar.isMoment digits = false := by
  have front : Scalar.isDate (digits.take Scalar.dateLength) = false :=
    not_isDate_of_digits fun c member => all c (List.mem_of_mem_take member)
  simp [Scalar.isMoment, not_isDate_of_digits all, not_isTime_of_digits all, front]

theorem takeWhile_of_digits (all : ∀ c ∈ digits, c.isDigit = true) (closed : Closed rest) :
    (digits ++ rest).takeWhile Scalar.isWordChar = digits := by
  rw [List.takeWhile_append_of_pos fun c member => isWordChar_of_isDigit (all c member)]
  cases rest with
  | nil => simp
  | cons c rest => rw [List.takeWhile_cons_of_neg (by simp [(closed c rfl).1]), List.append_nil]

theorem word_of_digits (all : ∀ c ∈ digits, c.isDigit = true) (closed : Closed rest) :
    Scalar.word (digits ++ rest) = digits := by
  simp only [Scalar.word, takeWhile_of_digits all closed, List.drop_left,
    not_isDate_of_digits all, Bool.and_false, Bool.false_eq_true, if_false]
  split <;> rfl

theorem digit?_of_isDigit {c : Char} (digit : c.isDigit = true) :
    Scalar.digit? c = some (c.toNat - '0'.toNat) := by
  rw [Scalar.digit?, if_pos digit]

theorem isDigitOf_ten {c : Char} (digit : c.isDigit = true) : Scalar.isDigitOf 10 c = true := by
  rw [Scalar.isDigitOf, digit?_of_isDigit digit, Option.any_some, decide_eq_true_eq]
  rw [Char.isDigit, Bool.and_eq_true, decide_eq_true_eq, decide_eq_true_eq] at digit
  have high : c.toNat ≤ '9'.toNat := digit.2
  simp only [Char.reduceToNat] at high ⊢
  omega

theorem numberOf_ten (all : ∀ c ∈ digits, c.isDigit = true) :
    Scalar.numberOf 10 digits = Nat.ofDigitChars 10 digits 0 := by
  have values : digits.filterMap Scalar.digit? = digits.map fun c => c.toNat - '0'.toNat := by
    rw [← List.filterMap_eq_map]
    exact List.filterMap_congr fun c member => digit?_of_isDigit (all c member)
  rw [Scalar.numberOf, values, List.foldl_map, Nat.ofDigitChars]
  simp only [Nat.mul_comm]

theorem areDigits_ten (all : ∀ c ∈ digits, c.isDigit = true) (filled : digits ≠ []) :
    Scalar.areDigits 10 digits = true := by
  induction digits with
  | nil => exact absurd rfl filled
  | cons c rest ih =>
    have here := isDigitOf_ten (all c (by simp))
    have later := fun d member => all d (List.mem_cons_of_mem c member)
    cases rest with
    | nil => exact here
    | cons d rest =>
      have noMark : d ≠ '_' := by
        rintro rfl
        exact absurd (later '_' (by simp)) (by decide)
      have goesOn := ih later (by simp)
      rw [Scalar.areDigits.eq_def]
      split
      · next same => cases same
      · next same => cases same
      · next same =>
        cases same
        exact absurd rfl noMark
      · next same =>
        cases same
        rw [here, goesOn]
        rfl

end

theorem isDigit_of_decimal {n : Nat} (decimal : Decimal n text) : ∀ c ∈ text, c.isDigit = true := by
  subst decimal
  exact fun c member => Nat.isDigit_of_mem_toDigits (by decide) (by decide) member

theorem head?_toDigits_ne {n : Nat} (positive : 0 < n) :
    (Nat.toDigits 10 n).head? ≠ some '0' := by
  induction n using Nat.strongRecOn with
  | ind n ih =>
    rw [Nat.toDigits_eq_if (by decide)]
    split_ifs with small
    · exact (by decide : ∀ n < 10, 0 < n → [Nat.digitChar n].head? ≠ some '0') n small positive
    · rw [List.head?_append_of_ne_nil _ Nat.toDigits_ne_nil]
      exact ih (n / 10) (by omega) (by omega)

/-- A number is written without a needless zero. -/
theorem areWhole_of_decimal {n : Nat} (decimal : Decimal n text) : Scalar.areWhole text = true := by
  have digits := areDigits_ten (isDigit_of_decimal decimal) (decimal ▸ Nat.toDigits_ne_nil)
  rw [Scalar.areWhole, digits, Bool.true_and, Bool.or_eq_true]
  subst decimal
  cases n with
  | zero => exact .inl rfl
  | succ n => exact .inr (by simpa using head?_toDigits_ne n.succ_pos)

theorem signed_of_digits {digits : List Char} (all : ∀ c ∈ digits, c.isDigit = true) :
    Scalar.signed digits = (false, digits) := by
  rw [Scalar.signed.eq_def]
  split
  · exact absurd (all '-' (by simp)) (by decide)
  · exact absurd (all '+' (by simp)) (by decide)
  · rfl

theorem integer?_of_decimal {n : Nat} (decimal : Decimal n text) (small : n < Scalar.integerLimit) :
    Scalar.integer? text = some (n : Int) := by
  have all := isDigit_of_decimal decimal
  have number : Scalar.numberOf 10 text = n := by
    rw [numberOf_ten all, decimal]
    exact Nat.ofDigitChars_ten_toDigits
  have inRange : Scalar.inRange n = true := by
    rw [Scalar.inRange, Bool.and_eq_true, decide_eq_true_eq, decide_eq_true_eq]
    omega
  rw [Scalar.integer?.eq_def]
  split
  · exact absurd (all 'x' (by simp)) (by decide)
  · exact absurd (all 'o' (by simp)) (by decide)
  · exact absurd (all 'b' (by simp)) (by decide)
  · simp only [Scalar.decimal?, signed_of_digits all, areWhole_of_decimal decimal, number, if_true,
      Bool.false_eq_true, if_false, Scalar.bounded?, inRange]

theorem ofWord?_of_decimal {n : Nat} (decimal : Decimal n text) (small : n < Scalar.integerLimit) :
    Scalar.ofWord? text = some (.integer n) := by
  have all := isDigit_of_decimal decimal
  rw [Scalar.ofWord?, if_neg, if_neg, not_isMoment_of_digits all, if_neg Bool.false_ne_true,
    integer?_of_decimal decimal small, Option.map_some, Option.some_or]
  · rintro rfl
    exact absurd (all 'f' (by simp)) (by decide)
  · rintro rfl
    exact absurd (all 't' (by simp)) (by decide)

theorem reads_decimal {n : Nat} (decimal : Decimal n text) (small : n < Scalar.integerLimit) :
    Reads depth text fun value => ∃ span, value = .integer span n := by
  have all := isDigit_of_decimal decimal
  obtain ⟨c, behind, rfl⟩ := List.exists_cons_of_ne_nil (decimal ▸ Nat.toDigits_ne_nil : text ≠ [])
  have digit : c.isDigit = true := all c (by simp)
  have apart {d : Char} (noDigit : d.isDigit = false) : c ≠ d := by
    rintro rfl
    rw [digit] at noDigit
    cases noDigit
  refine ⟨⟨c, behind, rfl, fun mark => ?_, apart (by decide)⟩, fun rest closed => ?_⟩
  · have noDigit : gapMarks.all (fun d => !d.isDigit) = true := by decide
    simpa [digit] using List.all_eq_true.mp noDigit c mark
  · have word := word_of_digits all closed
    have behindWord : (c :: (behind ++ rest)).drop (c :: behind).length = rest := List.drop_left
    rw [List.cons_append] at word ⊢
    rw [value?_eq_atom? (apart (by decide)) (apart (by decide)), Expression.atom?.eq_def]
    split
    · next same => exact absurd (List.cons.inj same).1 (apart (by decide))
    · next same => exact absurd (List.cons.inj same).1 (apart (by decide))
    · simp only [word, behindWord, ofWord?_of_decimal decimal small]
      exact ⟨_, rfl, _, rfl⟩

/-! ## Arrays -/

theorem dropGaps_cons_of_isSpacing {c : Char} (blank : isSpacing c = true) :
    dropGaps (c :: rest) = dropGaps rest := by
  rw [dropGaps.eq_def]
  split
  · next same =>
    cases same
    exact absurd blank (by decide)
  · next same =>
    cases same
    simp [blank]
  · next same => cases same

theorem dropGaps_append {gap : List Char} (blank : gap.all isSpacing = true) :
    dropGaps (gap ++ rest) = dropGaps rest := by
  induction gap with
  | nil => rfl
  | cons c gap ih =>
    rw [List.all_cons, Bool.and_eq_true] at blank
    rw [List.cons_append, dropGaps_cons_of_isSpacing blank.1, ih blank.2]

theorem dropGaps_cons_of_notMem {c : Char} (solid : c ∉ gapMarks) :
    dropGaps (c :: rest) = c :: rest := by
  simp only [gapMarks, List.mem_cons, List.not_mem_nil, or_false, not_or] at solid
  obtain ⟨noSpace, noTab, noReturn, noFeed, noComment⟩ := solid
  rw [dropGaps.eq_def]
  split
  · next same => exact absurd (List.cons.inj same).1 noReturn
  · next same =>
    cases same
    simp [isSpacing, noSpace, noTab, noFeed, noComment]
  · next same => cases same

section

variable {α : Type} {one : α → List Char → Prop} {means : Value → α → Prop}

theorem exists_bracketed (exists_one : ∀ a, ∃ text, one a text) (as : List α) :
    ∃ text, Bracketed one as text := by
  have exists_listed (as : List α) : ∃ listed, Listed one as listed := by
    induction as with
    | nil => exact ⟨[], .none rfl⟩
    | cons a as ih =>
      obtain ⟨text, written⟩ := exists_one a
      cases as with
      | nil => exact ⟨[] ++ (text ++ []), .last rfl written rfl⟩
      | cons b as =>
        obtain ⟨later, goesOn⟩ := ih
        exact ⟨[] ++ (text ++ ([] ++ ',' :: later)), .more rfl written rfl goesOn⟩
  obtain ⟨listed, isListed⟩ := exists_listed as
  exact ⟨_, listed, isListed, rfl⟩

theorem closed_of_gap {back : List Char} (blank : back.all isSpacing = true) {c : Char}
    (closed : Closed [c]) (rest : List Char) : Closed (back ++ c :: rest) := by
  intro d first
  cases back with
  | nil => exact closed d first
  | cons e back =>
    cases first
    rw [List.all_cons, Bool.and_eq_true, isSpacing, Bool.or_eq_true, decide_eq_true_eq,
      decide_eq_true_eq] at blank
    rcases blank.1 with rfl | rfl <;> decide

theorem closed_comma : Closed [','] := by
  rintro c ⟨⟩
  decide

theorem closed_bracket : Closed [']'] := by
  rintro c ⟨⟩
  decide

section

variable {item : Expression.ValueReader} {cs behind : List Char} {c : Char} {value : Value}

theorem items?_of_last (atItem : dropGaps cs = c :: text) (noEnd : c ≠ ']')
    (isRead : item (c :: text) = some (value, behind)) (ends : dropGaps behind = ']' :: rest) :
    items? item cs = some ([value], rest) := by
  rw [items?.eq_def, atItem]
  split
  · next same => exact absurd (List.cons.inj same).1 noEnd
  · simp only [isRead, ends]

theorem items?_of_more {more : List Char} {values : List Value} (atItem : dropGaps cs = c :: text)
    (noEnd : c ≠ ']') (isRead : item (c :: text) = some (value, behind))
    (goesOn : dropGaps behind = ',' :: more) (shorter : more.length < cs.length)
    (others : items? item more = some (values, rest)) :
    items? item cs = some (value :: values, rest) := by
  rw [items?.eq_def, atItem]
  split
  · next same => exact absurd (List.cons.inj same).1 noEnd
  · simp only [isRead, goesOn, if_pos shorter, others, Option.map_some]

end

theorem items?_of_listed
    (reads : ∀ a text, one a text → Reads depth text fun value => means value a)
    {as : List α} {listed : List Char} (h : Listed one as listed) (rest : List Char) :
    ∃ values, items? (value? depth) (listed ++ ']' :: rest) = some (values, rest) ∧
      List.Forall₂ means values as := by
  have endSolid : ']' ∉ gapMarks := by decide
  -- Behind an item there is a blank, a comma or the bracket, and each of them closes it.
  induction h with
  | none blank =>
    refine ⟨[], ?_, .nil⟩
    rw [items?.eq_def, dropGaps_append blank, dropGaps_cons_of_notMem endSolid]
    rfl
  | @last a front text back blank written blankBehind =>
    obtain ⟨value, isRead, means⟩ :=
      (reads a text written).read _ (closed_of_gap blankBehind closed_bracket rest)
    obtain ⟨c, behind, rfl, solid, noEnd⟩ := (reads a text written).begins
    refine ⟨[value], items?_of_last ?_ noEnd isRead ?_, .cons means .nil⟩
    · rw [List.append_assoc, dropGaps_append blank, List.append_assoc]
      exact dropGaps_cons_of_notMem solid
    · rw [dropGaps_append blankBehind, dropGaps_cons_of_notMem endSolid]
  | @more a b as front text back later blank written blankBehind goesOn ih =>
    obtain ⟨value, isRead, means⟩ := (reads a text written).read _
      (closed_of_gap blankBehind closed_comma (later ++ ']' :: rest))
    obtain ⟨c, behind, rfl, solid, noEnd⟩ := (reads a text written).begins
    obtain ⟨values, others, mean⟩ := ih
    refine ⟨value :: values, items?_of_more ?_ noEnd isRead ?_ ?_ others, .cons means mean⟩
    · rw [List.append_assoc, dropGaps_append blank, List.append_assoc, List.append_assoc]
      exact dropGaps_cons_of_notMem solid
    · rw [dropGaps_append blankBehind, dropGaps_cons_of_notMem (by decide)]
    · simp only [List.length_append, List.length_cons]
      omega

theorem reads_bracketed
    (reads : ∀ a text, one a text → Reads depth text fun value => means value a)
    {as : List α} (bracketed : Bracketed one as text) :
    Reads (depth + 1) text fun value =>
      ∃ span values, value = .array span values ∧ List.Forall₂ means values as where
  begins := by
    obtain ⟨listed, -, rfl⟩ := bracketed
    exact ⟨'[', _, rfl, by decide, by decide⟩
  read := by
    intro rest closed
    obtain ⟨listed, isListed, rfl⟩ := bracketed
    obtain ⟨values, isRead, mean⟩ := items?_of_listed reads isListed rest
    have whole : '[' :: (listed ++ [']']) ++ rest = '[' :: (listed ++ ']' :: rest) := by simp
    rw [whole, value?, isRead]
    exact ⟨_, rfl, _, values, rfl, mean⟩

end

end ReleaseBuilder.Toml
