/-
# Spelled strings

A string between double quotes is spelled character by character. Most characters may stand as they
are; those that may not are written with a letter or a number behind a backslash, and all others may
be. Whichever spelling is chosen, the string that is read is the one that was spelled, so every
string can be written.
-/

import ReleaseBuilder.Toml.Quotation

namespace ReleaseBuilder.Toml.Quotation

/-- The letters that stand for characters behind a backslash. -/
def letters : List (Char × Char) :=
  [('b', '\x08'), ('t', '\t'), ('n', '\n'), ('f', '\x0C'), ('r', '\r'), ('"', '"'), ('\\', '\\')]

/-- So many digits of base sixteen, in capital or small letters, write a number. -/
structure Writes (count : Nat) (digits : List Char) (n : Nat) : Prop where
  length : digits.length = count
  hexadecimal : digits.all (Scalar.isDigitOf 16) = true
  number : Scalar.numberOf 16 digits = n

/-- The ways of spelling a character between double quotes. -/
inductive Spelled : Char → List Char → Prop
  | plain {c : Char} (plain : isPlain c = true) (noQuote : c ≠ '"') (noBackslash : c ≠ '\\') :
      Spelled c [c]
  | letter {letter c : Char} (pair : (letter, c) ∈ letters) : Spelled c ['\\', letter]
  | short {c : Char} {digits : List Char} (written : Writes 4 digits c.toNat) :
      Spelled c ('\\' :: 'u' :: digits)
  | long {c : Char} {digits : List Char} (written : Writes 8 digits c.toNat) :
      Spelled c ('\\' :: 'U' :: digits)

/-- The ways of spelling a string between double quotes. -/
inductive Spelling : List Char → List Char → Prop
  | nil : Spelling [] []
  | cons {c : Char} {part cs text : List Char} (first : Spelled c part) (later : Spelling cs text) :
      Spelling (c :: cs) (part ++ text)

variable {c : Char} {cs part text digits : List Char}

/-! ## Reading a spelling -/

theorem charOf?_toNat (c : Char) : charOf? c.toNat = some c := by
  have valid : c.toNat.isValidChar := c.valid
  have same := Char.ofNat_toNat c
  rw [Char.ofNat, dif_pos valid] at same
  rw [charOf?, dif_pos valid, same]

theorem escape?_of_mem_letters : ∀ pair ∈ letters, escape? pair.1 = some pair.2 := by
  decide

theorem Writes.numbered? {count : Nat} (written : Writes count digits c.toNat)
    (rest : List Char) : numbered? count ((digits ++ rest).take count) = some c := by
  rw [← written.length, List.take_left, Quotation.numbered?,
    if_pos ⟨rfl, written.hexadecimal⟩, written.number, charOf?_toNat]

theorem escaped?_of_number {letter : Char} {count : Nat} (noLetter : escape? letter = none)
    (counts : digitCount? letter = some count) (written : Writes count digits c.toNat)
    (rest : List Char) : escaped? (letter :: (digits ++ rest)) = some (c, count + 1) := by
  simp only [escaped?, noLetter, counts, written.numbered? rest, Option.map_some]

theorem basic?_of_escaped {length : Nat} (part rest : List Char)
    (escape : escaped? (part ++ rest) = some (c, length)) (whole : part.length = length) :
    basic? ('\\' :: part ++ rest) = before [c] (basic? rest) := by
  rw [List.cons_append, basic?, escape, ← whole]
  simp only [List.drop_left]

theorem basic?_append_of_spelled (spelled : Spelled c part) (rest : List Char) :
    basic? (part ++ rest) = before [c] (basic? rest) := by
  cases spelled with
  | plain plain noQuote noBackslash => simp [basic?, plain]
  | @letter letter c pair =>
    have escape : escaped? ([letter] ++ rest) = some (c, 1) := by
      simp only [List.singleton_append, escaped?, escape?_of_mem_letters _ pair]
    exact basic?_of_escaped [letter] rest escape rfl
  | @short c digits written =>
    exact basic?_of_escaped ('u' :: digits) rest (escaped?_of_number rfl rfl written rest)
      (congrArg (· + 1) written.length)
  | @long c digits written =>
    exact basic?_of_escaped ('U' :: digits) rest (escaped?_of_number rfl rfl written rest)
      (congrArg (· + 1) written.length)

theorem basic?_of_spelling (spelling : Spelling cs text) (rest : List Char) :
    basic? (text ++ '"' :: rest) = some (cs, rest) := by
  induction spelling with
  | nil => simp [basic?]
  | cons first later ih =>
    rw [List.append_assoc, basic?_append_of_spelled first, ih]
    rfl

theorem Spelled.head? (spelled : Spelled c part) :
    ∃ first rest, part = first :: rest ∧ first ≠ '"' := by
  cases spelled with
  | plain plain noQuote noBackslash => exact ⟨c, [], rfl, noQuote⟩
  | letter | short | long => exact ⟨'\\', _, rfl, by decide⟩

/-- A spelling between quotes is no beginning of a string in three quotes, as long as no quote
follows it. -/
theorem string?_of_spelling (spelling : Spelling cs text) {rest : List Char}
    (closed : rest.head? ≠ some '"') :
    string? ('"' :: (text ++ '"' :: rest)) = some (cs, rest) := by
  have line : line? ('"' :: (text ++ '"' :: rest)) = some (cs, rest) :=
    basic?_of_spelling spelling rest
  rw [string?.eq_def]
  split
  · next same =>
    exfalso
    -- The third quote would stand behind the empty string, or begin the spelling of another.
    cases spelling with
    | nil =>
      simp only [List.nil_append, List.cons.injEq, true_and] at same
      rw [same] at closed
      exact closed rfl
    | cons first later =>
      obtain ⟨c, more, rfl, noQuote⟩ := first.head?
      simp only [List.cons_append, List.cons.injEq, true_and] at same
      exact noQuote same.1
  · next same => simp at same
  · exact line

/-! ## Choosing a spelling -/

/-- Every small number is written by four digits. -/
theorem writes_of_small : ∀ n < 128,
    Writes 4 ['0', '0', Nat.digitChar (n / 16), Nat.digitChar (n % 16)] n := by
  have digits : ∀ n < 128,
      ['0', '0', Nat.digitChar (n / 16), Nat.digitChar (n % 16)].all (Scalar.isDigitOf 16) = true ∧
        Scalar.numberOf 16 ['0', '0', Nat.digitChar (n / 16), Nat.digitChar (n % 16)] = n := by
    decide
  exact fun n small => ⟨rfl, (digits n small).1, (digits n small).2⟩

theorem exists_spelled (c : Char) : ∃ part, Spelled c part := by
  by_cases plain : isPlain c = true
  · by_cases quote : c = '"'
    · exact ⟨['\\', '"'], .letter (by rw [quote]; decide)⟩
    · by_cases backslash : c = '\\'
      · exact ⟨['\\', '\\'], .letter (by rw [backslash]; decide)⟩
      · exact ⟨_, .plain plain quote backslash⟩
  · have small : c.toNat < 128 := by
      rw [isPlain] at plain
      simp only [Bool.or_eq_true, decide_eq_true_eq, Bool.and_eq_true, not_or, not_and] at plain
      omega
    exact ⟨_, .short (writes_of_small _ small)⟩

/-- A string without quotes, backslashes and controls may stand as it is. -/
theorem spelling_of_plain (plain : cs.all (fun c => isPlain c && c ≠ '"' && c ≠ '\\') = true) :
    Spelling cs cs := by
  induction cs with
  | nil => exact .nil
  | cons c cs ih =>
    simp only [List.all_cons, Bool.and_eq_true, decide_eq_true_eq] at plain
    obtain ⟨⟨⟨isPlain, noQuote⟩, noBackslash⟩, others⟩ := plain
    exact .cons (.plain isPlain noQuote noBackslash) (ih (by simpa using others))

/-- Every string can be spelled. -/
theorem exists_spelling (cs : List Char) : ∃ text, Spelling cs text := by
  induction cs with
  | nil => exact ⟨[], .nil⟩
  | cons c cs ih =>
    obtain ⟨part, first⟩ := exists_spelled c
    obtain ⟨text, later⟩ := ih
    exact ⟨part ++ text, .cons first later⟩

end ReleaseBuilder.Toml.Quotation
