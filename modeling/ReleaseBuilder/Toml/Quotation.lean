/-
# Quoted strings

The four ways of quoting a string: between double quotes with escapes, between single
quotes as it stands, and both over several lines between three quotes. Each reader gets
the text behind the opening quotes and gives the string with the rest of the text behind
the closing ones.

Over several lines, a line feed at the very beginning is dropped, a line ending is read as
a line feed, and up to two quotes may stand anywhere, even before the closing ones.
-/

import ReleaseBuilder.Toml.Scalar

namespace ReleaseBuilder.Toml.Quotation

/-- Whether a character may stand in a text at all: no control other than the tab. -/
def isPlain (c : Char) : Bool :=
  c = '\t' || (0x20 ≤ c.toNat && c.toNat ≠ 0x7F)

/-- The character of a one-letter escape. -/
def escape? : Char → Option Char
  | 'b' => some '\x08'
  | 't' => some '\t'
  | 'n' => some '\n'
  | 'f' => some '\x0C'
  | 'r' => some '\r'
  | '"' => some '"'
  | '\\' => some '\\'
  | _ => none

/-- The character of a number, if the number is one of a character. -/
def charOf? (n : Nat) : Option Char :=
  if h : n.isValidChar then some (Char.ofNatAux n h) else none

/-- How many digits follow the letter of a numbered escape. -/
def digitCount? : Char → Option Nat
  | 'u' => some 4
  | 'U' => some 8
  | _ => none

/-- The character that digits of base sixteen number, if there are as many as there must be. -/
def numbered? (count : Nat) (digits : List Char) : Option Char :=
  if digits.length = count ∧ digits.all (Scalar.isDigitOf 16) then
    charOf? (Scalar.numberOf 16 digits)
  else none

/-- The character of an escape, given what follows the backslash, and how many characters the
escape has behind the backslash. -/
def escaped? : List Char → Option (Char × Nat)
  | [] => none
  | letter :: rest =>
    match escape? letter, digitCount? letter with
    | some c, _ => some (c, 1)
    | none, some count => (numbered? count (rest.take count)).map fun c => (c, count + 1)
    | none, none => none

/-- Add characters before those of a string that was read. -/
def before (cs : List Char) (read : Option (List Char × List Char)) :
    Option (List Char × List Char) :=
  read.map fun (string, rest) => (cs ++ string, rest)

/-- A string in double quotes. -/
def basic? : List Char → Option (List Char × List Char)
  | [] => none
  | '"' :: rest => some ([], rest)
  | '\\' :: rest =>
    match escaped? rest with
    | some (c, length) => before [c] (basic? (rest.drop length))
    | none => none
  | c :: rest => if isPlain c then before [c] (basic? rest) else none
termination_by cs => cs.length

/-- A string in single quotes. -/
def literal? : List Char → Option (List Char × List Char)
  | [] => none
  | '\'' :: rest => some ([], rest)
  | c :: rest => if isPlain c then before [c] (literal? rest) else none

/-- The rest of a text behind a line ending at its front. -/
def behindLineEnd? : List Char → Option (List Char)
  | '\n' :: rest => some rest
  | '\r' :: '\n' :: rest => some rest
  | _ => none

/-- Drop a line ending at the front. -/
def dropLineEnd (cs : List Char) : List Char :=
  (behindLineEnd? cs).getD cs

/-- Whether a character parts words on a line. -/
def isSpacing (c : Char) : Bool :=
  c = ' ' || c = '\t'

/-- Drop blanks and line endings at the front. -/
def dropBlankLines : List Char → List Char
  | '\r' :: '\n' :: rest => dropBlankLines rest
  | c :: rest => if isSpacing c || c = '\n' then dropBlankLines rest else c :: rest
  | [] => []

theorem length_dropBlankLines_le (cs : List Char) :
    (dropBlankLines cs).length ≤ cs.length := by
  fun_induction dropBlankLines cs with
  | case1 rest ih => simp only [List.length_cons]; omega
  | case2 c rest _ _ ih => simp only [List.length_cons]; omega
  | case3 => exact Nat.le_refl _
  | case4 => exact Nat.le_refl _

/-- What a backslash at the end of a line skips: the blanks behind it, the line ending, and
all blank text after that. -/
def skipped? (cs : List Char) : Option (List Char) :=
  (behindLineEnd? (cs.dropWhile isSpacing)).map dropBlankLines

theorem length_lt_of_behindLineEnd? {cs rest : List Char} (h : behindLineEnd? cs = some rest) :
    rest.length < cs.length := by
  unfold behindLineEnd? at h
  split at h
  · simp_all
  · cases h
    simp only [List.length_cons]
    omega
  · cases h

theorem length_lt_of_skipped? {cs rest : List Char} (h : skipped? cs = some rest) :
    rest.length < cs.length := by
  obtain ⟨line, found, rfl⟩ := Option.map_eq_some_iff.mp h
  have dropped := length_dropBlankLines_le line
  have ended := length_lt_of_behindLineEnd? found
  have blanks : (cs.dropWhile isSpacing).length ≤ cs.length :=
    (List.dropWhile_suffix _).sublist.length_le
  omega

/-- How many quotes stand at the front. -/
def quoteCount (quote : Char) (cs : List Char) : Nat :=
  (cs.takeWhile (· = quote)).length

/-- A run of quotes inside a string over several lines, told by its length. -/
inductive QuoteRun where
  /-- The run belongs to the string. -/
  | inside
  /-- The run closes the string; the given number of quotes before the last three belong
  to it. -/
  | closing (own : Nat)

/-- What a run of quotes does. -/
def QuoteRun.ofLength (n : Nat) : QuoteRun :=
  if n < 3 then .inside else .closing (min (n - 3) 2)

/-- The string and the rest of the text where a run of quotes closes the string. -/
def closeAt (quote : Char) (own : Nat) (cs : List Char) : List Char × List Char :=
  (List.replicate own quote, cs.drop (own + 3))

/-- A string over several lines, in three double quotes. -/
def basicLines? : List Char → Option (List Char × List Char)
  | [] => none
  | '\\' :: rest =>
    match escaped? rest, _skip : skipped? rest with
    | some (c, length), _ => before [c] (basicLines? (rest.drop length))
    | none, some later => basicLines? later
    | none, none => none
  | '\r' :: '\n' :: rest => before ['\n'] (basicLines? rest)
  | c :: rest =>
    if c = '"' then
      match QuoteRun.ofLength (quoteCount '"' (c :: rest)) with
      | .closing own => some (closeAt '"' own (c :: rest))
      | .inside => before [c] (basicLines? rest)
    else if isPlain c || c = '\n' then before [c] (basicLines? rest)
    else none
termination_by cs => cs.length
decreasing_by
  · simp only [List.length_drop, List.length_cons]
    omega
  · have := length_lt_of_skipped? _skip
    simp only [List.length_cons]
    omega
  · simp only [List.length_cons]
    omega
  · simp
  · simp

/-- A string over several lines, in three single quotes. -/
def literalLines? : List Char → Option (List Char × List Char)
  | [] => none
  | '\r' :: '\n' :: rest => before ['\n'] (literalLines? rest)
  | c :: rest =>
    if c = '\'' then
      match QuoteRun.ofLength (quoteCount '\'' (c :: rest)) with
      | .closing own => some (closeAt '\'' own (c :: rest))
      | .inside => before [c] (literalLines? rest)
    else if isPlain c || c = '\n' then before [c] (literalLines? rest)
    else none

/-- A string on one line, with its quotes. -/
def line? : List Char → Option (List Char × List Char)
  | '"' :: rest => basic? rest
  | '\'' :: rest => literal? rest
  | _ => none

/-- A string in any quotes. -/
def string? : List Char → Option (List Char × List Char)
  | '"' :: '"' :: '"' :: rest => basicLines? (dropLineEnd rest)
  | '\'' :: '\'' :: '\'' :: rest => literalLines? (dropLineEnd rest)
  | cs => line? cs

end ReleaseBuilder.Toml.Quotation
