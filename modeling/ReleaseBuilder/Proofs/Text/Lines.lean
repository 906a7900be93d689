/-
# How a text falls into lines

`Lines` tells the lines of a text by what may stand between them, without taking the text apart
anywhere. There is one way only in which a text falls into lines, and `linesOf` finds it.
-/

import ReleaseBuilder.Text.Lines
import ReleaseBuilder.Text.Search

namespace ReleaseBuilder.Text

/-- A text and its lines. A line feed ends a line, alone or with a carriage return right before
it. What stands behind the last line feed is a line as well if there is something. -/
inductive Lines : List Char → List (List Char) → Prop
  | done : Lines [] []
  | last {line : List Char} (filled : line ≠ []) (whole : '\n' ∉ line) : Lines line [line]
  | feed {line rest : List Char} {lines : List (List Char)} (whole : '\n' ∉ line)
      (plain : line.getLast? ≠ some '\r') (goesOn : Lines rest lines) :
      Lines (line ++ '\n' :: rest) (line :: lines)
  | returned {line rest : List Char} {lines : List (List Char)} (whole : '\n' ∉ line)
      (goesOn : Lines rest lines) : Lines (line ++ '\r' :: '\n' :: rest) (line :: lines)

variable {cs line rest : List Char}

theorem Lines.whole_of_mem {lines : List (List Char)} (h : Lines cs lines)
    (member : line ∈ lines) : '\n' ∉ line := by
  induction h with
  | done => cases member
  | last filled whole =>
    rw [List.mem_singleton.mp member]
    exact whole
  | feed whole plain goesOn ih | returned whole goesOn ih =>
    rcases List.mem_cons.mp member with rfl | later
    · exact whole
    · exact ih later

theorem linesOf_of_filled (filled : line ≠ []) (whole : '\n' ∉ line) : linesOf line = [line] := by
  rw [linesOf, List.splitOn_eq_singleton whole, linesOfPieces, if_neg (by simpa using filled)]

/-- The first line feed ends the first line. -/
theorem linesOf_append_feed (whole : '\n' ∉ line) (rest : List Char) :
    linesOf (line ++ '\n' :: rest) = dropReturn line :: linesOf rest := by
  obtain ⟨next, more, split⟩ := List.exists_cons_of_ne_nil (List.splitOn_ne_nil '\n' rest)
  rw [linesOf, List.splitOn_append_cons_self_of_not_mem whole, linesOf, split]
  rfl

@[simp] theorem dropReturn_concat (line : List Char) : dropReturn (line ++ ['\r']) = line := by
  simp [dropReturn]

theorem linesOf_append_return (whole : '\n' ∉ line) (rest : List Char) :
    linesOf (line ++ '\r' :: '\n' :: rest) = line :: linesOf rest := by
  have wholeToo : '\n' ∉ line ++ ['\r'] := by simp [whole]
  rw [List.append_cons, linesOf_append_feed wholeToo, dropReturn_concat]

theorem lines_linesOf (cs : List Char) : Lines cs (linesOf cs) := by
  match found : splitFirst? '\n' cs with
  | none =>
    have whole : '\n' ∉ cs := splitFirst?_eq_none_iff.mp found
    by_cases empty : cs = []
    · subst empty
      rw [linesOf_nil]
      exact .done
    · rw [linesOf_of_filled empty whole]
      exact .last empty whole
  | some (line, rest) =>
    obtain ⟨split, whole⟩ := eq_append_of_splitFirst? found
    have goesOn := lines_linesOf rest
    rw [split]
    by_cases returned : line.getLast? = some '\r'
    · obtain ⟨front, rfl⟩ := List.getLast?_eq_some_iff.mp returned
      have wholeFront : '\n' ∉ front := fun member => whole (List.mem_append_left _ member)
      rw [← List.append_cons, linesOf_append_return wholeFront]
      exact .returned wholeFront goesOn
    · rw [linesOf_append_feed whole, dropReturn, if_neg returned]
      exact .feed whole returned goesOn
termination_by cs.length
decreasing_by exact length_lt_of_splitFirst? found

theorem lines_iff {lines : List (List Char)} : Lines cs lines ↔ linesOf cs = lines := by
  constructor
  · intro h
    induction h with
    | done => exact linesOf_nil
    | last filled whole => exact linesOf_of_filled filled whole
    | feed whole plain goesOn ih => rw [linesOf_append_feed whole, dropReturn, if_neg plain, ih]
    | returned whole goesOn ih => rw [linesOf_append_return whole, ih]
  · rintro rfl
    exact lines_linesOf cs

/-! ## Joined texts -/

/-- A line ending that can be put behind a text without taking part of it into the ending. -/
inductive Ends : List Char → List Char → Prop
  | feed {cs : List Char} (plain : cs.getLast? ≠ some '\r') : Ends cs ['\n']
  | returned {cs : List Char} : Ends cs ['\r', '\n']

variable {ending : List Char}

theorem Ends.of_suffix (ends : Ends cs ending) (suffix : rest <:+ cs) : Ends rest ending := by
  cases ends with
  | returned => exact .returned
  | feed plain =>
    refine .feed fun returned => plain ?_
    obtain ⟨front, rfl⟩ := List.getLast?_eq_some_iff.mp returned
    obtain ⟨before, rfl⟩ := suffix
    simp

theorem Ends.lines_cons {lines : List (List Char)} (ends : Ends line ending) (whole : '\n' ∉ line)
    (goesOn : Lines rest lines) : Lines (line ++ (ending ++ rest)) (line :: lines) := by
  cases ends with
  | feed plain => exact .feed whole plain goesOn
  | returned => exact .returned whole goesOn

/-- The lines of two texts with an ending between them are those of the one and those of the other.
Where the first text is at the beginning of a line, the ending makes an empty one. -/
theorem Lines.join {lines more : List (List Char)} (first : Lines cs lines)
    (ends : Ends cs ending) (second : Lines rest more) :
    ∃ blank, (∀ line ∈ blank, line = []) ∧
      Lines (cs ++ (ending ++ rest)) (lines ++ (blank ++ more)) := by
  induction first with
  | done => exact ⟨[[]], by simp, ends.lines_cons (by simp) second⟩
  | last filled whole => exact ⟨[], by simp, ends.lines_cons whole second⟩
  | @feed line later lines whole plain goesOn ih =>
    have suffix : later <:+ line ++ '\n' :: later := ⟨line ++ ['\n'], by simp⟩
    obtain ⟨blank, empty, joined⟩ := ih (ends.of_suffix suffix)
    refine ⟨blank, empty, ?_⟩
    rw [List.append_assoc, List.cons_append]
    exact .feed whole plain joined
  | @returned line later lines whole goesOn ih =>
    have suffix : later <:+ line ++ '\r' :: '\n' :: later := ⟨line ++ ['\r', '\n'], by simp⟩
    obtain ⟨blank, empty, joined⟩ := ih (ends.of_suffix suffix)
    refine ⟨blank, empty, ?_⟩
    rw [List.append_assoc, List.cons_append, List.cons_append]
    exact .returned whole joined

end ReleaseBuilder.Text
