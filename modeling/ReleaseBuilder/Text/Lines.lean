/-
# Lines of a text

A line ends at a line feed, and a carriage return directly before that line feed
belongs to the ending. A last line without an ending keeps all its characters, its
carriage return too, and a text that ends in a line feed has no empty line after it.
-/

import ReleaseBuilder.Text.Blank

namespace ReleaseBuilder.Text

/-- One carriage return at the back belongs to the line ending and is dropped. -/
def dropReturn (line : List Char) : List Char :=
  if line.getLast? = some '\r' then line.dropLast else line

/-- The lines among the pieces between line feeds: every piece but the last was ended by
a line feed, and the last one counts only if it holds something. -/
def linesOfPieces : List (List Char) → List (List Char)
  | [] => []
  | [last] => if last.isEmpty then [] else [last]
  | piece :: pieces => dropReturn piece :: linesOfPieces pieces

/-- The lines of a list of characters. -/
def linesOf (cs : List Char) : List (List Char) :=
  linesOfPieces (cs.splitOn '\n')

/-- The lines of a text, in order. -/
def lines (s : String) : List String :=
  (linesOf s.toList).map String.ofList

@[simp] theorem linesOf_nil : linesOf [] = [] := by
  simp [linesOf, linesOfPieces, List.splitOn_nil]

end ReleaseBuilder.Text
