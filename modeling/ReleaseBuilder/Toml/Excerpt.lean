/-
# Excerpts

A place in a document as it is shown to a reader: the number of the line and of the
character in it, the line itself, and marks under the place. There is a mark for each
octet of the place, but no more than the line has octets after as many octets as there
are characters before the place, and there is at least one.
-/

import ReleaseBuilder.Toml.Expression

namespace ReleaseBuilder.Toml

/-- The front of a text that leaves a number of octets. -/
def frontLeaving (left : Nat) : List Char → List Char
  | [] => []
  | c :: rest => if octetCount (c :: rest) ≤ left then [] else c :: frontLeaving left rest

/-- A place in a text. -/
structure Excerpt where
  /-- The number of the line, from zero. -/
  line : Nat
  /-- The number of the character in the line, from zero. -/
  column : Nat
  /-- The whole line. -/
  content : String
  /-- How many marks stand under the place. -/
  marks : Nat
  deriving DecidableEq, Repr

namespace Excerpt

/-- The place of a stretch in a text. -/
def ofSpan (source : String) (span : Span) : Excerpt :=
  let front := (frontLeaving span.before source.toList).splitOn '\n'
  let line := front.length - 1
  let content := ((source.toList.splitOn '\n')[line]?).getD []
  let column := (front.getLast?.getD []).length
  { line
    column
    content := String.ofList content
    marks := max 1 (min (span.before - span.after) (octetCount content - column)) }

/-- So many copies of a character. -/
def run (n : Nat) (c : Char) : String :=
  String.ofList (List.replicate n c)

/-- The excerpt as text, a line feed at its end. -/
def text (e : Excerpt) : String :=
  let number := toString (e.line + 1)
  let gutter := run (number.length + 1) ' ' ++ "|"
  "TOML parse error at line " ++ number ++ ", column " ++ toString (e.column + 1) ++ "\n" ++
    gutter ++ "\n" ++
    number ++ " | " ++ e.content ++ "\n" ++
    gutter ++ run (e.column + 1) ' ' ++ run e.marks '^' ++ "\n"

end Excerpt

end ReleaseBuilder.Toml
