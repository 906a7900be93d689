/-
# What does not fit

Why a document is no document of settings. Every reason has a place in the document and
one wording.
-/

import ReleaseBuilder.Decimal.Shortest
import ReleaseBuilder.Settings.Field
import ReleaseBuilder.Text.Quoted
import ReleaseBuilder.Toml.Excerpt

namespace ReleaseBuilder

open Toml (Span Value)

/-- What a setting is made of. -/
inductive Expected where
  | text
  | path
  | number
  | sequence
  deriving DecidableEq, Repr

/-- The words for what a setting is made of. -/
def Expected.words : Expected → String
  | text => "a string"
  | path => "path string"
  | number => "u32"
  | sequence => "a sequence"

/-- A text between backquotes. -/
def backquoted (s : String) : String :=
  "`" ++ s ++ "`"

/-- The words for a value of the wrong type. Dates are told as what they are kept as. -/
def Toml.Value.description : Value → String
  | string _ s => "string " ++ Text.quoted s
  | integer _ n => "integer " ++ backquoted (toString n)
  | float _ x => "floating point " ++ backquoted x.text
  | boolean _ b => "boolean " ++ backquoted (if b then "true" else "false")
  | moment _ => "map"
  | array _ _ => "sequence"
  | table _ => "map"
  | tables _ _ => "sequence"

/-- The name of a value's kind. -/
def Toml.Value.kindName : Value → String
  | string _ _ => "string"
  | integer _ _ => "integer"
  | float _ _ => "float"
  | boolean _ _ => "boolean"
  | moment _ => "datetime"
  | array _ _ => "array"
  | table _ => "table"
  | tables _ _ => "array of tables"

/-- Why something in a document does not fit. -/
inductive Reason where
  | unknownField (name : String)
  | wrongType (found : Value) (expected : Expected)
  | outOfRange (n : Int)
  | unknownMode (name : String)
  /-- A mode is neither a string nor a table. -/
  | noMode
  /-- A table that is to hold one mode holds none. -/
  | noKey
  /-- A table that is to hold one mode holds more. -/
  | manyKeys
  /-- The table of a mode, or the array in its place, is not empty. -/
  | modeWithContent
  /-- Tables in double brackets stand in the place of the table of a mode. -/
  | modeWithTables
  /-- What stands for the table of a mode is no table. -/
  | modeWithValue (found : Value)

/-- The words of a reason. -/
def Reason.words : Reason → String
  | unknownField name =>
    "unknown field " ++ backquoted name ++ ", expected one of " ++
      ", ".intercalate (Field.all.map fun f => backquoted f.name)
  | wrongType found expected =>
    "invalid type: " ++ found.description ++ ", expected " ++ expected.words
  | outOfRange n =>
    "invalid value: integer " ++ backquoted (toString n) ++ ", expected " ++ Expected.number.words
  | unknownMode name =>
    "unknown variant " ++ backquoted name ++ ", expected " ++
      " or ".intercalate (PlatformMode.all.map fun mode => backquoted mode.name)
  | noMode => "wanted string or table"
  | noKey => "wanted exactly 1 element, found 0 elements"
  | manyKeys => "wanted exactly 1 element, more than 1 element"
  | modeWithContent => "expected empty table"
  | modeWithTables => "expected empty array"
  | modeWithValue found => "expected table, found " ++ found.kindName

/-- A reason with its place, if it has one of its own. -/
structure Misfit where
  span : Option Span
  reason : Reason

/-- A misfit at a value. -/
def Misfit.at (value : Value) (reason : Reason) : Misfit :=
  ⟨value.span?, reason⟩

/-- Give a misfit that has no place the place of what is around it, if that has one. -/
def Misfit.within (m : Misfit) (span? : Option Span) : Misfit :=
  ⟨m.span.or span?, m.reason⟩

/-- The words for a misfit in a text. -/
def Misfit.words (m : Misfit) (source : String) : String :=
  (match m.span with
    | some span => (Toml.Excerpt.ofSpan source span).text
    | none => "") ++ m.reason.words ++ "\n"

end ReleaseBuilder
