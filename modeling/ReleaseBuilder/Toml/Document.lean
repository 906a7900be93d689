/-
# TOML documents

A document is a table: keys with values, in the order in which they appear. Keys and
values know their place in the text, so that a reader of the document can point at what
it does not like. A place is told from the end of the text, by what was left of it.
-/

import ReleaseBuilder.Decimal.Nearest

namespace ReleaseBuilder.Toml

/-- A stretch of a text: how many octets were left at its beginning and at its end. -/
structure Span where
  before : Nat
  after : Nat
  deriving DecidableEq, Repr

/-- The stretch from the beginning of one to the end of the other. -/
def Span.until (first last : Span) : Span :=
  ⟨first.before, last.after⟩

/-- A key, as it was first written. -/
structure Key where
  name : String
  span : Span
  deriving DecidableEq, Repr

/-- How a table came to be, which decides how it may grow. -/
inductive Origin where
  /-- A header names it, or it is the document. -/
  | stated
  /-- A header names a table below it. -/
  | implied
  /-- A dotted key leads through it. -/
  | dotted
  /-- It was written in braces, and is complete. -/
  | braced
  deriving DecidableEq, Repr

/-- Whether a dotted key may lead through a table of this origin. -/
def Origin.isImplicit : Origin → Bool
  | implied | dotted => true
  | stated | braced => false

/-- Keys with values of some kind, in order. Tables that came to be on the way to others have
no place of their own. -/
structure Table (α : Type) where
  origin : Origin
  span : Option Span
  entries : List (Key × α)

/-- A value. Of a date or a time nothing but its place is kept. -/
inductive Value where
  | string (span : Span) (text : String)
  | integer (span : Span) (number : Int)
  | float (span : Span) (number : Decimal.Binary64)
  | boolean (span : Span) (value : Bool)
  | moment (span : Span)
  | array (span : Span) (items : List Value)
  | table (table : Table Value)
  /-- Tables that headers in double brackets add to one another. -/
  | tables (span : Option Span) (items : List (Table Value))

/-- A document. -/
abbrev Document := Table Value

namespace Table

/-- A table without entries. -/
def empty (origin : Origin) (span : Option Span := none) : Table α :=
  ⟨origin, span, []⟩

/-- The value of a name. -/
def get? (t : Table α) (name : String) : Option α :=
  (t.entries.find? (·.1.name = name)).map Prod.snd

/-- Add an entry at the end. -/
def push (t : Table α) (key : Key) (value : α) : Table α :=
  { t with entries := t.entries ++ [(key, value)] }

/-- Give a name that is there another value; the entry keeps its place and its key. -/
def replace (t : Table α) (name : String) (value : α) : Table α :=
  { t with entries := t.entries.map fun entry =>
      if entry.1.name = name then (entry.1, value) else entry }

/-- Take the entry of a name away. -/
def erase (t : Table α) (name : String) : Table α :=
  { t with entries := t.entries.filter (·.1.name ≠ name) }

end Table

/-- The place of a value, if it has one. -/
def Value.span? : Value → Option Span
  | string span _ => some span
  | integer span _ => some span
  | float span _ => some span
  | boolean span _ => some span
  | moment span => some span
  | array span _ => some span
  | table t => t.span
  | tables span _ => span

end ReleaseBuilder.Toml
