/-
# Expressions of a document

A document is written as a list of expressions: headers, and assignments of values to
keys. Each expression has a line of its own, up to blanks and a comment; only arrays and
strings in three quotes go over several lines. A reader gets the text from where its
expression starts and gives what it read with the rest of the text.
-/

import ReleaseBuilder.Toml.Growth
import ReleaseBuilder.Toml.Quotation

namespace ReleaseBuilder.Toml

open Quotation (isPlain isSpacing behindLineEnd?)

/-- How many octets a text has. -/
def octetCount (cs : List Char) : Nat :=
  cs.foldl (fun n c => n + c.utf8Size) 0

/-- The stretch between two rests of a text. -/
def Span.between (before after : List Char) : Span :=
  ⟨octetCount before, octetCount after⟩

/-- An assignment: the path and the name of a possibly dotted key, and the value. -/
structure Assignment where
  path : List Key
  key : Key
  value : Value

/-- A header: the table it names, and whether it adds a table to an array. -/
structure Header where
  path : List Key
  key : Key
  span : Span
  many : Bool

/-- What stands on a line. -/
inductive Expression where
  | assignment (a : Assignment)
  | header (h : Header)

namespace Expression

/-- Drop blanks at the front. -/
def dropSpacing (cs : List Char) : List Char :=
  cs.dropWhile isSpacing

/-- Drop a comment at the front, up to the end of its line. -/
def dropComment : List Char → List Char
  | '#' :: rest => rest.dropWhile isPlain
  | cs => cs

/-- Drop blanks, comments and line endings at the front. -/
def dropGaps : List Char → List Char
  | '\r' :: '\n' :: rest => dropGaps rest
  | c :: rest =>
    if isSpacing c || c = '\n' then dropGaps rest
    else if c = '#' then dropGaps (rest.dropWhile isPlain)
    else c :: rest
  | [] => []
termination_by cs => cs.length
decreasing_by
  · simp only [List.length_cons]
    omega
  · simp
  · have := (List.dropWhile_suffix isPlain (l := rest)).sublist.length_le
    simp only [List.length_cons]
    omega

/-- Whether a character may stand in a key without quotes. -/
def isBare (c : Char) : Bool :=
  c.isAlphanum || c = '_' || c = '-'

/-- A key without dots. -/
def simpleKey? (cs : List Char) : Option (Key × List Char) :=
  match cs with
  | '"' :: _ | '\'' :: _ =>
    (Quotation.line? cs).map fun (name, rest) =>
      (⟨String.ofList name, .between cs rest⟩, rest)
  | _ =>
    let name := cs.takeWhile isBare
    let rest := cs.drop name.length
    if name.isEmpty then none else some (⟨String.ofList name, .between cs rest⟩, rest)

/-- The keys between the dots of a key, with blanks around them. A reader that takes nothing
ends the list. -/
def keys? (cs : List Char) : Option (List Key × List Char) :=
  match simpleKey? (dropSpacing cs) with
  | none => none
  | some (key, rest) =>
    match dropSpacing rest with
    | '.' :: more =>
      if more.length < cs.length then
        (keys? more).map fun (keys, rest) => (key :: keys, rest)
      else none
    | rest => some ([key], rest)
termination_by cs.length

/-- From here on, parts of a key are too many. -/
def keyLimit : Nat := 80

/-- A possibly dotted key: its path and its name. -/
def dottedKey? (cs : List Char) : Option ((List Key × Key) × List Char) :=
  match keys? cs with
  | none => none
  | some (keys, rest) =>
    if keys.length < keyLimit then
      keys.getLast?.map fun key => ((keys.dropLast, key), rest)
    else none

/-- A reader of values. -/
abbrev ValueReader := List Char → Option (Value × List Char)

/-- The value of a word. -/
def valueOf (span : Span) : Scalar → Value
  | .integer n => .integer span n
  | .float x => .float span x
  | .boolean b => .boolean span b
  | .moment => .moment span

/-- A string or a word. -/
def atom? (cs : List Char) : Option (Value × List Char) :=
  match cs with
  | '"' :: _ | '\'' :: _ =>
    (Quotation.string? cs).map fun (text, rest) =>
      (.string (.between cs rest) (String.ofList text), rest)
  | _ =>
    let word := Scalar.word cs
    let rest := cs.drop word.length
    (Scalar.ofWord? word).map fun scalar => (valueOf (.between cs rest) scalar, rest)

/-- The items of an array, behind its opening bracket. A comma may follow the last one. -/
def items? (item : ValueReader) (cs : List Char) : Option (List Value × List Char) :=
  match dropGaps cs with
  | ']' :: rest => some ([], rest)
  | first =>
    match item first with
    | none => none
    | some (value, rest) =>
      match dropGaps rest with
      | ']' :: rest => some ([value], rest)
      | ',' :: more =>
        if more.length < cs.length then
          (items? item more).map fun (values, rest) => (value :: values, rest)
        else none
      | _ => none
termination_by cs.length

/-- An assignment, without what may follow it on its line. -/
def assignment? (item : ValueReader) (cs : List Char) : Option (Assignment × List Char) :=
  match dottedKey? cs with
  | some ((path, key), '=' :: rest) =>
    (item (dropSpacing rest)).map fun (value, rest) => (⟨path, key, value⟩, rest)
  | _ => none

/-- The assignments between braces, behind the first brace; at least one. -/
def pairs? (item : ValueReader) (cs : List Char) : Option (List Assignment × List Char) :=
  match assignment? item cs with
  | none => none
  | some (first, rest) =>
    match dropSpacing rest with
    | '\x7d' :: rest => some ([first], rest)
    | ',' :: more =>
      if more.length < cs.length then
        (pairs? item more).map fun (later, rest) => (first :: later, rest)
      else none
    | _ => none
termination_by cs.length

/-- Add assignments to a table, whose place then reaches to the last of them. -/
def fill (t : Table Value) : List Assignment → Option (Table Value)
  | [] => some t
  | a :: rest =>
    match t.assign a.path a.key a.value with
    | none => none
    | some grown =>
      let span := match t.span, a.value.span? with
        | some own, some last => some (own.until last)
        | own, _ => own
      fill { grown with span } rest

/-- A table in braces, behind the first brace. `start` is the text from that brace on. -/
def braced? (item : ValueReader) (start cs : List Char) : Option (Value × List Char) :=
  match dropSpacing cs with
  | '\x7d' :: rest => some (.table (.empty .braced (some (.between start rest))), rest)
  | _ =>
    match pairs? item cs with
    | none => none
    | some (pairs, rest) =>
      (fill (.empty .braced) pairs).map fun t =>
        (.table { t with span := some (.between start rest) }, rest)

/-- How deep arrays and tables in braces may lie in one another. -/
def depthLimit : Nat := 79

/-- A value in which arrays and tables in braces lie in one another at most so deep. -/
def value? : Nat → ValueReader
  | 0, cs => atom? cs
  | depth + 1, cs =>
    match cs with
    | '[' :: rest =>
      (items? (value? depth) rest).map fun (items, rest) => (.array (.between cs rest) items, rest)
    | '\x7b' :: rest => braced? (value? depth) cs rest
    | _ => atom? cs

/-- A header, between its brackets. -/
def header? (start : List Char) (many : Bool) (cs : List Char) : Option (Header × List Char) :=
  match dottedKey? cs, many with
  | some ((path, key), ']' :: rest), false =>
    some (⟨path, key, .between start rest, false⟩, rest)
  | some ((path, key), ']' :: ']' :: rest), true =>
    some (⟨path, key, .between start rest, true⟩, rest)
  | _, _ => none

/-- The expression at the front, without what may follow it on its line. -/
def read? (cs : List Char) : Option (Expression × List Char) :=
  match cs with
  | '[' :: '[' :: rest => (header? cs true rest).map fun (h, rest) => (header h, rest)
  | '[' :: rest => (header? cs false rest).map fun (h, rest) => (header h, rest)
  | _ =>
    (assignment? (value? depthLimit) cs).map fun (a, rest) => (assignment a, rest)

/-- The text behind the line on which an expression has ended. -/
def behindLine? (cs : List Char) : Option (List Char) :=
  match dropComment (dropSpacing cs) with
  | [] => some []
  | rest => behindLineEnd? rest

/-- All expressions of a text. -/
def readAll? (cs : List Char) : Option (List Expression) :=
  match dropGaps cs with
  | [] => some []
  | first =>
    match read? first with
    | none => none
    | some (expression, rest) =>
      match behindLine? rest with
      | none => none
      | some more =>
        if more.length < cs.length then (readAll? more).map (expression :: ·) else none
termination_by cs.length

end Expression

end ReleaseBuilder.Toml
