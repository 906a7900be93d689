/-
# Growing tables

How a table of a document takes in what comes after it. A path of keys leads from a table
through its subtables, which are made where they are missing; in an array of tables it
leads through the last one. Nothing is ever given a second value, a table written in
braces is complete, and a dotted key does not grow a table that a header has named.
-/

import ReleaseBuilder.Toml.Document

namespace ReleaseBuilder.Toml.Table

/-- Change the last element of a list, if there is one. -/
def changeLast (change : α → Option α) : List α → Option (List α)
  | [] => none
  | [last] => (change last).map fun changed => [changed]
  | first :: rest => (changeLast change rest).map (first :: ·)

/-- Whether a path whose missing tables come to be in the given way may lead through a table. -/
def mayPass (way : Origin) (t : Table α) : Bool :=
  t.origin != .braced && (way != .dotted || t.origin.isImplicit)

/-- Change the table to which a path leads. Missing tables come to be in the given way. -/
def along (way : Origin) (change : Table Value → Option (Table Value)) :
    List Key → Table Value → Option (Table Value)
  | [], t => change t
  | key :: path, t =>
    match t.get? key.name with
    | none => (along way change path (.empty way)).map fun child => t.push key (.table child)
    | some (.table child) =>
      if mayPass way child then
        (along way change path child).map fun child => t.replace key.name (.table child)
      else none
    | some (.tables span items) =>
      (changeLast (along way change path) items).map fun items =>
        t.replace key.name (.tables span items)
    | some _ => none

/-- Add an entry whose name is new. -/
def add (key : Key) (value : Value) (t : Table Value) : Option (Table Value) :=
  match t.get? key.name with
  | none => some (t.push key value)
  | some _ => none

/-- Add a value under a key that may be dotted: its path leads to a table that dotted keys
have made, or is empty. -/
def assign (path : List Key) (key : Key) (value : Value) (t : Table Value) :
    Option (Table Value) :=
  along .dotted (fun t => if path.isEmpty || t.origin = .dotted then t.add key value else none)
    path t

/-- Take a table that headers below it have implied away from its parent, so that it can be
named itself. Nothing else may stand under its name. -/
def detach (key : Key) (t : Table Value) : Option (List (Key × Value) × Table Value) :=
  match t.get? key.name with
  | none => some ([], t)
  | some (.table child) =>
    if child.origin = .implied then some (child.entries, t.erase key.name) else none
  | some _ => none

/-- The place of an array of tables, from its first to its last one. -/
def spanOfAll (items : List (Table Value)) : Option Span :=
  match items.head?.bind Table.span, items.getLast?.bind Table.span with
  | some first, some last => some (first.until last)
  | _, _ => none

/-- Add a table at the end of an array of tables, which is made if it is missing. -/
def append (t : Table Value) (key : Key) (item : Table Value) : Option (Table Value) :=
  match t.get? key.name with
  | none => some (t.push key (.tables item.span [item]))
  | some (.tables _ items) =>
    let items := items ++ [item]
    some (t.replace key.name (.tables (spanOfAll items) items))
  | some _ => none

end ReleaseBuilder.Toml.Table
