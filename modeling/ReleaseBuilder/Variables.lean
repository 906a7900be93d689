/-
# Tables of variables

A table of environment variables is a finite map with ordered names: its entries are
kept in ascending order of the names' characters, which is also the order of their
octets, so each map has exactly one table. A table can be read from lines of the form
`NAME=value`, laid over another one, and attached to a command.
-/

import ReleaseBuilder.Command
import ReleaseBuilder.Text.Lines
import ReleaseBuilder.Text.Search

namespace ReleaseBuilder

/-- Ascending order of the names in a list of variables, none twice. -/
def Ascending (entries : List (String × String)) : Prop :=
  entries.Pairwise fun a b => a.1 < b.1

/-- A finite map from names to values. -/
structure Variables where
  entries : List (String × String)
  ascending : Ascending entries

namespace Variables

/-- Give a name a value in an ordered list. -/
def insertEntry (name value : String) : List (String × String) → List (String × String)
  | [] => [(name, value)]
  | (other, old) :: rest =>
    if name < other then (name, value) :: (other, old) :: rest
    else if other < name then (other, old) :: insertEntry name value rest
    else (name, value) :: rest

/-- Only the inserted name and names that were there appear after an insertion. -/
theorem mem_insertEntry {name value : String} {entries : List (String × String)}
    {entry : String × String} (h : entry ∈ insertEntry name value entries) :
    entry = (name, value) ∨ entry ∈ entries := by
  induction entries with
  | nil => simpa [insertEntry] using h
  | cons head rest ih =>
    obtain ⟨other, old⟩ := head
    rw [insertEntry] at h
    split at h
    · simpa using h
    · split at h
      · rcases List.mem_cons.mp h with rfl | later
        · exact .inr (by simp)
        · exact (ih later).imp_right (List.mem_cons_of_mem _)
      · exact (List.mem_cons.mp h).imp_right (List.mem_cons_of_mem _)

/-- An insertion keeps the order. -/
theorem ascending_insertEntry {entries : List (String × String)} (h : Ascending entries)
    (name value : String) : Ascending (insertEntry name value entries) := by
  induction entries with
  | nil => simp [insertEntry, Ascending]
  | cons head rest ih =>
    obtain ⟨other, old⟩ := head
    obtain ⟨first, later⟩ := List.pairwise_cons.mp h
    rw [insertEntry]
    split
    · next below =>
      refine List.pairwise_cons.mpr ⟨fun entry member => ?_, h⟩
      rcases List.mem_cons.mp member with rfl | member
      · exact below
      · exact String.lt_trans below (first entry member)
    · next notBelow =>
      split
      · next above =>
        refine List.pairwise_cons.mpr ⟨fun entry member => ?_, ih later⟩
        rcases mem_insertEntry member with rfl | member
        · exact above
        · exact first entry member
      · next notAbove =>
        have same : name = other :=
          String.le_antisymm (String.not_lt.mp notAbove) (String.not_lt.mp notBelow)
        subst same
        exact List.pairwise_cons.mpr ⟨first, later⟩

/-- The table without variables. -/
def empty : Variables := ⟨[], List.Pairwise.nil⟩

instance : Inhabited Variables := ⟨empty⟩

/-- Give a name a value, in place of the one it had. -/
def insert (v : Variables) (name value : String) : Variables :=
  ⟨insertEntry name value v.entries, ascending_insertEntry v.ascending name value⟩

/-- The value of a name. -/
def get? (v : Variables) (name : String) : Option String :=
  v.entries.lookup name

/-- How many names have a value. -/
def size (v : Variables) : Nat :=
  v.entries.length

/-- Whether no name has a value. -/
def isEmpty (v : Variables) : Bool :=
  v.entries.isEmpty

/-- Give names their values one after the other. -/
def insertAll (v : Variables) (assignments : List (String × String)) : Variables :=
  assignments.foldl (fun v a => v.insert a.1 a.2) v

/-- The table `other` laid over `v`: where both give a name a value, `other` does. -/
def merge (v other : Variables) : Variables :=
  v.insertAll other.entries

/-- The variable that a line sets: the text before its first `=`, which must not be empty,
and the text after it. -/
def ofLine? (line : List Char) : Option (String × String) :=
  match Text.splitFirst? '=' line with
  | some (name, value) =>
    if name.isEmpty then none else some (String.ofList name, String.ofList value)
  | none => none

/-- The table that a text of `NAME=value` lines prints; lines that set nothing are passed
over, and the last line for a name counts. -/
def parse (table : String) : Variables :=
  empty.insertAll ((Text.linesOf table.toList).filterMap ofLine?)

/-- Attach the variables to a command, after the ones it has. -/
def apply (v : Variables) (c : Command) : Command :=
  c.withEnv v.entries

@[ext] theorem ext_entries {v w : Variables} (h : v.entries = w.entries) : v = w := by
  cases v; cases w; cases h; rfl

end Variables

end ReleaseBuilder
