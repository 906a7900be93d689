/-
# Printing a table of variables

A table is printed with a line for each variable. Reading the lines gives the table back, as long
as no variable has a part that its line would show as something else, and the tables without such
variables are exactly the ones that are read from a text. So reading a text, printing the table and
reading that again comes to the same.
-/

import ReleaseBuilder.Proofs.Variables.Joining

namespace ReleaseBuilder.Variables

variable {v : Variables} {name value : String}

/-- The line that sets a name to a value. -/
def lineFor (entry : String × String) : String :=
  entry.1 ++ "=" ++ entry.2

/-- A line for each variable, in the order of the names. Every line ends in a carriage return and a
line feed. -/
def printed (v : Variables) : String :=
  String.join (v.entries.map fun entry => lineFor entry ++ "\r\n")

/-- The line of a variable shows its name and its value: the first equals sign stands behind the
name, and no line feed is inside. Carriage returns may stand anywhere, and blanks too. -/
structure FitsLine (name value : String) : Prop where
  filled : name ≠ ""
  plain : '=' ∉ name.toList
  wholeName : '\n' ∉ name.toList
  wholeValue : '\n' ∉ value.toList

/-- A table whose variables all fit on lines. -/
def Printable (v : Variables) : Prop :=
  ∀ name value, v.get? name = some value → FitsLine name value

theorem toList_lineFor (entry : String × String) :
    (lineFor entry).toList = entry.1.toList ++ '=' :: entry.2.toList := by
  simp [lineFor]

/-! ## Reading what is printed -/

theorem FitsLine.whole (h : FitsLine name value) : '\n' ∉ (lineFor (name, value)).toList := by
  rw [toList_lineFor, List.mem_append, List.mem_cons]
  rintro (inName | isSign | inValue)
  · exact h.wholeName inName
  · exact absurd isSign (by decide)
  · exact h.wholeValue inValue

theorem FitsLine.ofLine?_lineFor (h : FitsLine name value) :
    ofLine? (lineFor (name, value)).toList = some (name, value) :=
  ofLine?_eq_some_iff.mpr ⟨h.filled, h.plain, toList_lineFor (name, value)⟩

/-- What is printed falls into the lines of the entries. -/
theorem lines_join_lineFor {entries : List (String × String)}
    (fits : ∀ entry ∈ entries, FitsLine entry.1 entry.2) :
    Text.Lines (String.join (entries.map fun entry => lineFor entry ++ "\r\n")).toList
      (entries.map fun entry => (lineFor entry).toList) := by
  induction entries with
  | nil => exact .done
  | cons entry rest ih =>
    have first : FitsLine entry.1 entry.2 := fits entry List.mem_cons_self
    have later := ih fun other member => fits other (List.mem_cons_of_mem entry member)
    have split : (String.join ((entry :: rest).map fun entry => lineFor entry ++ "\r\n")).toList =
        (lineFor entry).toList ++ '\r' :: '\n' ::
          (String.join (rest.map fun entry => lineFor entry ++ "\r\n")).toList := by
      simp [String.join_cons]
    rw [split, List.map_cons]
    exact .returned first.whole later

theorem filterMap_ofLine?_lineFor {entries : List (String × String)}
    (fits : ∀ entry ∈ entries, FitsLine entry.1 entry.2) :
    (entries.map fun entry => (lineFor entry).toList).filterMap ofLine? = entries := by
  rw [List.filterMap_map]
  refine (List.filterMap_congr fun entry member => ?_).trans List.filterMap_some
  exact (fits entry member).ofLine?_lineFor

theorem empty_merge (v : Variables) : empty.merge v = v := by
  apply ext_get?
  intro name
  rw [get?_merge, get?_empty, Option.or_none]

theorem parse_printed_of_printable (h : v.Printable) : parse v.printed = v := by
  have fits : ∀ entry ∈ v.entries, FitsLine entry.1 entry.2 := fun entry member =>
    h entry.1 entry.2 (mem_entries_iff.mp member)
  rw [parse, printed, Text.lines_iff.mp (lines_join_lineFor fits), filterMap_ofLine?_lineFor fits]
  exact empty_merge v

/-! ## What is read can be printed -/

theorem Sets.fitsLine {line : List Char} (sets : Sets line name value) (whole : '\n' ∉ line) :
    FitsLine name value := by
  obtain ⟨filled, plain, rfl⟩ := sets
  rw [List.mem_append, List.mem_cons] at whole
  exact ⟨filled, plain, fun inName => whole (.inl inName),
    fun inValue => whole (.inr (.inr inValue))⟩

theorem printable_parse (table : String) : (parse table).Printable := by
  intro name value there
  have falls := Text.lines_linesOf table.toList
  obtain ⟨before, line, behind, split, sets, -⟩ := (get?_parse falls).mp there
  have member : line ∈ Text.linesOf table.toList := by simp [split]
  exact sets.fitsLine (falls.whole_of_mem member)

/-! ## The round trip -/

/-- Reading undoes printing exactly for the tables whose variables all fit on lines, and these are
the tables that are read from texts. What is read from a text is thus the same if it is printed and
read again. -/
theorem parse_undoes_printing :
    (∀ v : Variables, parse v.printed = v ↔ v.Printable) ∧
      (∀ v : Variables, (∃ table, parse table = v) ↔ v.Printable) ∧
      ∀ table, (parse table).Printable ∧ parse (parse table).printed = parse table := by
  have read : ∀ {v : Variables}, (∃ table, parse table = v) → v.Printable := by
    rintro v ⟨table, rfl⟩
    exact printable_parse table
  refine ⟨fun v => ?_, fun v => ?_, fun table => ?_⟩
  · exact ⟨fun same => read ⟨v.printed, same⟩, parse_printed_of_printable⟩
  · exact ⟨read, fun fits => ⟨v.printed, parse_printed_of_printable fits⟩⟩
  · exact ⟨printable_parse table, parse_printed_of_printable (printable_parse table)⟩

example : (parse "LIB=a=b\r\r\n=x\nINCLUDE=\n").printed = "INCLUDE=\r\nLIB=a=b\r\r\n" := by
  decide

end ReleaseBuilder.Variables
