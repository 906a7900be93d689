/-
# Tables of joined texts

A table can be read piece by piece. Where one text ends and another one begins on a new line, what
both print together is what the second prints laid over what the first prints.
-/

import Mathlib.Data.List.Sort
import ReleaseBuilder.Proofs.Variables.Table

namespace ReleaseBuilder.Variables

variable {v w : Variables}

/-- A table is told by what it says of each name. -/
theorem ext_get? (same : ∀ name, v.get? name = w.get? name) : v = w := by
  let Before (a b : String × String) : Prop := a.1 < b.1
  have : Std.Irrefl Before := ⟨fun a => String.lt_irrefl a.1⟩
  have : Std.Antisymm Before := ⟨fun a b ab ba => absurd ab (String.lt_asymm ba)⟩
  refine ext_entries (List.Pairwise.eq_of_mem_iff (r := Before) v.ascending w.ascending ?_)
  rintro ⟨name, value⟩
  rw [mem_entries_iff, mem_entries_iff, same]

theorem insertAll_append (v : Variables) (first second : List (String × String)) :
    v.insertAll (first ++ second) = (v.insertAll first).insertAll second :=
  List.foldl_append

/-- To lay a table over another one is to make the assignments that the table was made by. -/
theorem merge_insertAll_empty (v : Variables) (assignments : List (String × String)) :
    v.merge (empty.insertAll assignments) = v.insertAll assignments := by
  refine ext_get? fun name => ?_
  rw [get?_merge, get?_insertAll, get?_insertAll, get?_empty, Option.or_none]

@[simp] theorem ofLine?_nil : ofLine? [] = none := rfl

theorem filterMap_ofLine?_of_empty {blank : List (List Char)} (empty : ∀ line ∈ blank, line = []) :
    blank.filterMap ofLine? = [] := by
  refine List.filterMap_eq_nil_iff.mpr fun line member => ?_
  rw [empty line member, ofLine?_nil]

theorem parse_of_ends {a b ending : String} (ends : Text.Ends a.toList ending.toList) :
    parse (a ++ ending ++ b) = (parse a).merge (parse b) := by
  obtain ⟨blank, empty, lines⟩ :=
    (Text.lines_linesOf a.toList).join ends (Text.lines_linesOf b.toList)
  have joined : (a ++ ending ++ b).toList = a.toList ++ (ending.toList ++ b.toList) := by
    rw [String.toList_append, String.toList_append, List.append_assoc]
  rw [parse, parse, parse, merge_insertAll_empty, ← insertAll_append, joined,
    Text.lines_iff.mp lines, List.filterMap_append, List.filterMap_append,
    filterMap_ofLine?_of_empty empty, List.nil_append]

/-- Reading two texts with a line ending between them is reading each and laying the second table
over the first. Behind a carriage return a line feed alone would make a line ending with it, and so
take it away from the last value of the first text. -/
theorem parse_of_joined (a b : String) :
    (a.toList.getLast? ≠ some '\r' → parse (a ++ "\n" ++ b) = (parse a).merge (parse b)) ∧
      parse (a ++ "\r\n" ++ b) = (parse a).merge (parse b) :=
  ⟨fun plain => parse_of_ends (.feed plain), parse_of_ends .returned⟩

example : (parse "LIB=c\r").get? "LIB" = some "c\r" ∧
    (parse ("LIB=c\r" ++ "\n")).get? "LIB" = some "c" := by
  decide

/-- A value with a carriage return inside, a name that both texts set, and an empty line where the
second text begins. -/
theorem parse_of_overlapping :
    "PATH=a\rb\r\nLIB=c".toList.getLast? ≠ some '\r' ∧
      parse ("PATH=a\rb\r\nLIB=c" ++ "\n" ++ "\nPATH=d\n") =
        (parse "PATH=a\rb\r\nLIB=c").merge (parse "\nPATH=d\n") := by
  have plain : "PATH=a\rb\r\nLIB=c".toList.getLast? ≠ some '\r' := by decide
  exact ⟨plain, (parse_of_joined _ _).1 plain⟩

end ReleaseBuilder.Variables
