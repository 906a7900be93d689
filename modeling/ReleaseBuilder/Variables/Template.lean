/-
# References to variables

In a template `%NAME%` stands for the value of a variable. Expansion goes once from the
left: the leftmost reference to a known name is replaced, what was put in is not looked
at again, and everything that is no such reference stays as it is, percent signs
included.
-/

import ReleaseBuilder.Text.Search

namespace ReleaseBuilder.Variables

/-- Replace the references among the characters. After a percent sign that opens no known
reference the search goes on right behind it, since the next percent sign may open one. -/
def expandChars (lookup : String → Option String) : List Char → List Char
  | [] => []
  | c :: rest =>
    if c = '%' then
      match _found : Text.splitFirst? '%' rest with
      | none => c :: expandChars lookup rest
      | some (name, after) =>
        if name.isEmpty then c :: expandChars lookup rest
        else
          match lookup (String.ofList name) with
          | none => c :: expandChars lookup rest
          | some value => value.toList ++ expandChars lookup after
    else c :: expandChars lookup rest
termination_by cs => cs.length
decreasing_by
  · simp
  · simp
  · simp
  · exact Nat.lt_succ_of_lt (Text.length_lt_of_splitFirst? _found)
  · simp

/-- Replace the references to known names in a template. -/
def expand (template : String) (lookup : String → Option String) : String :=
  String.ofList (expandChars lookup template.toList)

end ReleaseBuilder.Variables
