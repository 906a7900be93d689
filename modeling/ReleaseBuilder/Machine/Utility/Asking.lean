/-
# Questions and words

A utility may ask before it does something, and an option may have to be one of a few words.
-/

import ReleaseBuilder.Machine.Utility.Tool

namespace ReleaseBuilder.Machine.Utility

/-- How deep directories may stand in one another. -/
def nesting : Nat := 4096

/-- Ask a question. The answer is yes if a line of the input starts with that letter. -/
def isConfirmed (question : String) : Tool Bool := do
  mutter ((← read).name ++ ": " ++ question)
  let rec line : Nat → List Char → Tool (List Char)
    | 0, read => return read
    | fuel + 1, read => do
      match ← request (Program.read 0 1) with
      | .ok data =>
        if data.isEmpty || data.get! 0 = 10 then return read
        else line fuel (read ++ [Char.ofNat (data.get! 0).toNat])
      | .error _ => return read
  let answer ← line 1000 []
  return answer.head? = some 'y' || answer.head? = some 'Y'

/-- Whether to do something, which is asked only if there is reason to ask. -/
def isAgreed (asking : Bool) (question : String) : Tool Bool := do
  if asking then isConfirmed question else return true

/-- The lines of the words that a table knows, those of one meaning on a line. -/
def knownWords [DecidableEq α] : List (String × α) → List (List String)
  | [] => []
  | (word, value) :: rest =>
    let same := rest.takeWhile (·.2 = value)
    (word :: same.map Prod.fst) :: knownWords (rest.drop same.length)
termination_by table => table.length
decreasing_by rw [List.length_drop, List.length_cons]; omega

/-- The meaning of a word that a table knows, or of the beginning of one. -/
def meaning [DecidableEq α] (table : List (String × α)) (place word : String) : Tool α := do
  let meant := table.filter fun entry => entry.1.startsWith word
  match table.lookup word, meant with
  | some value, _ => return value
  | none, (_, value) :: rest =>
    if rest.all (·.2 = value) then return value
  | none, [] => pure ()
  let problem := if meant.isEmpty then "invalid" else "ambiguous"
  let lines := (knownWords table).map fun words =>
    "  - " ++ ", ".intercalate (words.map inQuotes) ++ "\n"
  misuse (problem ++ " argument " ++ inQuotes word ++ " for " ++ inQuotes place ++
    "\nValid arguments are:\n" ++ String.ofList (String.join lines).toList.dropLast)

end ReleaseBuilder.Machine.Utility
