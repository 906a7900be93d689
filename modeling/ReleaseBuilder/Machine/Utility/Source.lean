/-
# Lines on demand

Lines that are taken one by one from files, as far as they are needed and no farther.
-/

import ReleaseBuilder.Machine.Utility.Tool

namespace ReleaseBuilder.Machine.Utility

/-- Where lines come from: what was read and not taken, the file that is being read, and the
files that wait. -/
structure Source where
  held : List Char := []
  current : Option (String × Nat) := none
  waiting : List String

namespace Source

/-- A line, whether it was ended, and whether it is the first of its file. -/
structure Line where
  text : List Char
  ended : Bool
  isFirst : Bool := false
  deriving DecidableEq

/-- What is done about a file that can not be opened. -/
abbrev Complaint := String → SystemError → Tool Unit

/-- Open files until one can be read. -/
def advance (complain : Complaint) : Nat → Source → Tool Source
  | 0, s => return s
  | fuel + 1, s => do
    match s.current, s.waiting with
    | some _, _ | none, [] => return s
    | none, path :: rest =>
      match ← openOperand path with
      | .ok fd => return { s with current := some (path, fd), waiting := rest }
      | .error fault =>
        complain path fault
        advance complain fuel { s with waiting := rest }

/-- Read until a line is held as a whole, or the file has ended. The mark says which. -/
def fill (complain : Complaint) (path : String) (fd : Nat) :
    Nat → List Char → Tool (List Char × Bool)
  | 0, held => return (held, false)
  | fuel + 1, held => do
    if held.contains '\n' then return (held, true)
    else
      match ← request (Program.read fd blockSize) with
      | .error fault =>
        complain path fault
        return (held, false)
      | .ok data =>
        if data.isEmpty then return (held, false)
        else fill complain path fd fuel (held ++ (Text.narrowOf data).toList)

/-- The next line, if there is one. -/
def next? (complain : Complaint) : Nat → Source → Tool (Option Line × Source)
  | 0, s => return (none, s)
  | fuel + 1, s => do
    let isFirst := s.current.isNone
    let s ← advance complain (s.waiting.length + 1) s
    match s.current with
    | none => return (none, s)
    | some (path, fd) =>
      let (held, whole) ← fill complain path fd Program.repetitions s.held
      if whole then
        let text := held.takeWhile (· ≠ '\n')
        return (some ⟨text, true, isFirst⟩, { s with held := held.drop (text.length + 1) })
      else
        closeOperand fd
        let s := { s with held := [], current := none }
        if held.isEmpty then next? complain fuel s else return (some ⟨held, false, isFirst⟩, s)

end Source

end ReleaseBuilder.Machine.Utility
