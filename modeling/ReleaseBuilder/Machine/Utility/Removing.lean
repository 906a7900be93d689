/-
# Utilities that remove

Removing files, trees of directories, and empty directories.
-/

import ReleaseBuilder.Machine.Utility.Asking
import ReleaseBuilder.Machine.Utility.Describing
import ReleaseBuilder.Machine.Utility.Names

namespace ReleaseBuilder.Machine.Utility

/-- When a removal is asked about. -/
inductive Interest where
  | never
  | once
  | always
  deriving DecidableEq

/-- How a removal is done. -/
structure Removing where
  recursive : Bool
  forced : Bool
  asking : Bool
  emptyToo : Bool
  wordy : Bool

/-- Tell that something cannot be removed. -/
def tellUnremoved (path : String) (fault : SystemError) : Tool Unit := do
  tell ("cannot remove " ++ inQuotes path ++ ": " ++ fault.words)
  mark

/-- Remove what is at a path, given how deep it may lie. The answer tells whether the directory
above is to be left alone. -/
def removeTree (k : Removing) : Nat → String → Tool Bool
  | 0, _ => return false
  | depth + 1, path => do
    let fs ← files
    let unremoved (fault : SystemError) : Tool Bool := do
      if k.forced && (fault = .noEntry || fault = .notDirectory) then return false
      tellUnremoved path fault
      return true
    let finish (done : Except SystemError Unit) (words : String) : Tool Bool := do
      match done with
      | .ok () =>
        if k.wordy then emit ("removed " ++ words ++ inQuotes path ++ "\n")
        return false
      | .error fault => unremoved fault
    match fs.stat false (pathOf path) with
    | .error fault => unremoved fault.cause
    | .ok (loc, node) =>
      let isLink := match node with
        | .link _ => true
        | _ => false
      let guarded := if !isLink && !node.allows .write then "write-protected " else ""
      if !node.isDirectory then
        if ← isAgreed k.asking
            ("remove " ++ guarded ++ kindWords node ++ " " ++ inQuotes path ++ "? ") then
          finish (← change (·.remove (pathOf path))) ""
        else return false
      else
        let inner := (fs.namesIn loc).mergeSort fun a b => decide (a ≤ b)
        if !k.recursive && !k.emptyToo then unremoved .isDirectory
        else if !k.recursive && !inner.isEmpty then unremoved .notEmpty
        else if !node.allows .read && !inner.isEmpty then unremoved .denied
        else
          let question := "descend into " ++ guarded ++ "directory " ++ inQuotes path ++ "? "
          let descends ← isAgreed (k.asking && !inner.isEmpty) question
          if !descends then return true
          let mut keeps := false
          for name in inner do
            if ← removeTree k depth ((if path.endsWith "/" then path else path ++ "/") ++ name) then
              keeps := true
          if keeps then return true
          else if ← isAgreed k.asking
              ("remove " ++ guarded ++ "directory " ++ inQuotes path ++ "? ") then
            finish (← change (·.removeDirectory (pathOf path))) "directory "
          else return inner.isEmpty

/-- A file that was meant, if an argument was taken for an option. -/
def tellHyphen (args : List String) : Tool Unit := do
  let fs ← files
  let meant := args.find? fun a =>
    a.startsWith "-" && a ≠ "-" && a ≠ "--" && (fs.stat false (pathOf a)).toOption.isSome
  if let some a := meant then
    let name := (← read).name
    mutter ("Try '" ++ name ++ " ./" ++ quotedName a ++ "' to remove the file " ++
      inQuotes a ++ ".\n")

/-- Remove files, and directories if that is asked for. -/
def rm : Tool Unit := do
  let switches : List Switch :=
    [⟨"f", "force", .never⟩, ⟨"i", "", .never⟩, ⟨"I", "", .never⟩, ⟨"r", "recursive", .never⟩,
      ⟨"R", "", .never⟩, ⟨"d", "dir", .never⟩, ⟨"v", "verbose", .never⟩,
      ⟨"", "interactive", .maybe⟩, ⟨"", "one-file-system", .never⟩,
      ⟨"", "no-preserve-root", .never⟩, ⟨"", "preserve-root", .maybe⟩]
  let call ← read
  if let .error problem := argumentsOf (switches ++ commonSwitches) call.args then
    tell problem
    tellHyphen call.args
    mutter ("Try '" ++ call.name ++ " --help' for more information.\n")
    quit 1
  let a ← arguments switches
  let mut forced := false
  let mut interest : Option Interest := none
  for g in a.given do
    match g.key with
    | "f" =>
      forced := true
      interest := some .never
    | "i" =>
      forced := false
      interest := some .always
    | "I" =>
      forced := false
      interest := some .once
    | "interactive" =>
      let words : List (String × Interest) :=
        [("never", .never), ("no", .never), ("none", .never), ("once", .once),
          ("always", .always), ("yes", .always)]
      let chosen ← match g.value with
        | some word => meaning words "--interactive" word
        | none => pure .always
      forced := forced && chosen = .never
      interest := some chosen
    | _ => pure ()
  if a.operands.isEmpty then if forced then quit 0 else missingOperand
  let k : Removing :=
    { recursive := a.has "r" || a.has "R", forced, asking := interest = some .always
      emptyToo := a.has "d", wordy := a.has "v" }
  let count := a.operands.length
  if interest = some .once && (3 < count || k.recursive) then
    let question := "remove " ++ toString count ++
      (if count = 1 then " argument" else " arguments") ++
      (if k.recursive then " recursively? " else "? ")
    if !(← isConfirmed question) then quit 0
  for path in a.operands do
    let base := baseOf path
    if k.recursive && (base = "." || base = "..") then
      tell ("refusing to remove '.' or '..' directory: skipping " ++ inQuotes path)
      mark
    else if k.recursive && base = "/" then
      tell "it is dangerous to operate recursively on '/'"
      tell "use --no-preserve-root to override this failsafe"
      mark
    else
      let _ ← removeTree k nesting path

/-- Remove empty directories. -/
def rmdir : Tool Unit := do
  let switches : List Switch :=
    [⟨"p", "parents", .never⟩, ⟨"v", "verbose", .never⟩,
      ⟨"", "ignore-fail-on-non-empty", .never⟩]
  let a ← arguments switches
  if a.operands.isEmpty then missingOperand
  let remove (words path : String) : Tool Bool := do
    if a.has "v" then emit ((← read).name ++ ": removing directory, " ++ inQuotes path ++ "\n")
    match ← change (·.removeDirectory (pathOf path)) with
    | .ok () => return true
    | .error fault =>
      let fs ← files
      let isLink := path.endsWith "/" && fault = .notDirectory && fs.isDirectory (pathOf path)
      if !(a.has "ignore-fail-on-non-empty" && fault = .notEmpty) then
        tell ("failed to remove " ++ words ++ inQuotes path ++ ": " ++
          (if isLink then "Symbolic link not followed" else fault.words))
        mark
      return false
  let rec upward : Nat → String → Tool Unit
    | 0, _ => return
    | fuel + 1, path => do
      let up := parentOf path
      if up ≠ "." && up ≠ "/" then
        if ← remove "directory " up then upward fuel up
  for path in a.operands do
    if (← remove "" path) && a.has "p" then upward nesting path

end ReleaseBuilder.Machine.Utility
