/-
# Utilities for names and places

The parts of a path, where links lead, where the utility works, and what the machine is.
-/

import ReleaseBuilder.Machine.Image
import ReleaseBuilder.Machine.Shell.Builtin.Places
import ReleaseBuilder.Machine.Utility.Tool

namespace ReleaseBuilder.Machine.Utility

/-- The last name of a path. -/
def baseOf (path : String) : String :=
  let cs := (path.toList.reverse.dropWhile (· = '/'))
  if cs.isEmpty then (if path.isEmpty then "" else "/")
  else String.ofList (cs.takeWhile (· ≠ '/')).reverse

/-- What stands before the last name of a path. -/
def parentOf (path : String) : String :=
  let cs := path.toList.reverse.dropWhile (· = '/')
  let front := (cs.dropWhile (· ≠ '/')).dropWhile (· = '/')
  if front.isEmpty then (if path.startsWith "/" then "/" else ".")
  else String.ofList front.reverse

/-- A name without an ending, unless nothing would be left. -/
def withoutEnding (ending name : String) : String :=
  if !ending.isEmpty && name.endsWith ending && name ≠ ending then
    String.ofList (name.toList.take (name.length - ending.length))
  else name

/-- The last names of paths. -/
def basename : Tool Unit := do
  let switches : List Switch :=
    [⟨"a", "multiple", .never⟩, ⟨"s", "suffix", .always⟩, ⟨"z", "zero", .never⟩]
  let a ← arguments switches false
  let ending := if a.has "z" then "\x00" else "\n"
  match a.operands with
  | [] => missingOperand
  | path :: rest =>
    if a.has "a" || a.has "s" then
      for path in a.operands do
        emit (withoutEnding ((a.value? "s").getD "") (baseOf path) ++ ending)
    else
      if let extra :: _ := rest.drop 1 then extraOperand extra
      emit (withoutEnding (rest.headD "") (baseOf path) ++ ending)

/-- What stands before the last names of paths. -/
def dirname : Tool Unit := do
  let a ← arguments [⟨"z", "zero", .never⟩]
  if a.operands.isEmpty then missingOperand
  for path in a.operands do
    emit (parentOf path ++ (if a.has "z" then "\x00" else "\n"))

/-- The path of a location. -/
def absolutePath (loc : Location) : String :=
  "/" ++ "/".intercalate loc

/-- Tell the working directory. -/
def pwd : Tool Unit := do
  let a ← arguments [⟨"L", "logical", .never⟩, ⟨"P", "physical", .never⟩]
  let here ← request (Program.look Shell.placeOf)
  let told := (valueIn? (← read).env "PWD").getD ""
  let fs ← files
  if a.last? ["L", "P"] = some "L" && told.startsWith "/" && isSame fs told "." then
    emit (told ++ "\n")
  else emit (here ++ "\n")

/-- How much of a path must be there. -/
inductive Demand where
  | all
  | allButLast
  | nothing
  deriving DecidableEq

/-- The path without links that a path leads to. -/
def canonical (fs : FileSystem) (demand : Demand) (path : String) : Except SystemError String :=
  match fs.place true (pathOf path) with
  | .ok (.found loc _) => .ok (absolutePath loc)
  | .ok (.vacant loc) => if demand = .all then .error .noEntry else .ok (absolutePath loc)
  | .error fault =>
    if demand = .nothing then
      let whole := Shell.wayTo (absolutePath fs.cwd) path
      .ok whole
    else .error fault.cause

/-- Tell where links lead. -/
def readlink : Tool Unit := do
  let switches : List Switch :=
    [⟨"f", "canonicalize", .never⟩, ⟨"e", "canonicalize-existing", .never⟩,
      ⟨"m", "canonicalize-missing", .never⟩, ⟨"n", "no-newline", .never⟩,
      ⟨"q", "quiet", .never⟩, ⟨"s", "silent", .never⟩, ⟨"v", "verbose", .never⟩,
      ⟨"z", "zero", .never⟩]
  let a ← arguments switches
  if a.operands.isEmpty then missingOperand
  let fs ← files
  let ending :=
    if a.has "z" then "\x00" else if a.has "n" && a.operands.length = 1 then "" else "\n"
  for path in a.operands do
    let found : Except SystemError String :=
      match a.last? ["f", "e", "m"] with
      | some "f" => canonical fs .allButLast path
      | some "e" => canonical fs .all path
      | some _ => canonical fs .nothing path
      | none =>
        match fs.stat false (pathOf path) with
        | .ok (_, .link target) => .ok target
        | .ok _ => .error .invalid
        | .error fault => .error fault.cause
    match found with
    | .ok target => emit (target ++ ending)
    | .error fault =>
      if a.has "v" then tellFault path fault
      mark

/-- Tell paths without links. -/
def realpath : Tool Unit := do
  let switches : List Switch :=
    [⟨"e", "canonicalize-existing", .never⟩, ⟨"m", "canonicalize-missing", .never⟩,
      ⟨"q", "quiet", .never⟩, ⟨"s", "strip", .never⟩, ⟨"s", "no-symlinks", .never⟩,
      ⟨"L", "logical", .never⟩, ⟨"P", "physical", .never⟩, ⟨"z", "zero", .never⟩]
  let a ← arguments switches
  if a.operands.isEmpty then missingOperand
  let fs ← files
  let demand : Demand := if a.has "e" then .all else if a.has "m" then .nothing else .allButLast
  for path in a.operands do
    let found := if a.has "s" then .ok (Shell.wayTo (absolutePath fs.cwd) path)
      else canonical fs demand path
    match found with
    | .ok target => emit (target ++ (if a.has "z" then "\x00" else "\n"))
    | .error fault =>
      if !a.has "q" then tellFault path fault
      mark

/-- The name of the kernel. -/
def kernelName : String := "Linux"

/-- The name of the hardware. -/
def machineName : String := "x86_64"

/-- Say what the machine is. -/
def uname : Tool Unit := do
  let parts : List (String × String × String) :=
    [("s", "kernel-name", kernelName), ("n", "nodename", "localhost"),
      ("r", "kernel-release", "6.0.0"), ("v", "kernel-version", "#1 SMP"),
      ("m", "machine", machineName), ("p", "processor", "unknown"),
      ("i", "hardware-platform", "unknown"), ("o", "operating-system", "GNU/Linux")]
  let switches : List Switch :=
    ⟨"a", "all", .never⟩ :: parts.map fun (letter, word, _) => ⟨letter, word, .never⟩
  let a ← arguments switches
  if let extra :: _ := a.operands then extraOperand extra
  let chosen := parts.filter fun (letter, _, value) =>
    if a.has "a" then value ≠ "unknown"
    else if a.given.isEmpty then letter = "s" else a.has letter
  emit (" ".intercalate (chosen.map fun part => part.2.2) ++ "\n")

/-- Tell where programs are. -/
def which : Tool Unit := do
  let call ← read
  let all := call.args.head? = some "-a"
  let names := if all then call.args.tail else call.args
  let fs ← files
  let dirs := Image.directories ((valueIn? call.env "PATH").getD "")
  for name in names do
    let found :=
      if name.toList.contains '/' then if Image.isStartable fs name then [name] else []
      else
        (dirs.map fun dir => (if dir.isEmpty then "." else dir) ++ "/" ++ name).filter
          (Image.isStartable fs)
    for path in if all then found else found.take 1 do emit (path ++ "\n")
    if found.isEmpty || name.isEmpty then mark
  if names.isEmpty then mark

end ReleaseBuilder.Machine.Utility
