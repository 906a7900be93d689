/-
# Where files go

Utilities that copy, move and link files take the paths that these get from their operands:
the last one is a directory that the others go to, or the path of the only other one. What
stands there already may be kept under another name.
-/

import ReleaseBuilder.Machine.Utility.Asking
import ReleaseBuilder.Machine.Utility.Describing
import ReleaseBuilder.Machine.Utility.Names

namespace ReleaseBuilder.Machine.Utility

/-- What a node is known by: a file by its number, anything else by where it is. -/
inductive Identity where
  | file (number : Nat)
  | place (loc : Location)
  deriving DecidableEq

/-- What the node at a location is known by. -/
def identityOf (found : Location × Node) : Identity :=
  match found.2 with
  | .file f => .file f.number
  | _ => .place found.1

/-- Whether a node is a symbolic link. -/
def isLinkNode : Node → Bool
  | .link _ => true
  | _ => false

/-- What is at a path, a link at its end not followed. -/
def nodeAt? (fs : FileSystem) (path : String) : Option (Location × Node) :=
  (fs.stat false (pathOf path)).toOption

/-- Whether two paths are one entry of one directory. -/
def isSameEntry (fs : FileSystem) (a b : String) : Bool :=
  match nodeAt? fs a, nodeAt? fs b with
  | some x, some y => x.1 = y.1
  | _, _ => false

/-- The path that something gets in a directory. -/
def within (dir path : String) : String :=
  (if dir.endsWith "/" then dir else dir ++ "/") ++ baseOf path

/-! ## Keeping what is replaced -/

/-- By which names replaced files are kept. -/
inductive Keeping where
  | simple
  | numbered
  /-- With numbers where there are some already. -/
  | existing
  deriving DecidableEq

/-- How replaced files are kept. -/
structure Backup where
  keeping : Keeping
  /-- What is added to a name that gets no number. -/
  ending : String
  deriving DecidableEq

/-- The words for names by which replaced files are kept. -/
def keepingWords : List (String × Option Keeping) :=
  [("none", none), ("off", none), ("simple", some .simple), ("never", some .simple),
    ("existing", some .existing), ("nil", some .existing), ("numbered", some .numbered),
    ("t", some .numbered)]

/-- How a call wants replaced files to be kept, if it does. -/
def backupOf? (a : Arguments) : Tool (Option Backup) := do
  if !a.has "b" && !a.has "S" then return none
  let env := (← read).env
  let usual := (valueIn? env "VERSION_CONTROL").filter (!·.isEmpty)
  let keeping ←
    match (a.value? "b").filter (!·.isEmpty), usual with
    | some word, _ => meaning keepingWords "backup type" word
    | none, some word => meaning keepingWords "$VERSION_CONTROL" word
    | none, none => pure (some .existing)
  let ending := ((a.value? "S").or (valueIn? env "SIMPLE_BACKUP_SUFFIX")).getD ""
  let ending := if ending.isEmpty || ending.toList.contains '/' then "~" else ending
  return keeping.map fun keeping => { keeping, ending }

/-- The numbers by which files of a name are kept in a directory. -/
def keptNumbers (names : List String) (base : String) : List Nat :=
  names.filterMap fun name =>
    let rest := name.toList.drop (base.length + 2)
    if name.startsWith (base ++ ".~") && name.endsWith "~" then
      (natural? (String.ofList rest.dropLast)).filter (0 < ·)
    else none

/-- The path by which what is at a path is kept. -/
def keptPath (fs : FileSystem) (b : Backup) (path : String) : String :=
  let names := match fs.find (pathOf (parentOf path)) with
    | .ok (loc, _) => fs.namesIn loc
    | .error _ => []
  let numbers := keptNumbers names (baseOf path)
  if b.keeping = .numbered || (b.keeping = .existing && !numbers.isEmpty) then
    path ++ ".~" ++ toString (numbers.foldl max 0 + 1) ++ "~"
  else path ++ b.ending

/-- Keep what is at a path by another one, which is the answer. -/
def setAside (b : Backup) (path : String) : Tool (Except SystemError String) := do
  let kept := keptPath (← files) b path
  match ← request (Program.ask (·.rename path kept)) with
  | .ok () => return .ok kept
  | .error fault => return .error fault

/-- What is told of a path by which something is kept. -/
def keptWords (kept? : Option String) : String :=
  (kept?.map fun kept => " (backup: " ++ inQuotes kept ++ ")").getD ""

/-! ## Operands -/

/-- The options that tell where files go. -/
def targetSwitches : List Switch :=
  [⟨"f", "force", .never⟩, ⟨"i", "interactive", .never⟩, ⟨"t", "target-directory", .always⟩,
    ⟨"T", "no-target-directory", .never⟩, ⟨"v", "verbose", .never⟩, ⟨"b", "", .never⟩,
    ⟨"b", "backup", .maybe⟩, ⟨"S", "suffix", .always⟩]

/-- The options that copying and moving share. -/
def transferSwitches : List Switch := targetSwitches ++
  [⟨"n", "no-clobber", .never⟩, ⟨"u", "", .never⟩, ⟨"u", "update", .maybe⟩, ⟨"Z", "", .never⟩,
    ⟨"", "strip-trailing-slashes", .never⟩, ⟨"", "debug", .never⟩,
    ⟨"", "no-copy", .never⟩]

/-- A path without separators at its end. -/
def withoutSlashes (path : String) : String :=
  let front := (path.toList.reverse.dropWhile (· = '/')).reverse
  if front.isEmpty then path else String.ofList front

/-- Where sources go: into a directory, or one of them to a path. -/
inductive Direction where
  | into (dir : String)
  | onto (dest : String)

/-- Why a path does not lead to a directory. -/
def unfitness (fs : FileSystem) (path : String) : String :=
  match fs.find (pathOf path) with
  | .ok _ => SystemError.notDirectory.words
  | .error fault => fault.cause.words

/-- The sources of a call, and where they go. -/
def directions (a : Arguments) : Tool (List String × Direction) := do
  let fs ← files
  let isPlain := a.has "strip-trailing-slashes"
  let plain (paths : List String) := if isPlain then paths.map withoutSlashes else paths
  match a.value? "t", a.operands.reverse with
  | _, [] => misuse "missing file operand"
  | some dir, _ =>
    if a.has "T" then
      refuse "cannot combine --target-directory (-t) and --no-target-directory (-T)"
    if !fs.isDirectory (pathOf dir) then
      refuse ("target directory " ++ inQuotes dir ++ ": " ++ unfitness fs dir)
    return (plain a.operands, .into dir)
  | none, [one] => misuse ("missing destination file operand after " ++ inQuotes one)
  | none, dest :: others =>
    if a.has "T" then
      if let some extra := a.operands[2]? then extraOperand extra
      return (others, .onto dest)
    else if fs.isDirectory (pathOf dest) then return (plain others.reverse, .into dest)
    else if 1 < others.length then refuse ("target " ++ inQuotes dest ++ ": " ++ unfitness fs dest)
    else return (others, .onto dest)

/-- The path that a source goes to. -/
def Direction.goal (direction : Direction) (source : String) : String :=
  match direction with
  | .onto dest => dest
  | .into dir => within dir source

/-- What is done where something stands already. -/
inductive Onto where
  | replace
  | ask
  /-- It stays, and that is well. -/
  | skip
  /-- It stays, which is a failure. -/
  | decline
  deriving DecidableEq

/-- Whether what stands at a path may be replaced, as far as one who was asked says. `clearing`
tells that it is removed rather than written over. -/
def mayReplace (clearing : Bool) (path : String) (node : Node) : Tool Bool :=
  let mode := node.access.mode
  if isLinkNode node || node.allows .write then isConfirmed ("overwrite " ++ inQuotes path ++ "? ")
  else if clearing then
    isConfirmed ("replace " ++ inQuotes path ++ ", overriding mode " ++ octalMode mode ++ " (" ++
      permissionText mode ++ ")? ")
  else
    isConfirmed ("unwritable " ++ inQuotes path ++ " (mode " ++ octalMode mode ++ ", " ++
      permissionText mode ++ "); try anyway? ")

/-- What an option for newer files says: what is done where something stands, and whether only
newer files are taken. -/
inductive Update where
  | all
  | absent
  | older
  deriving DecidableEq

/-- The words for which files are replaced. -/
def updateWords : List (String × Update) :=
  [("all", .all), ("none", .absent), ("older", .older)]

end ReleaseBuilder.Machine.Utility
