/-
# Moving and linking

Giving what is at a path another path, or a path more.
-/

import ReleaseBuilder.Machine.Utility.Copying

namespace ReleaseBuilder.Machine.Utility

/-! ## Moving -/

/-- What keeps a move from its end, before it is tried where something stands. -/
inductive Hindrance where
  /-- The move ends here; the mark says whether that is well. -/
  | ended (fine : Bool)
  | none (kept? : Option String)

/-- Make room for a move where something stands. -/
def clearWay (k : Copying) (made : List Location) (source dest : String)
    (src dst : Location × Node) : Tool Hindrance := do
  let fs ← files
  let refused (words : String) : Tool Hindrance := do
    tell words
    return .ended false
  let stays := k.onto = .skip || k.onto = .decline
  if !stays && relation fs k true source dest src dst = .same then
    return ← refused (inQuotes source ++ " and " ++ inQuotes dest ++ " are the same file")
  if k.newerOnly && !src.2.isDirectory && isStale src.2 dst.2 then return .ended true
  if k.onto = .skip then return .ended true
  if k.onto = .decline then return ← refused ("not replacing " ++ inQuotes dest)
  if k.onto = .ask then
    if !(← mayReplace true dest dst.2) then return .ended false
  if k.backup.isNone && src.2.isDirectory && !dst.2.isDirectory then
    return ← refused ("cannot overwrite non-directory " ++ inQuotes dest ++ " with directory " ++
      inQuotes source)
  if !dst.2.isDirectory && !k.backup.any (·.keeping = .numbered) && made.contains dst.1 then
    return ← refused ("will not overwrite just-created " ++ inQuotes dest ++ " with " ++
      inQuotes source)
  if k.backup.isNone && !src.2.isDirectory && dst.2.isDirectory then
    return ← refused ("cannot overwrite directory " ++ inQuotes dest ++ " with non-directory")
  let base := baseOf source
  match k.backup.filter fun _ => base ≠ "." && base ≠ ".." with
  | none => return .none none
  | some b =>
    if isKeptBy fs b source dest src then
      return ← refused ("backing up " ++ inQuotes dest ++ " might destroy source;  " ++
        inQuotes source ++ " not moved")
    match ← setAside b dest with
    | .ok kept => return .none (some kept)
    | .error fault => refused ("cannot backup " ++ inQuotes dest ++ ": " ++ fault.words)

/-- Move what is at a path, given what was made by moves before. The answer is whether that
went well. -/
def moveOne (k : Copying) (made : List Location) (source dest : String) : Tool Bool := do
  let failed (words : String) : Tool Bool := do
    tell words
    return false
  let attempt : Tool (Except SystemError Unit) := request (Program.ask (·.rename source dest))
  let finish (kept? : Option String) (done : Except SystemError Unit) : Tool Bool := do
    match done with
    | .ok () =>
      if k.wordy then
        emit ("renamed " ++ inQuotes source ++ " -> " ++ inQuotes dest ++ keptWords kept? ++ "\n")
      return true
    | .error .invalid =>
      failed ("cannot move " ++ inQuotes source ++ " to a subdirectory of itself, " ++
        inQuotes dest)
    | .error fault =>
      if [.exists, .isDirectory, .notEmpty, .noSpace, .fileBusy].contains fault then
        failed ("cannot overwrite " ++ inQuotes dest ++ ": " ++ fault.words)
      else
        failed ("cannot move " ++ inQuotes source ++ " to " ++ inQuotes dest ++ ": " ++ fault.words)
  let fs ← files
  match fs.stat false (pathOf source), fs.stat false (pathOf dest) with
  | .error fault, _ => failed ("cannot stat " ++ inQuotes source ++ ": " ++ fault.cause.words)
  | .ok src, .ok dst =>
    match ← clearWay k made source dest src dst with
    | .ended fine => return fine
    | .none kept? => finish kept? (← attempt)
  | .ok _, .error fault =>
    if fault.cause = .noEntry then finish none (← attempt)
    else failed ("cannot stat " ++ inQuotes dest ++ ": " ++ fault.cause.words)

/-- How an option changes the way files are moved. -/
def movingWith (k : Copying) (g : Given) : Tool Copying := do
  match g.key with
  | "f" => return { k with onto := .replace }
  | "i" => return { k with onto := .ask }
  | "n" => return { k with onto := .decline }
  | "u" => if k.onto = .decline then return k else updated k g.value
  | "v" => return { k with wordy := true }
  | _ => return k

/-- Move files and directories. -/
def mv : Tool Unit := do
  let a ← arguments transferSwitches
  let start : Copying := { recursive := true, looking := .never, backup := ← backupOf? a }
  let k ← a.given.foldlM movingWith start
  if a.has "b" && k.onto = .decline then
    misuse "options --backup and --no-clobber are mutually exclusive"
  let (sources, direction) ← directions a
  let mut made : List Location := []
  for source in sources do
    let source := if a.has "strip-trailing-slashes" then withoutSlashes source else source
    let dest := direction.goal source
    if ← moveOne k made source dest then
      if let some (entry, _) := nodeAt? (← files) dest then made := entry :: made
    else mark

/-! ## Linking -/

/-- How links are made. -/
structure Linking where
  symbolic : Bool
  /-- The target is told as seen from the link. -/
  relative : Bool
  forced : Bool
  asking : Bool
  /-- Names are given to what symbolic links lead to. -/
  follow : Bool
  wordy : Bool
  backup : Option Backup

/-- The way from one absolute path to another one. -/
def wayBetween (start goal : List String) : String :=
  let rec shared : List String → List String → Nat
    | a :: as, b :: bs => if a = b then shared as bs + 1 else 0
    | _, _ => 0
  let n := shared start goal
  let names := List.replicate (start.length - n) ".." ++ goal.drop n
  if names.isEmpty then "." else "/".intercalate names

/-- The target of a link as seen from it. -/
def targetFrom (fs : FileSystem) (target path : String) : String :=
  match canonical fs .nothing target, canonical fs .nothing (parentOf path) with
  | .ok goal, .ok start =>
    let names (s : String) := ((s.toList.splitOn '/').map String.ofList).filter (!·.isEmpty)
    wayBetween (names start) (names goal)
  | _, _ => target

/-- Why what is found at a path cannot get another name, if it cannot. -/
def unnameable? (path : String) : Except Fault (Location × Node) → Option String
  | .error fault => some ("failed to access " ++ inQuotes path ++ ": " ++ fault.cause.words)
  | .ok (_, .directory _) => some (quotedName path ++ ": hard link not allowed for directory")
  | .ok _ => none

/-- Make one link. The answer is whether that went well. `made` are the entries that were made
before as names of files. -/
def linkOne (k : Linking) (made : List Location) (given path : String) : Tool Bool := do
  let failed (words : String) : Tool Bool := do
    tell words
    return false
  let fs ← files
  let found := fs.stat k.follow (pathOf given)
  let target := if k.relative then targetFrom fs given path else given
  let problem? := if k.symbolic then none else unnameable? given found
  if let some problem := problem? then return ← failed problem
  let whole := match found with
    | .ok (loc, _) => if k.follow then FileSystem.absolute loc else pathOf given
    | .error _ => pathOf given
  let make : Tool (Except SystemError Unit) :=
    change fun fs =>
      if k.symbolic then fs.makeLink (pathOf path) target
      else fs.addName whole (pathOf path)
  let finish (kept? : Option String) (done : Except SystemError Unit) : Tool Bool := do
    match done with
    | .ok () =>
      let before := (kept?.map fun kept => inQuotes kept ++ " ~ ").getD ""
      if k.wordy then
        emit (before ++ inQuotes path ++ (if k.symbolic then " -> " else " => ") ++
          inQuotes target ++ "\n")
      return true
    | .error fault =>
      if let some kept := kept? then
        let _ ← request (Program.ask (·.rename kept path))
      let kind := if k.symbolic then "symbolic link " else "hard link "
      let onto :=
        if k.symbolic then
          if fault = .nameTooLong || target.isEmpty then " -> " ++ inQuotes target else ""
        else if fault = .exists || fault = .noSpace then ""
        else " => " ++ inQuotes target
      failed ("failed to create " ++ kind ++ inQuotes path ++ onto ++ ": " ++ fault.words)
  match nodeAt? fs path with
  | some dst =>
    if !(k.forced || k.asking || k.backup.isSome) then finish none (← make)
    else if dst.2.isDirectory then failed (quotedName path ++ ": cannot overwrite directory")
    else if made.contains dst.1 then
      failed ("will not overwrite just-created " ++ inQuotes path ++ " with " ++ inQuotes target)
    else
      let source? := if k.symbolic then fs.find? (pathOf given) else found.toOption
      let isSame := (k.backup.isNone || !k.symbolic) &&
        source?.any fun src => identityOf src = identityOf dst &&
          (linkCount fs src.1 src.2 = 1 || isSameEntry fs given path)
      if isSame then failed (inQuotes given ++ " and " ++ inQuotes path ++ " are the same file")
      else if !(← isAgreed k.asking ("replace " ++ inQuotes path ++ "? ")) then return false
      else
        match k.backup with
        | some b =>
          match ← setAside b path with
          | .ok kept => finish (some kept) (← make)
          | .error fault => failed ("cannot backup " ++ inQuotes path ++ ": " ++ fault.words)
        | none =>
          let isOne := source?.any fun src => !k.symbolic && identityOf src = identityOf dst
          if isOne then finish none (.ok ())
          else
            let _ ← change (·.remove (pathOf path))
            finish none (← make)
  | none => finish none (← make)

/-- Make links. -/
def ln : Tool Unit := do
  let switches : List Switch := targetSwitches ++
    [⟨"n", "no-dereference", .never⟩, ⟨"s", "symbolic", .never⟩, ⟨"r", "relative", .never⟩,
      ⟨"L", "logical", .never⟩, ⟨"P", "physical", .never⟩, ⟨"d", "directory", .never⟩,
      ⟨"F", "", .never⟩]
  let a ← arguments switches
  let fs ← files
  let isPlace (path : String) : Bool :=
    fs.isDirectory (pathOf path) && !(a.has "n" && (nodeAt? fs path).any (isLinkNode ·.2))
  let pairs ←
    match a.value? "t", a.operands with
    | _, [] => misuse "missing file operand"
    | some dir, operands =>
      if a.has "T" then refuse "cannot combine --target-directory and --no-target-directory"
      if !fs.pathExists (pathOf dir) then
        refuse ("failed to access " ++ inQuotes dir ++ ": " ++ SystemError.noEntry.words)
      if !isPlace dir then refuse ("target " ++ inQuotes dir ++ " is not a directory")
      pure (operands.map fun target => (target, within dir target))
    | none, [target] =>
      if a.has "T" then misuse ("missing destination file operand after " ++ inQuotes target)
      pure [(target, within "." target)]
    | none, operands =>
      let dest := operands.getLastD ""
      if a.has "T" then
        if let some extra := operands[2]? then extraOperand extra
        pure [(operands.headD "", dest)]
      else if isPlace dest then
        pure (operands.dropLast.map fun target => (target, within dest target))
      else if operands.length = 2 then pure [(operands.headD "", dest)]
      else refuse ("target " ++ inQuotes dest ++ ": " ++ unfitness fs dest)
  if a.has "r" && !a.has "s" then refuse "cannot do --relative without --symbolic"
  let k : Linking :=
    { symbolic := a.has "s", relative := a.has "r", forced := a.last? ["f", "i"] = some "f"
      asking := a.last? ["f", "i"] = some "i", follow := a.last? ["L", "P"] = some "L"
      wordy := a.has "v", backup := ← backupOf? a }
  let mut made : List Location := []
  for (target, path) in pairs do
    if ← linkOne k made target path then
      if !k.symbolic && 1 < pairs.length then
        if let some (entry, _) := nodeAt? (← files) path then made := entry :: made
    else mark

end ReleaseBuilder.Machine.Utility
