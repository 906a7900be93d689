/-
# Copying

Copying files and trees of directories, which may also be done by links, and installing
files with permissions of their own.
-/

import ReleaseBuilder.Machine.Utility.Permitting
import ReleaseBuilder.Machine.Utility.Placing

namespace ReleaseBuilder.Machine.Utility

/-- Which symbolic links a copy looks through. -/
inductive Looking where
  | always
  /-- Those that are given as sources. -/
  | given
  | never
  deriving DecidableEq

/-- How copies are made. -/
structure Copying where
  recursive : Bool := false
  looking : Looking := .always
  /-- Devices are copied by what can be read from them. -/
  asFiles : Bool := true
  /-- A file that cannot be opened for writing is removed. -/
  forced : Bool := false
  /-- A file is removed before it is copied to. -/
  clearing : Bool := false
  onto : Onto := .replace
  newerOnly : Bool := false
  keepMode : Bool := false
  /-- Files that are one stay one. -/
  keepLinks : Bool := false
  /-- What is made gets permissions as if it were new. -/
  plainMode : Bool := false
  wordy : Bool := false
  /-- The permissions of what is made, if they are fixed. -/
  mode : Option Nat := none
  /-- Links are made instead of copies; the mark says whether they are symbolic. -/
  linking : Option Bool := none
  backup : Option Backup := none

/-- What is remembered while copies are made. -/
structure Copied where
  /-- The entries that were copied as they were given. -/
  sources : List Location := []
  /-- The entries that were made of what was given. -/
  made : List Location := []
  /-- Where the nodes went that may be met again, and the first directory that was made. -/
  placed : List (Identity × String) := []
  /-- A directory was made for the source that is being copied. -/
  hasMade : Bool := false

/-- How a copy ended. -/
structure CopyEnd where
  fine : Bool := true
  /-- A directory was about to be copied into itself. -/
  inItself : Bool := false

/-- Work of a utility that copies. -/
abbrev CopyWork := StateT Copied Tool

/-- How a source and what stands at its destination are related. -/
inductive Relation where
  | distinct
  | same
  /-- They are one file already, as they are to be. -/
  | settled
  deriving DecidableEq

/-- How a source and what stands at its destination are related, for moving or copying. -/
def relation (fs : FileSystem) (k : Copying) (moving : Bool) (source dest : String)
    (src dst : Location × Node) : Relation :=
  let isOne := identityOf src = identityOf dst
  match nodeAt? fs source, nodeAt? fs dest with
  | some srcEntry, some dstEntry =>
    let isOneEntry := srcEntry.1 = dstEntry.1
    let (srcPlain, dstPlain) := if k.looking = .never then (src, dst) else (srcEntry, dstEntry)
    let isOnePlain := identityOf srcPlain = identityOf dstPlain
    let srcIsLink := isLinkNode srcPlain.2
    let dstIsLink := isLinkNode dstPlain.2
    let names := linkCount fs dstPlain.1 dstPlain.2
    let distinctIf (b : Bool) : Relation := if b then .distinct else .same
    if isOne && k.linking = some false then .settled
    else if k.looking = .never && srcIsLink && dstIsLink then distinctIf (!isOneEntry)
    else if k.looking ≠ .never && !isOne then .distinct
    else if k.looking ≠ .never && srcIsLink && dstIsLink && k.clearing then .distinct
    else if k.backup.isSome then
      if isOnePlain then distinctIf (!isOneEntry)
      else distinctIf (moving || k.looking = .never || !srcIsLink || dstIsLink)
    else if (moving || k.clearing) && dstIsLink then .distinct
    else if (moving || k.clearing) && isOnePlain && 1 < names && !isOneEntry then
      distinctIf (!moving)
    else if !srcIsLink && !dstIsLink && !isOnePlain then .distinct
    else if moving && srcIsLink && 1 < names then
      distinctIf ((fs.find? (pathOf source)).any fun found => found.1 ≠ dstEntry.1)
    else if k.linking = some true && dstIsLink then .distinct
    else if k.looking = .never then
      match fs.find? (pathOf source), fs.find? (pathOf dest) with
      | some x, some y => distinctIf (identityOf x ≠ identityOf y)
      | _, _ => .distinct
    else .same
  | _, _ => .distinct

/-- Whether a node is no newer than another one, going by the order in which files were made. -/
def isStale (src dst : Node) : Bool :=
  match src, dst with
  | .file a, .file b => a.number ≤ b.number
  | _, _ => true

/-- Complain about a copy that is not made. -/
def uncopied (words : String) : CopyWork CopyEnd := do
  tell words
  return { fine := false }

/-- Take note of where a node goes. The answer is where it went before, if it did. -/
def place (identity : Identity) (dest : String) : CopyWork (Option String) := do
  match (← get).placed.lookup identity with
  | some earlier => return some earlier
  | none =>
    modify fun c => { c with placed := (identity, dest) :: c.placed }
    return none

/-- Open the file that is copied to. `isNew` tells that nothing stands at the path. -/
def openCopy (k : Copying) (mode : Nat) (isNew : Bool) (dest : String) :
    Tool (Except String Nat) := do
  let cannotCreate (fault : SystemError) : Except String Nat :=
    .error ("cannot create regular file " ++ inQuotes dest ++ ": " ++ fault.words)
  let make : Tool (Except String Nat) := do
    match ← openPath { writable := true, create := true, exclusive := true, mode } dest with
    | .ok fd => return .ok fd
    | .error .exists =>
      if (nodeAt? (← files) dest).any (isLinkNode ·.2) then
        return .error ("not writing through dangling symlink " ++ inQuotes dest)
      else return cannotCreate .exists
    | .error fault =>
      let isSlash := fault = .isDirectory && dest.endsWith "/"
      return cannotCreate (if isSlash then .notDirectory else fault)
  if isNew then make
  else
    match ← openPath { writable := true, truncate := true } dest with
    | .ok fd => return .ok fd
    | .error .noEntry => make
    | .error fault =>
      if !k.forced then return cannotCreate fault
      else
        match ← change (·.remove (pathOf dest)) with
        | .ok () =>
          if k.wordy then emit ("removed " ++ inQuotes dest ++ "\n")
          make
        | .error fault => return .error ("cannot remove " ++ inQuotes dest ++ ": " ++ fault.words)

/-- The content that a descriptor leads to. -/
def contentAt (fd : Nat) : Tool (Except SystemError Content) := do
  let stored ← request (Program.look fun s =>
    match s.descriptor? fd with
    | some (_, { target := .file number, .. }) => (s.files.file? number).map File.content
    | _ => none)
  match stored with
  | some content => return .ok content
  | none =>
    match ← request (Program.readAll fd) with
    | .ok octets => return .ok (.octets octets)
    | .error fault => return .error fault

/-- Write a content to where a descriptor leads. -/
def fillAt (fd : Nat) (content : Content) : Tool (Except SystemError Unit) := do
  let isFilled ← request (Program.ask fun s =>
    match s.descriptor? fd with
    | some (_, { target := .file number, .. }) =>
      (true, { s with files := s.files.fill number content })
    | _ => (false, s))
  if isFilled then return .ok () else request (Program.write fd content.data)

/-- Copy what can be read from a path. -/
def copyFile (k : Copying) (source dest : String) (node : Node) (isNew : Bool) :
    Tool CopyEnd := do
  let failed (words : String) : Tool CopyEnd := do
    tell words
    return { fine := false }
  match ← openPath .reading source with
  | .error fault => failed ("cannot open " ++ inQuotes source ++ " for reading: " ++ fault.words)
  | .ok input =>
    let content ← contentAt input
    request (Program.close input)
    let mode := k.mode.getD node.access.mode % 512
    let umask ← request (Program.look fun s => s.me.umask)
    match content, ← openCopy k mode isNew dest with
    | _, .error words => failed words
    | .error fault, .ok fd =>
      request (Program.close fd)
      failed ("error reading " ++ inQuotes source ++ ": " ++ fault.words)
    | .ok content, .ok fd =>
      let written ← fillAt fd content
      request (Program.close fd)
      let wanted :=
        if k.mode.isSome then k.mode
        else if k.keepMode then some node.access.mode
        else if k.plainMode && isNew then some (Access.masked 0o666 umask)
        else none
      if let some mode := wanted then
        let _ ← change (·.setMode (pathOf dest) mode)
      match written with
      | .ok () => return {}
      | .error fault => failed ("error writing " ++ inQuotes dest ++ ": " ++ fault.words)

/-- Give a file another name, in place of what has it if that is asked for. -/
def copyName (replacing : Bool) (source dest : String) (follow : Bool) : Tool CopyEnd := do
  let fs ← files
  let whole := if follow then
      ((fs.find? (pathOf source)).map fun found => FileSystem.absolute found.1).getD (pathOf source)
    else pathOf source
  let done ← change fun fs => do
    let fs := if replacing then (fs.remove (pathOf dest)).toOption.getD fs else fs
    fs.addName whole (pathOf dest)
  match done with
  | .ok () => return {}
  | .error fault =>
    tell ("cannot create hard link " ++ inQuotes dest ++ " to " ++ inQuotes source ++ ": " ++
      fault.words)
    return { fine := false }

/-- Make a symbolic link, in place of what is there if that is asked for. -/
def makeLinkAt (replacing : Bool) (target dest : String) : Tool (Except SystemError Unit) :=
  change fun fs => do
    let fs := if replacing then (fs.remove (pathOf dest)).toOption.getD fs else fs
    fs.makeLink (pathOf dest) target

/-- What is found at a destination. -/
inductive Site where
  | vacant
  | taken (node : Location × Node)
  /-- Something that cannot be looked at. -/
  | hidden

/-- How it goes on where something stands. -/
inductive Clearance where
  /-- The copy ends. -/
  | ended (result : CopyEnd)
  /-- The copy goes on, with nothing left at the destination or something. -/
  | goesOn (isNew : Bool) (kept? : Option String)

/-- Whether what is at a path would be kept by the path of the source. -/
def isKeptBy (fs : FileSystem) (b : Backup) (source dest : String) (src : Location × Node) : Bool :=
  b.keeping ≠ .numbered && baseOf source = baseOf dest ++ b.ending &&
    (fs.find? (pathOf (dest ++ b.ending))).any fun found => identityOf found = identityOf src

/-- Make room for a copy where something stands. -/
def makeRoom (k : Copying) (isGiven : Bool) (source dest : String) (src dst : Location × Node) :
    CopyWork Clearance := do
  let fs ← files
  let refused (words : String) : CopyWork Clearance := return .ended (← uncopied words)
  let related := relation fs k false source dest src dst
  let isDir := src.2.isDirectory
  if k.onto ≠ .skip && related = .same then
    return ← refused (inQuotes source ++ " and " ++ inQuotes dest ++ " are the same file")
  if k.onto ≠ .skip && related = .settled then return .ended {}
  if k.newerOnly && !isDir && isStale src.2 dst.2 then return .ended {}
  if !isDir then
    if k.onto = .skip then return .ended {}
    if k.onto = .ask then
      if !(← mayReplace (k.clearing || k.forced) dest dst.2) then return .ended { fine := false }
  if isDir && !dst.2.isDirectory then
    return ← refused ("cannot overwrite non-directory " ++ inQuotes dest ++ " with directory " ++
      inQuotes source)
  let made := (← get).made
  let seen := (nodeAt? fs dest).any fun entry => made.contains entry.1
  let numbered := k.backup.any (·.keeping = .numbered)
  if isGiven && !dst.2.isDirectory && !numbered && seen then
    return ← refused ("will not overwrite just-created " ++ inQuotes dest ++ " with " ++
      inQuotes source)
  if !isDir && dst.2.isDirectory then
    return ← refused ("cannot overwrite directory " ++ inQuotes dest ++ " with non-directory")
  let base := baseOf source
  match k.backup.filter fun _ => base ≠ "." && base ≠ ".." && !dst.2.isDirectory with
  | some b =>
    if isKeptBy fs b source dest src then
      return ← refused ("backing up " ++ inQuotes dest ++ " might destroy source;  " ++
        inQuotes source ++ " not copied")
    match ← setAside b dest with
    | .ok kept => return .goesOn true (some kept)
    | .error fault => refused ("cannot backup " ++ inQuotes dest ++ ": " ++ fault.words)
  | none =>
    let goes := !dst.2.isDirectory &&
      (k.clearing || (k.keepLinks && 1 < linkCount fs dst.1 dst.2) ||
        (k.looking = .never && !src.2.isFile))
    if !goes then return .goesOn false none
    match ← change (·.remove (pathOf dest)) with
    | .ok () =>
      if k.wordy then emit ("removed " ++ inQuotes dest ++ "\n")
      return .goesOn true none
    | .error fault => refused ("cannot remove " ++ inQuotes dest ++ ": " ++ fault.words)

/-- Copy what is neither a directory nor met before. -/
def copyNode (k : Copying) (source dest : String) (node : Node) (isNew : Bool) :
    Tool CopyEnd := do
  let failed (words : String) : Tool CopyEnd := do
    tell words
    return { fine := false }
  match k.linking, node with
  | some true, _ =>
    let fs ← files
    let isHere := (fs.find? (pathOf (parentOf dest))).any (·.1 = fs.cwd)
    if !source.startsWith "/" && !isHere then
      failed (quotedName dest ++ ": can make relative symbolic links only in current directory")
    else
      match ← makeLinkAt k.forced source dest with
      | .ok () => return {}
      | .error fault =>
        failed ("cannot create symbolic link " ++ inQuotes dest ++ " to " ++ inQuotes source ++
          ": " ++ fault.words)
  | some false, _ => copyName (k.forced || k.onto = .ask) source dest (k.looking ≠ .never)
  | none, .link target =>
    match ← makeLinkAt k.forced target dest with
    | .ok () => return {}
    | .error fault =>
      failed ("cannot create symbolic link " ++ inQuotes dest ++ ": " ++ fault.words)
  | none, .device _ =>
    if k.asFiles then copyFile k source dest node isNew
    else failed ("cannot create special file " ++ inQuotes dest ++ ": Operation not permitted")
  | none, _ => copyFile k source dest node isNew

/-- What is found where a source goes to. A regular file may be written through a link, if it is
not removed or kept before. -/
def siteOf (fs : FileSystem) (k : Copying) (dest : String) (src : Node) : Except SystemError Site :=
  let asItself := (!src.isFile && (!k.asFiles || src.isDirectory || isLinkNode src)) ||
    k.linking.isSome || k.backup.isSome || k.clearing
  match fs.stat (!asItself) (pathOf dest) with
  | .ok dst => .ok (.taken dst)
  | .error fault =>
    if fault.cause = .noEntry then .ok .vacant
    else if fault.cause = .linkLoop && k.forced then .ok .hidden
    else .error fault.cause

/-- Look at where a source goes to, and make room there. -/
def approach (k : Copying) (isGiven : Bool) (source dest : String) (src : Location × Node) :
    CopyWork Clearance := do
  let fs ← files
  if isGiven then
    if let some (entry, _) := nodeAt? fs source then
      if !src.2.isDirectory && k.backup.isNone && (← get).sources.contains entry then
        tell ("warning: source file " ++ inQuotes source ++ " specified more than once")
        return .ended {}
      modify fun c => { c with sources := entry :: c.sources }
  match siteOf fs k dest src.2 with
  | .error fault =>
    return .ended (← uncopied ("cannot stat " ++ inQuotes dest ++ ": " ++ fault.words))
  | .ok .vacant => return .goesOn true none
  | .ok .hidden => return .goesOn false none
  | .ok (.taken dst) => makeRoom k isGiven source dest src dst

/-- How a copy ends of what was met before. `top` is the source and the destination that were
given. -/
def again (k : Copying) (top : String × String) (isGiven : Bool) (source dest earlier : String)
    (isDir : Bool) : CopyWork (Option CopyEnd) := do
  let fs ← files
  if !isDir then return some (← copyName true earlier dest false)
  else if isSameEntry fs source earlier then
    let problem ← uncopied ("cannot copy a directory, " ++ inQuotes top.1 ++
      ", into itself, " ++ inQuotes top.2)
    return some { problem with inItself := true }
  else if isSameEntry fs dest earlier then
    tell ("warning: source directory " ++ inQuotes top.1 ++ " specified more than once")
    return some {}
  else if k.looking = .always || (isGiven && k.looking = .given) then return none
  else
    return some (← uncopied ("will not create hard link " ++ inQuotes dest ++ " to directory " ++
      inQuotes earlier))

/-- Where a source went that was met before, if it has to be the same again. What may be met
again is taken note of. -/
def earlierPlace (k : Copying) (isGiven : Bool) (dest : String) (src : Location × Node) :
    CopyWork (Option String) := do
  let fs ← files
  let identity := identityOf src
  let isLooked := k.looking = .always || (isGiven && k.looking = .given)
  if src.2.isDirectory then
    if isGiven then place identity dest else return (← get).placed.lookup identity
  else if k.keepLinks && k.linking ≠ some false &&
      (1 < linkCount fs src.1 src.2 || isLooked) then place identity dest
  else return none

/-- Copy a directory, given how what is in it is copied. -/
def copyDirectory (k : Copying) (inner : String → String → CopyWork CopyEnd)
    (top : String × String) (source dest : String) (src : Location × Node) (isNew : Bool) :
    CopyWork CopyEnd := do
  let made ← if isNew then change (·.makeDirectory (pathOf dest)) else pure (.ok ())
  if let .error fault := made then
    return ← uncopied ("cannot create directory " ++ inQuotes dest ++ ": " ++ fault.words)
  if isNew then
    let _ ← change (·.setMode (pathOf dest) 0o700)
    if !(← get).hasMade then
      if let some entry := nodeAt? (← files) dest then
        let _ ← place (identityOf entry) dest
        modify fun c => { c with hasMade := true }
    if k.wordy then emit (inQuotes source ++ " -> " ++ inQuotes dest ++ "\n")
  let fs ← files
  let access := src.2.access
  let mut total : CopyEnd := {}
  if !access.allows .read then
    total ← uncopied ("cannot access " ++ inQuotes source ++ ": Permission denied")
  else
    let names := (fs.namesIn src.1).mergeSort fun a b => decide (a ≤ b)
    let (late, early) := names.partition fun name => isSameEntry fs (within source name) top.2
    for name in early ++ late do
      if !total.inItself then
        let one ← inner (within source name) (within dest name)
        total := { fine := total.fine && one.fine, inItself := one.inItself }
  let umask ← request (Program.look fun s => s.me.umask)
  let wanted :=
    if k.keepMode then some access.mode
    else if k.plainMode then some (Access.masked 0o777 umask)
    else if isNew then some (Access.masked access.mode umask)
    else none
  if let some mode := wanted then
    let _ ← change (·.setMode (pathOf dest) mode)
  return total

/-- Bring back what was kept, if a copy has failed. -/
def bringBack (k : Copying) (kept? : Option String) (dest : String) : Tool Unit := do
  if let some kept := kept? then
    match ← request (Program.ask (·.rename kept dest)) with
    | .ok () =>
      if k.wordy then emit (inQuotes kept ++ " -> " ++ inQuotes dest ++ " (unbackup)\n")
    | .error fault => tell ("cannot un-backup " ++ inQuotes dest ++ ": " ++ fault.words)

/-- Copy to where there is room. `inner` copies what is in a directory, `above` are the
directories that the source lies in. -/
def copyTo (k : Copying) (inner : String → String → CopyWork CopyEnd) (top : String × String)
    (above : List Location) (source dest : String) (src : Location × Node) (isNew : Bool)
    (kept? : Option String) : CopyWork CopyEnd := do
  let isGiven := above.isEmpty
  let isDir := src.2.isDirectory
  if isGiven && k.backup.isNone then
    if let some (entry, .link _) := nodeAt? (← files) dest then
      if (← get).made.contains entry then
        return ← uncopied ("will not copy " ++ inQuotes source ++
          " through just-created symlink " ++ inQuotes dest)
  if k.wordy && !isDir then
    emit (inQuotes source ++ " -> " ++ inQuotes dest ++ keptWords kept? ++ "\n")
  if let some earlier ← earlierPlace k isGiven dest src then
    if let some result ← again k top isGiven source dest earlier isDir then return result
  let result ←
    if !isDir then copyNode k source dest src.2 isNew
    else if above.contains src.1 then
      uncopied ("cannot copy cyclic symbolic link " ++ inQuotes source)
    else copyDirectory k inner top source dest src isNew
  if !result.fine then bringBack k kept? dest
  else if isGiven then
    if let some (entry, _) := nodeAt? (← files) dest then
      modify fun c => { c with made := entry :: c.made }
  return result

/-- Copy what is at a path, given how deep it may lie and the directories it lies in. `top` is
the source and the destination that were given. -/
def copyTree (k : Copying) (top : String × String) :
    Nat → List Location → String → String → CopyWork CopyEnd
  | 0, _, _, _ => return {}
  | depth + 1, above, source, dest => do
    match (← files).stat (k.looking ≠ .never) (pathOf source) with
    | .error fault => uncopied ("cannot stat " ++ inQuotes source ++ ": " ++ fault.cause.words)
    | .ok src =>
      if src.2.isDirectory && !k.recursive then
        uncopied ((if k.mode.isSome then "" else "-r not specified; ") ++ "omitting directory " ++
          inQuotes source)
      else
        match ← approach k above.isEmpty source dest src with
        | .ended result => return result
        | .goesOn isNew kept? =>
          let inside := { k with looking := if k.looking = .given then .never else k.looking }
          let inner := copyTree inside top depth (src.1 :: above)
          copyTo k inner top above source dest src isNew kept?

/-- Copy sources to the paths that they get, if they get any. -/
def copyEach (k : Copying) (goal : String → Tool (Option String)) (sources : List String) :
    Tool Unit := do
  let work : CopyWork Unit := do
    for source in sources do
      modify fun c => { c with hasMade := false }
      match ← goal source with
      | none => mark
      | some dest =>
        if !(← copyTree k (source, dest) nesting [] source dest).fine then mark
  let _ ← work.run {}

/-- Make the directories above a source below another directory. The answer tells whether they
are there. -/
def makeParents (k : Copying) (source dir : String) : Tool Bool := do
  let parents := (FileSystem.stages (pathOf source)).dropLast.map Path.text
  let rec each : List String → Tool Bool
    | [] => return true
    | parent :: rest => do
      let dest := dir ++ "/" ++ withoutSlashes parent
      let fs ← files
      match fs.find (pathOf parent) with
      | .error fault =>
        tell ("failed to get attributes of " ++ inQuotes parent ++ ": " ++ fault.cause.words)
        return false
      | .ok (_, node) =>
        match fs.find? (pathOf dest) with
        | some (_, found) =>
          if found.isDirectory then each rest
          else
            tell (inQuotes dest ++ " exists but is not a directory")
            return false
        | none =>
          let umask ← request (Program.look fun s => s.me.umask)
          let mode := if k.keepMode then node.access.mode else Access.masked node.access.mode umask
          match ← change fun fs => do
              let made ← fs.makeDirectory (pathOf dest)
              made.setMode (pathOf dest) (mode ||| 0o700) with
          | .ok () =>
            if k.wordy then emit (parent ++ " -> " ++ dest ++ "\n")
            each rest
          | .error fault =>
            tell ("cannot make directory " ++ inQuotes dest ++ ": " ++ fault.words)
            return false
  each parents

/-- What an option for newer files makes of a copy or a move. -/
def updated (k : Copying) (word? : Option String) : Tool Copying := do
  match word? with
  | none => return { k with newerOnly := true }
  | some word =>
    match ← meaning updateWords "--update" word with
    | .all => return { k with newerOnly := false, onto := .replace }
    | .absent => return { k with newerOnly := false, onto := .skip }
    | .older => return { k with newerOnly := true, onto := .replace }

/-- Keep what a list names, or leave it. -/
def preserving (k : Copying) (keeps : Bool) (words : List String) : Copying :=
  words.foldl
    (fun k word =>
      match word with
      | "mode" => { k with keepMode := keeps, plainMode := !keeps }
      | "links" => { k with keepLinks := keeps }
      | "all" => { k with keepMode := keeps, keepLinks := keeps, plainMode := !keeps }
      | _ => k)
    k

/-- The options of copying. -/
def cpSwitches : List Switch := transferSwitches ++
  [⟨"a", "archive", .never⟩, ⟨"d", "", .never⟩, ⟨"H", "", .never⟩, ⟨"l", "link", .never⟩,
    ⟨"L", "dereference", .never⟩, ⟨"p", "", .never⟩, ⟨"", "preserve", .maybe⟩,
    ⟨"P", "no-dereference", .never⟩, ⟨"r", "recursive", .never⟩, ⟨"R", "", .never⟩,
    ⟨"s", "symbolic-link", .never⟩, ⟨"x", "one-file-system", .never⟩,
    ⟨"", "no-preserve", .always⟩, ⟨"", "parents", .never⟩, ⟨"", "remove-destination", .never⟩,
    ⟨"", "attributes-only", .never⟩, ⟨"", "reflink", .maybe⟩, ⟨"", "sparse", .always⟩,
    ⟨"", "copy-contents", .never⟩]

/-- How an option changes the way copies are made. -/
def copyingWith (k : Copying) (g : Given) : Tool Copying := do
  let words := ((g.value.getD "mode").toList.splitOn ',').map String.ofList
  match g.key with
  | "a" =>
    return { k with recursive := true, looking := .never, keepMode := true, keepLinks := true }
  | "r" | "R" => return { k with recursive := true }
  | "d" => return { k with looking := .never, keepLinks := true }
  | "P" => return { k with looking := .never }
  | "H" => return { k with looking := .given }
  | "L" => return { k with looking := .always }
  | "f" => return { k with forced := true }
  | "i" => return { k with onto := .ask }
  | "n" =>
    tell ("warning: behavior of -n is non-portable and may change in future; " ++
      "use --update=none instead")
    return { k with onto := .skip }
  | "u" => updated k g.value
  | "p" => return { k with keepMode := true }
  | "preserve" => return preserving k true words
  | "no-preserve" => return preserving k false words
  | "l" => return { k with linking := some false }
  | "s" => return { k with linking := some true }
  | "v" => return { k with wordy := true }
  | "remove-destination" => return { k with clearing := true }
  | _ => return k

/-- Copy files, and directories if that is asked for. -/
def cp : Tool Unit := do
  let a ← arguments cpSwitches
  let isSteered := ["a", "d", "P", "H", "L"].any a.has
  let k ← a.given.foldlM copyingWith { backup := ← backupOf? a }
  if a.has "b" && a.has "n" then misuse "options --backup and --no-clobber are mutually exclusive"
  if a.has "l" && a.has "s" then misuse "cannot make both hard and symbolic links"
  let k := { k with
    looking := if isSteered then k.looking
      else if k.recursive && k.linking ≠ some false then .never else .always
    asFiles := !k.recursive || a.has "copy-contents" }
  let (sources, direction) ← directions a
  match direction with
  | .onto dest =>
    if a.has "parents" then misuse "with --parents, the destination must be a directory"
    let source := sources.headD ""
    match k.backup.filter fun _ => k.forced && source = dest with
    | some b =>
      let fs ← files
      if fs.isFile (pathOf dest) then
        let kept := keptPath fs b dest
        copyEach { k with backup := none } (fun _ => return some kept) [source]
      else copyEach k (fun _ => return some dest) [source]
    | none => copyEach k (fun _ => return some dest) [source]
  | .into dir =>
    let goal (source : String) : Tool (Option String) := do
      let base := baseOf source
      if !a.has "parents" then return some (within dir (if base = ".." then "." else source))
      else if ← makeParents k source dir then return some (dir ++ "/" ++ withoutSlashes source)
      else return none
    copyEach k goal sources

/-! ## Installing -/

/-- Make directories, those above included. The answer tells whether they are there. -/
def installDirectories (wordy : Bool) (path : String) : Tool Bool := do
  let rec each : List Path → Tool Bool
    | [] => return true
    | p :: rest => do
      if (← files).isDirectory p then each rest
      else
        match ← change (·.makeDirectory p) with
        | .ok () =>
          if wordy then emit ((← read).name ++ ": creating directory " ++ inQuotes p.text ++ "\n")
          each rest
        | .error fault =>
          let told := if fault = .exists && !rest.isEmpty then .notDirectory else fault
          tell ("cannot create directory " ++ inQuotes p.text ++ ": " ++ told.words)
          return false
  each (FileSystem.stages (pathOf path))

/-- Copy files and set their permissions, or make directories. -/
def install : Tool Unit := do
  let switches : List Switch := targetSwitches ++
    [⟨"d", "directory", .never⟩, ⟨"D", "", .never⟩, ⟨"m", "mode", .always⟩,
      ⟨"c", "", .never⟩, ⟨"p", "preserve-timestamps", .never⟩, ⟨"s", "strip", .never⟩,
      ⟨"o", "owner", .always⟩, ⟨"g", "group", .always⟩, ⟨"C", "compare", .never⟩]
  let a ← arguments switches
  let text := (a.value? "m").getD "755"
  let some mode := modeFrom? 0 false 0 text | refuse ("invalid mode " ++ inQuotes text)
  let wordy := a.has "v"
  if a.has "d" then
    if a.operands.isEmpty then misuse "missing file operand"
    for path in a.operands do
      if ← installDirectories wordy path then
        if let .error fault ← change (·.setMode (pathOf path) mode) then
          tell ("cannot change permissions of " ++ inQuotes path ++ ": " ++ fault.words)
          mark
      else mark
  else
    if a.has "D" then
      let above : List String :=
        match a.value? "t", a.operands with
        | some dir, _ => [dir]
        | none, [_, dest] => [parentOf dest]
        | none, _ => []
      for dir in above do
        if !(← installDirectories wordy dir) then quit 1
    let k : Copying :=
      { mode := some mode, wordy, clearing := true, backup := ← backupOf? a }
    let (sources, direction) ← directions a
    copyEach k (fun source => return some (direction.goal source)) sources

end ReleaseBuilder.Machine.Utility
