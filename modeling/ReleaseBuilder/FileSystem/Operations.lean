/-
# Reading and changing files

The requests that a release and the programs it runs make of a file system. A request
that is refused changes nothing. A file that was opened is known by its number from then
on, whatever happens to the names it had.
-/

import ReleaseBuilder.FileSystem.Lookup

namespace ReleaseBuilder

/-- What a file opened for writing writes to. -/
inductive Outlet where
  | file (number : Nat)
  | device (device : Device)
  deriving DecidableEq, Repr

/-- Why an outlet does not take what is written to it, if it does not. -/
def Outlet.refusal? : Outlet → Option Fault
  | .device .full => some (.system .noSpace)
  | _ => none

@[simp] theorem Outlet.refusal?_file (number : Nat) : (Outlet.file number).refusal? = none := rfl

/-- The place of a directory entry, and what stands there; a symbolic link stands for
itself. -/
structure Slot where
  loc : Location
  node? : Option Node
  /-- The path has a separator at its end. -/
  slash : Bool

namespace FileSystem

/-- The content at a path. A device gives what can be read from it to its end, if it has one. -/
def read (fs : FileSystem) (p : Path) : Except Fault Content :=
  match fs.find p with
  | .error fault => .error fault
  | .ok (_, node) =>
    if !node.allows .read then .error (.system .denied)
    else
      match node with
      | .file f => .ok f.content
      | .directory _ => .error (.system .isDirectory)
      | .device .null => .ok .empty
      | .device _ => .error .endless
      | .link _ => .error (.system .linkLoop)

/-- The text at a path. -/
def readText (fs : FileSystem) (p : Path) : Except Fault String :=
  match fs.read p with
  | .error fault => .error fault
  | .ok content =>
    match content.text? with
    | some text => .ok text
    | none => .error .notText

/-- The names in the directory at a path, in no particular order. -/
def list (fs : FileSystem) (p : Path) : Except Fault (List String) :=
  match fs.find p with
  | .error fault => .error fault
  | .ok (loc, .directory access) =>
    if access.allows .read then .ok (fs.namesIn loc) else .error (.system .denied)
  | .ok _ => .error (.system .notDirectory)

/-- Open a file for writing, as it is. A file that is missing is made with the given
permissions, less those of the mask. -/
def openOutput (fs : FileSystem) (p : Path) (mode : Nat) : Except Fault (Outlet × FileSystem) :=
  match fs.arrive { follow := true, creating := true } p with
  | .error fault => .error fault
  | .ok (.found _ (.file f)) =>
    if f.access.allows .write then .ok (.file f.number, fs) else .error (.system .denied)
  | .ok (.found _ (.device d)) => .ok (.device d, fs)
  | .ok (.found _ _) => .error (.system .isDirectory)
  | .ok (.vacant loc) =>
    if fs.mayAt loc.dropLast .write then
      .ok (.file fs.next, fs.putFile loc .empty ⟨Access.masked mode fs.umask, .user⟩)
    else .error (.system .denied)

/-- Give an outlet a content. What a device is given is gone. -/
def pour (fs : FileSystem) (outlet : Outlet) (content : Content) : FileSystem :=
  match outlet with
  | .file number => fs.fill number content
  | .device _ => fs

/-- Put octets at an offset of an outlet. -/
def overwrite (fs : FileSystem) (outlet : Outlet) (offset : Nat) (octets : ByteArray) :
    FileSystem :=
  match outlet with
  | .file number =>
    let old := ((fs.file? number).map fun f => f.content.data).getD ByteArray.empty
    fs.fill number (.octets (Content.overwritten old offset octets))
  | .device _ => fs

/-- Open a file for writing, empty: a file that is there loses its content. -/
def create (fs : FileSystem) (p : Path) : Except Fault (Outlet × FileSystem) :=
  match fs.openOutput p Access.fileMode with
  | .error fault => .error fault
  | .ok (outlet, opened) => .ok (outlet, opened.pour outlet .empty)

/-- Write a whole file. -/
def write (fs : FileSystem) (p : Path) (content : Content) : Except Fault FileSystem :=
  match fs.openOutput p Access.fileMode with
  | .error fault => .error fault
  | .ok (outlet, opened) =>
    match outlet.refusal? with
    | some fault => .error fault
    | none => .ok (opened.pour outlet content)

/-- The place of the directory entry that a path names. `special` is the refusal of a path
that names a directory by itself: the root, or one that ends in `.` or `..`. -/
def slot (fs : FileSystem) (special : String → SystemError) (p : Path) : Except Fault Slot :=
  let parent : Path := ⟨(if p.isAbsolute then "/" else "./") ++ "/".intercalate p.pieces.dropLast⟩
  if p.text.toList.contains '\x00' then .error .nulInName
  else if p.text.isEmpty then .error (.system .noEntry)
  else if pathLimit ≤ p.text.length then .error (.system .nameTooLong)
  else
    match fs.find parent with
    | .error fault => .error fault
    | .ok (loc, .directory access) =>
      match p.pieces.getLast? with
      | none => .error (.system (special "/"))
      | some name =>
        if (fs.directoryAt? loc).isNone then .error (.system .noEntry)
        else if !access.allows .enter then .error (.system .denied)
        else if name = "." || name = ".." then .error (.system (special name))
        else if nameLimit < name.length then .error (.system .nameTooLong)
        else .ok ⟨loc ++ [name], fs.get? (loc ++ [name]), p.endsWithSlash⟩
    | .ok _ => .error (.system .notDirectory)

/-- Whether the user may add an entry to a directory, or take one away. -/
def mayChange (fs : FileSystem) (s : Slot) : Bool :=
  fs.mayAt s.loc.dropLast .write

/-- Remove a file or a symbolic link; a link is not followed. -/
def remove (fs : FileSystem) (p : Path) : Except Fault FileSystem :=
  match fs.slot (fun _ => .isDirectory) p with
  | .error fault => .error fault
  | .ok s =>
    match s.node?, s.slash with
    | none, _ => .error (.system .noEntry)
    | some (.directory _), true => .error (.system .isDirectory)
    | some _, true => .error (.system .notDirectory)
    | some node, false =>
      if !fs.mayChange s then .error (.system .denied)
      else if node.isDirectory then .error (.system .isDirectory)
      else .ok (fs.erase s.loc)

/-- Remove an empty directory. -/
def removeDirectory (fs : FileSystem) (p : Path) : Except Fault FileSystem :=
  let special (name : String) : SystemError :=
    if name = "." then .invalid else if name = ".." then .notEmpty else .busy
  match fs.slot special p with
  | .error fault => .error fault
  | .ok s =>
    match s.node? with
    | none => .error (.system .noEntry)
    | some (.directory _) =>
      if !fs.mayChange s then .error (.system .denied)
      else if !(fs.namesIn s.loc).isEmpty then .error (.system .notEmpty)
      else .ok (fs.erase s.loc)
    | some _ => .error (.system (if fs.mayChange s then .notDirectory else .denied))

/-- Remove whatever is at a path, a directory with everything below it. -/
def removeAll (fs : FileSystem) (p : Path) : Except Fault FileSystem :=
  match fs.slot (fun _ => .busy) p with
  | .error fault => .error fault
  | .ok s =>
    if s.node?.isNone then .error (.system .noEntry)
    else if !fs.mayChange s then .error (.system .denied)
    else .ok (fs.eraseBelow s.loc)

/-- Give the node of a location other permissions, a file wherever it stands. -/
def changeMode (fs : FileSystem) (loc : Location) (mode : Nat) : FileSystem :=
  match fs.get? loc with
  | some (.file f) =>
    { fs with
      nodes := fs.nodes.map fun entry =>
        (entry.1, if entry.2.isNumber f.number then
          .file { f with access := { f.access with mode } } else entry.2) }
  | some (.directory access) => fs.put loc (.directory { access with mode })
  | _ => fs

/-- Set the permissions of the node at a path, symbolic links followed. -/
def setMode (fs : FileSystem) (p : Path) (mode : Nat) : Except Fault FileSystem :=
  match fs.find p with
  | .error fault => .error fault
  | .ok (loc, node) =>
    if node.access.owner = .user then .ok (fs.changeMode loc mode)
    else .error (.system .notPermitted)

/-- Make one directory with the given permissions, less those of the mask. -/
def makeDirectory (fs : FileSystem) (p : Path) (mode : Nat := Access.directoryMode) :
    Except Fault FileSystem :=
  match fs.slot (fun _ => .exists) p with
  | .error fault => .error fault
  | .ok s =>
    if s.node?.isSome then .error (.system .exists)
    else if !fs.mayChange s then .error (.system .denied)
    else .ok (fs.put s.loc (.directory ⟨Access.masked mode fs.umask, .user⟩))

/-- Make the directories that a list of paths names, those that are there already left
alone. -/
def makeEach (fs : FileSystem) : List Path → Except Fault FileSystem
  | [] => .ok fs
  | p :: rest =>
    if fs.isDirectory p then makeEach fs rest
    else
      match fs.makeDirectory p with
      | .error fault => .error fault
      | .ok made => makeEach made rest

/-- The paths from the first piece of `p` to the whole. -/
def stages (p : Path) : List Path :=
  let front := if p.isAbsolute then "/" else ""
  (List.range p.pieces.length).map fun n =>
    ⟨front ++ "/".intercalate (p.pieces.take (n + 1))⟩

/-- Make a directory and those above it as far as they are missing. -/
def makeDirectories (fs : FileSystem) (p : Path) : Except Fault FileSystem :=
  fs.makeEach (stages p)

/-- Put a node where a path leads that has nothing there yet and no separator at its end. -/
def makeNode (fs : FileSystem) (p : Path) (node : Node) : Except Fault FileSystem :=
  match fs.slot (fun _ => .exists) p with
  | .error fault => .error fault
  | .ok s =>
    if s.node?.isSome then .error (.system .exists)
    else if s.slash then .error (.system .noEntry)
    else if !fs.mayChange s then .error (.system .denied)
    else .ok (fs.put s.loc node)

/-- Make a symbolic link. -/
def makeLink (fs : FileSystem) (p : Path) (target : String) : Except Fault FileSystem :=
  if target.isEmpty then .error (.system .noEntry) else fs.makeNode p (.link target)

/-- Give a file, which is not followed if it is a symbolic link, another name. -/
def addName (fs : FileSystem) (old new : Path) : Except Fault FileSystem :=
  match fs.stat false old with
  | .error fault => .error fault
  | .ok (_, .directory _) =>
    match fs.slot (fun _ => .exists) new with
    | .error fault => .error fault
    | .ok s => .error (.system (if s.node?.isSome then .exists else .notPermitted))
  | .ok (_, node) => fs.makeNode new node

/-- A location that lay below one, or at it, below another. -/
def rebased (old new loc : Location) : Location :=
  if old.isPrefixOf loc then new ++ loc.drop old.length else loc

/-- Move a node and everything below it, in place of what is at the new location. -/
def relocate (fs : FileSystem) (old new : Location) : FileSystem :=
  let cleared := fs.eraseBelow new
  { cleared with
    nodes := cleared.nodes.map fun entry => (rebased old new entry.1, entry.2)
    cwd := rebased old new fs.cwd }

/-- Whether two nodes are one file. -/
def isSameFile : Node → Node → Bool
  | .file a, .file b => a.number = b.number
  | _, _ => false

/-- Why a node may not take the place of what is at a slot, if it may not. -/
def replacementFault? (fs : FileSystem) (node : Node) (target : Slot) : Option SystemError :=
  if !fs.mayChange target then some .denied
  else
    match target.node?, node.isDirectory with
    | some (.directory _), true =>
      if (fs.namesIn target.loc).isEmpty then none else some .notEmpty
    | some _, true => some .notDirectory
    | some (.directory _), false => some .isDirectory
    | _, _ => none

/-- Move what is at a path to another path. -/
def rename (fs : FileSystem) (old new : Path) : Except Fault FileSystem := do
  let source ← fs.slot (fun _ => .busy) old
  let target ← fs.slot (fun _ => .busy) new
  match source.node? with
  | none => .error (.system .noEntry)
  | some node =>
    if !node.isDirectory && (source.slash || target.slash) then .error (.system .notDirectory)
    else if source.loc = target.loc || target.node?.any (isSameFile node) then .ok fs
    else if source.loc.isPrefixOf target.loc then .error (.system .invalid)
    else if target.loc.isPrefixOf source.loc then .error (.system .notEmpty)
    else if !fs.mayChange source then .error (.system .denied)
    else
      match fs.replacementFault? node target with
      | some fault => .error (.system fault)
      | none =>
        if node.isDirectory && !node.allows .write &&
            source.loc.dropLast ≠ target.loc.dropLast then .error (.system .denied)
        else .ok (fs.relocate source.loc target.loc)

/-- The paths of everything below a location that can be listed, relative to it, as they are
shown, in the order of their octets. A directory is written with a separator at its end. -/
def tree (fs : FileSystem) (base : Location) : List String :=
  let isListed (loc : Location) : Bool :=
    (List.range (loc.length - base.length)).all fun n => fs.mayAt (loc.take (base.length + n)) .read
  let paths := fs.nodes.filterMap fun (loc, node) =>
    if base.isPrefixOf loc && base.length < loc.length && isListed loc then
      let path := "/".intercalate (loc.drop base.length)
      some (if node.isDirectory then path ++ "/" else path)
    else none
  (paths.mergeSort fun a b => decide (a ≤ b)).map Text.widen

/-- The path of a location from the root. -/
def absolute (loc : Location) : Path :=
  ⟨"/" ++ "/".intercalate loc⟩

end FileSystem

end ReleaseBuilder
