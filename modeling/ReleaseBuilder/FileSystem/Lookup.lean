/-
# Finding a node by its path

A path is walked name by name from the root or from the working directory. Each directory
on the way must be one in which the user may look names up. `.` stays where it is, `..`
goes to the parent, and a symbolic link on the way is replaced by the path it holds. A
walk may pass through forty links; the next one ends it, so links that lead in a circle
are found out. The walk arrives at a node, or at a vacant place in an existing directory,
or it is refused.
-/

import ReleaseBuilder.FileSystem.Basic
import ReleaseBuilder.FileSystem.Fault
import ReleaseBuilder.FileSystem.Path

namespace ReleaseBuilder

/-- Where a path leads. -/
inductive Place where
  /-- A node and its location. -/
  | found (loc : Location) (node : Node)
  /-- A location in an existing directory at which nothing stands. -/
  | vacant (loc : Location)

/-- How a walk treats its last name. -/
structure Arrival where
  /-- A symbolic link at the end is followed. -/
  follow : Bool
  /-- The path ends in a separator, so it must lead to a directory. -/
  directory : Bool := false
  /-- A file is to be there, made if need be, so that a separator at the end is refused. -/
  creating : Bool := false

namespace FileSystem

/-- How many symbolic links one walk may pass. -/
def linkLimit : Nat := 40

/-- The longest name of a directory entry, in octets. -/
def nameLimit : Nat := 255

/-- The shortest path text, in octets, that is too long to be looked up. -/
def pathLimit : Nat := 4096

/-- Whether the user may do something with the node at a location. -/
def mayAt (fs : FileSystem) (loc : Location) (want : Want) : Bool :=
  (fs.get? loc).any (·.allows want)

/-- The permissions of the directory at a location. A working directory that was removed is
not there any more, whatever has taken its place. -/
def directoryAt? (fs : FileSystem) (loc : Location) : Option Access :=
  match fs.get? loc with
  | some (.directory access) => some access
  | _ => none

/-- What a process still sees of the directory that it works in, once that was removed. -/
def removedAccess : Access := ⟨0o755, .user⟩

/-- Walk along the names from the directory at `here`. `detour` continues a walk through
the names of a symbolic link. -/
def walkNames (fs : FileSystem)
    (detour : Arrival → Location → List String → Except SystemError Place)
    (arrival : Arrival) : Location → List String → Except SystemError Place
  | here, [] => .ok (.found here (.directory ((fs.directoryAt? here).getD removedAccess)))
  | here, name :: rest =>
    if (fs.directoryAt? here).any (!·.allows .enter) then .error .denied
    else if name = "." then walkNames fs detour arrival here rest
    else if name = ".." then walkNames fs detour arrival here.dropLast rest
    else if (fs.directoryAt? here).isNone then .error .noEntry
    else if rest.isEmpty && arrival.creating && arrival.directory then .error .isDirectory
    else if nameLimit < name.length then .error .nameTooLong
    else
      let next := here ++ [name]
      match fs.get? next with
      | none => if rest.isEmpty then .ok (.vacant next) else .error .noEntry
      | some (.link target) =>
        if rest.isEmpty && !arrival.follow && !arrival.directory then
          .ok (.found next (.link target))
        else
          let path := Path.mk target
          let beyond := rest.isEmpty && path.endsWithSlash
          detour { arrival with directory := arrival.directory || beyond }
            (if path.isAbsolute then [] else here) (path.pieces ++ rest)
      | some (.directory _) => walkNames fs detour arrival next rest
      | some node =>
        if rest.isEmpty && !arrival.directory then .ok (.found next node)
        else .error .notDirectory

/-- A walk that may still pass the given number of symbolic links. -/
def walk (fs : FileSystem) :
    Nat → Arrival → Location → List String → Except SystemError Place
  | 0 => walkNames fs fun _ _ _ => .error .linkLoop
  | links + 1 => walkNames fs (walk fs links)

/-- Where a path leads, seen from the working directory. A separator at its end asks for a
directory. -/
def arrive (fs : FileSystem) (arrival : Arrival) (p : Path) : Except Fault Place :=
  if p.text.toList.contains '\x00' then .error .nulInName
  else if p.text.isEmpty then .error (.system .noEntry)
  else if pathLimit ≤ p.text.length then .error (.system .nameTooLong)
  else
    (walk fs linkLimit { arrival with directory := p.endsWithSlash }
      (if p.isAbsolute then [] else fs.cwd) p.pieces).mapError .system

/-- Where a path leads, a symbolic link at its end followed or not. -/
def place (fs : FileSystem) (follow : Bool) (p : Path) : Except Fault Place :=
  fs.arrive { follow } p

/-- The node that a path denotes. -/
def stat (fs : FileSystem) (follow : Bool) (p : Path) : Except Fault (Location × Node) :=
  match fs.place follow p with
  | .error fault => .error fault
  | .ok (.vacant _) => .error (.system .noEntry)
  | .ok (.found loc node) => .ok (loc, node)

/-- The node that a path denotes, symbolic links followed. -/
def find (fs : FileSystem) (p : Path) : Except Fault (Location × Node) :=
  fs.stat true p

/-- The node that a path denotes, if there is one. -/
def find? (fs : FileSystem) (p : Path) : Option (Location × Node) :=
  (fs.find p).toOption

/-- Whether anything is at a path, symbolic links followed. -/
def pathExists (fs : FileSystem) (p : Path) : Bool :=
  (fs.find? p).isSome

/-- Whether a path denotes a regular file, symbolic links followed. -/
def isFile (fs : FileSystem) (p : Path) : Bool :=
  (fs.find? p).any (·.2.isFile)

/-- Whether a path denotes a directory, symbolic links followed. -/
def isDirectory (fs : FileSystem) (p : Path) : Bool :=
  (fs.find? p).any (·.2.isDirectory)

end FileSystem

end ReleaseBuilder
