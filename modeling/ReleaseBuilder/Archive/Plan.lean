/-
# Plans of archives

A plan says what an archive will hold and where it will be written, before anything is
written. Named files are planned in the order in which they are named, a directory by
its visible entries in the order of their names. A member goes by a text: where the name of
an entry is none, it goes by what that shows as.
-/

import ReleaseBuilder.Failure
import ReleaseBuilder.FileSystem.Operations
import ReleaseBuilder.Platform

namespace ReleaseBuilder.Archive

/-- The file name of a release's archive. -/
def fileName (product version : String) (platform : Platform) : String :=
  product ++ "-" ++ version ++ "." ++ platform.name ++ ".tar.gz"

/-- One member: where it is read, and its name in the archive. -/
structure Member where
  source : Path
  name : String
  deriving DecidableEq

/-- What an archive will hold. -/
structure Plan where
  /-- Where the archive is written. -/
  output : Path
  /-- The directory the members are in. -/
  dir : Path
  members : List Member
  deriving DecidableEq

/-- The member of a name in a directory. -/
def memberIn (dir : Path) (name : String) : Member :=
  ⟨dir.join (.ofText name), name⟩

/-- The member of an entry of a directory. It is read where the entry is, and it goes by what
the name of the entry shows as. -/
def entryIn (dir : Path) (entry : String) : Member :=
  ⟨dir.join ⟨entry⟩, Text.widen entry⟩

/-- Whether an entry of a directory is packed; a name with a full stop at its front is
hidden. -/
def isVisible (name : String) : Bool :=
  name.toList.head? != some '.'

/-- The members of the visible entries of a directory, in the order of the octets of their
names. -/
def visibleMembers (dir : Path) (entries : List String) : List Member :=
  ((entries.map (entryIn dir)).filter (isVisible ·.name)).mergeSort fun a b =>
    decide (a.name ≤ b.name)

namespace Plan

/-- The member names in order. -/
def names (plan : Plan) : List String :=
  plan.members.map Member.name

/-- The members of named files. The first that is not a regular file is missing. -/
def membersOf (files : FileSystem) (dir : Path) : List String → Except Failure (List Member)
  | [] => .ok []
  | name :: rest =>
    let member := memberIn dir name
    if files.isFile member.source then
      match membersOf files dir rest with
      | .ok members => .ok (member :: members)
      | .error failure => .error failure
    else .error (.missingArtifact member.source)

/-- An archive of named files in a directory. -/
def ofFiles (files : FileSystem) (output dir : Path) (names : List String) :
    Except Failure Plan :=
  match membersOf files dir names with
  | .ok members => .ok ⟨output, dir, members⟩
  | .error failure => .error failure

/-- An archive of the visible entries of a directory. A directory that is not there, or has
none, is missing. -/
def ofDirectory (files : FileSystem) (output dir : Path) : Except Failure Plan :=
  if !files.isDirectory dir then .error (.missingArtifact dir)
  else
    match files.list dir with
    | .error fault => .error (.io fault)
    | .ok entries =>
      let members := visibleMembers dir entries
      if members.isEmpty then .error (.missingArtifact dir) else .ok ⟨output, dir, members⟩

end Plan

end ReleaseBuilder.Archive
