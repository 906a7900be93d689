/-
# Packing an archive

A plan is packed in one of two ways. Written directly, each member becomes one entry in
the order of the plan, symbolic links followed and directories without what is in them;
the archive is removed again if a member cannot be packed. Packed by commands, the names
of the members go to `tar`, whose output a compressor reads.
-/

import ReleaseBuilder.Archive.Plan
import ReleaseBuilder.Release.Work
import ReleaseBuilder.Tarball.MemberName

namespace ReleaseBuilder.Archive

open Tarball (Entry storedName? directoryName)

/-- The entry of a node under a name, if an archive can store it under that name. -/
def entryOf (node : Node) (name : String) : Except Failure Entry :=
  match storedName? name with
  | none => .error (.io .memberName)
  | some stored =>
    match node with
    | .directory access => .ok ⟨directoryName stored, access.mode, .directory⟩
    | .file f => .ok ⟨stored, f.access.mode, .file f.content.data⟩
    | other => .ok ⟨stored, other.access.mode, .file ByteArray.empty⟩

/-- The entry of a member, if its source is there and can be packed. A file must be open to
the user. What is neither a file nor a directory goes by its own path. -/
def Member.entry (files : FileSystem) (member : Member) : Except Failure Entry :=
  match files.find? member.source with
  | none => .error (.missingArtifact member.source)
  | some (_, node) =>
    if node.isFile && !node.allows .read then .error (.io (.system .denied))
    else if node.isFile || node.isDirectory then entryOf node member.name
    else entryOf node member.source.shown

namespace Plan

/-- The entries up to the first member that cannot be packed, and its failure. The files are
seen as they are before anything is written for the first member, and as they are behind it
for all others. What does not take what is written to it fails at the first entry, or at the
end of an archive that has none. -/
def gather (refusal? : Option Fault) (files begun : FileSystem) :
    List Member → List Entry × Option Failure
  | [] => ([], refusal?.map .io)
  | member :: rest =>
    match member.entry files with
    | .error failure => ([], some failure)
    | .ok entry =>
      match refusal? with
      | some fault => ([], some (.io fault))
      | none =>
        let (entries, failed) := gather none begun begun rest
        (entry :: entries, failed)

/-- Write the archive of a plan. A member that is the archive itself shows what has been
written of it. -/
def write (files : FileSystem) (plan : Plan) : Except Failure Unit × FileSystem :=
  match files.create plan.output with
  | .error fault => (.error (.io fault), files)
  | .ok (outlet, opened) =>
    let begun := opened.pour outlet .archiveFront
    let (entries, failed) := gather outlet.refusal? opened begun plan.members
    let written := opened.pour outlet (.tarball entries)
    match failed with
    | none => (.ok (), written)
    | some failure => (.error failure, (written.remove plan.output).toOption.getD written)

/-- The command that collects the members of a plan. -/
def collector (plan : Plan) : Command :=
  (({ program := "tar" : Command }.arg "-c").withArgs plan.names).within plan.dir

end Plan

/-- Pack a plan the way a system does, and tell where the archive is. -/
def package (system : OperatingSystem) (compressor : String) (plan : Plan) : Work σ Path := do
  match system with
  | .windows => Work.onFiles fun files => plan.write files
  | .linux | .mac => Work.pipe plan.collector { program := compressor } plan.output
  return plan.output

end ReleaseBuilder.Archive
