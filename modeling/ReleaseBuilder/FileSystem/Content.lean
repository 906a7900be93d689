/-
# Contents

What a file holds: octets, or an archive that was written directly and is kept by its
entries. The programs that a machine comes with are files too, known by their names.
-/

import ReleaseBuilder.Compression.Gzip
import ReleaseBuilder.Tarball.Container

namespace ReleaseBuilder

open Tarball (Entry)

/-- The content of a file. -/
inductive Content where
  /-- Octets. -/
  | octets (data : ByteArray)
  /-- A compressed archive. -/
  | tarball (entries : List Entry)
  /-- The executable of a program that belongs to the machine. -/
  | program (name : String)

namespace Content

/-- No content. -/
def empty : Content := .octets ByteArray.empty

instance : Inhabited Content := ⟨empty⟩

/-- The octets that spell a text. -/
def ofText (s : String) : Content := .octets (Text.encode s)

/-- The number of a system that is not told. -/
def unknownSystem : UInt8 := 0xFF

/-- What is there of an archive as long as nothing has been packed. -/
def archiveFront : Content := .octets (Compression.front unknownSystem)

/-- The octets of a content. An archive is taken to be packed without any effort to make it
smaller, and the executables of the machine show nothing. -/
def data : Content → ByteArray
  | .octets data => data
  | .tarball entries =>
    let narrowed := entries.map fun e => { e with name := Text.narrow e.name }
    Compression.pack (Tarball.octetsOf narrowed) unknownSystem
  | .program _ => ByteArray.empty

/-- Octets with others in place of what is at an offset. -/
def overwritten (old : ByteArray) (offset : Nat) (data : ByteArray) : ByteArray :=
  if offset = old.size then old ++ data
  else
    let front := old.extract 0 offset ++ ⟨Array.replicate (offset - old.size) 0⟩
    front ++ data ++ old.extract (offset + data.size) old.size

/-- The text that a content spells. The mark at the front of a compressed archive is not
UTF-8, and neither archives nor executables are read as text. -/
def text? : Content → Option String
  | .octets data => Text.decode? data
  | _ => none

end Content

end ReleaseBuilder
