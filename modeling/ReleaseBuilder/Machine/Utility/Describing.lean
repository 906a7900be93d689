/-
# What utilities tell of a node

The kind of a node, its permissions, its size, its names and whom it belongs to, in the
letters, numbers and words that utilities print.
-/

import ReleaseBuilder.Machine.Condition
import ReleaseBuilder.Machine.State

namespace ReleaseBuilder.Machine.Utility

/-- The letter for the kind of a node. -/
def kindLetter : Node → Char
  | .file _ => '-'
  | .directory _ => 'd'
  | .link _ => 'l'
  | .device _ => 'c'

/-- The words for the kind of a node. -/
def kindWords (node : Node) : String :=
  match node with
  | .file f => if isFilled f.content then "regular file" else "regular empty file"
  | .directory _ => "directory"
  | .link _ => "symbolic link"
  | .device _ => "character special file"

/-- Permissions as letters. -/
def permissionText (mode : Nat) : String :=
  let part (shift special : Nat) (set unset : Char) : List Char :=
    let bits := mode / shift % 8
    let enter := bits &&& 1 ≠ 0
    [if bits &&& 4 ≠ 0 then 'r' else '-', if bits &&& 2 ≠ 0 then 'w' else '-',
      if mode &&& special ≠ 0 then (if enter then set else unset)
      else if enter then 'x' else '-']
  String.ofList (part 64 0o4000 's' 'S' ++ part 8 0o2000 's' 'S' ++ part 1 0o1000 't' 'T')

/-- The kind and the permissions of a node, as letters. -/
def modeText (node : Node) : String :=
  String.singleton (kindLetter node) ++ permissionText node.access.mode

/-- Permissions as a number of four octal digits. -/
def octalMode (mode : Nat) : String :=
  let digits := String.ofList (Nat.toDigits 8 mode)
  String.ofList (List.replicate (4 - digits.length) '0') ++ digits

/-- How large a node is. -/
def nodeSize : Node → Nat
  | .file f => sizeOf f.content
  | .directory _ => 4096
  | .link target => target.length
  | .device _ => 0

/-- How many names a node has: those of a directory are its own, its full stop, and those in
which its directories lead back. -/
def linkCount (fs : FileSystem) (loc : Location) : Node → Nat
  | .file f => (fs.nodes.filter (·.2.isNumber f.number)).length
  | .directory _ =>
    2 + (fs.nodes.filter fun entry =>
      entry.1.length = loc.length + 1 && loc.isPrefixOf entry.1 && entry.2.isDirectory).length
  | _ => 1

/-- The name of whom a node belongs to. -/
def ownerName (node : Node) : String :=
  match node.access.owner with
  | .user => "user"
  | .system => "root"

end ReleaseBuilder.Machine.Utility
