/-
# Conditions on files

What can be asked about a path: whether something is there, of which kind it is, and what
may be done with it.
-/

import ReleaseBuilder.Machine.Calls

namespace ReleaseBuilder.Machine

/-- The size of a content, in octets. -/
def sizeOf (content : Content) : Nat := content.data.size

/-- Whether a file has anything in it. What a machine comes with does. -/
def isFilled (content : Content) : Bool :=
  match content with
  | .program _ => true
  | other => sizeOf other ≠ 0

/-- Whether two paths lead to one thing. -/
def isSame (fs : FileSystem) (a b : String) : Bool :=
  match fs.find (pathOf a), fs.find (pathOf b) with
  | .ok (first, x), .ok (second, y) => first = second || FileSystem.isSameFile x y
  | _, _ => false

/-- What an operator for one path asks of a file system, if it is one. -/
def fileCondition? (operator : String) : Option (FileSystem → String → Bool) :=
  let node (holds : Node → Bool) : Option (FileSystem → String → Bool) :=
    some fun fs path => (fs.find? (pathOf path)).any fun found => holds found.2
  let modeBit (bit : Nat) : Option (FileSystem → String → Bool) :=
    node fun n => n.access.mode &&& bit ≠ 0
  let isLink : Option (FileSystem → String → Bool) :=
    some fun fs path =>
      match fs.stat false (pathOf path) with
      | .ok (_, .link _) => true
      | _ => false
  match operator with
  | "-e" => node fun _ => true
  | "-f" => node Node.isFile
  | "-d" => node Node.isDirectory
  | "-r" => node fun n => n.allows .read
  | "-w" => node fun n => n.allows .write
  | "-x" => node fun n => n.allows .enter
  | "-s" => node fun n =>
    match n with
    | .file f => isFilled f.content
    | .directory _ => true
    | _ => false
  | "-c" => node fun n =>
    match n with
    | .device _ => true
    | _ => false
  | "-b" | "-p" | "-S" => node fun _ => false
  | "-u" => modeBit 0o4000
  | "-g" => modeBit 0o2000
  | "-k" => modeBit 0o1000
  | "-O" | "-G" => node fun n => n.access.owner = .user
  | "-h" | "-L" => isLink
  | _ => none

end ReleaseBuilder.Machine
