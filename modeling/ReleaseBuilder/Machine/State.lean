/-
# The state of a machine

What the processes of a machine share, and what the machine keeps of each of them. A
process knows its open files by small numbers, its descriptors. A descriptor leads to a
description, which says what is open, in which way, and how far it has been read or
written; descriptors that were copied from one another lead to one description. What is
open may be a file, which is known by its number and so survives the loss of its names, or
a pipe, which holds what was written to it and not read yet.

Texts are narrow everywhere in a machine: a character stands for an octet.
-/

import ReleaseBuilder.FileSystem.Operations
import ReleaseBuilder.Host.Ending
import ReleaseBuilder.Text.Narrow

namespace ReleaseBuilder.Machine

/-- What is open. -/
inductive Target where
  | file (number : Nat)
  | directory (loc : Location)
  | device (device : Device)
  | pipe (number : Nat)
  deriving DecidableEq

/-- How something is open, and how far it has been read or written. -/
structure Description where
  target : Target
  readable : Bool
  writable : Bool
  append : Bool := false
  offset : Nat := 0

/-- What was written to a pipe, and how much of it has been read. -/
structure Pipe where
  data : ByteArray := ByteArray.empty
  start : Nat := 0
  /-- How many octets it has room for. -/
  capacity : Nat := 65536

namespace Pipe

/-- The octets up to which something is written to a pipe in one piece. -/
def whole : Nat := 4096

/-- How many octets can be read. -/
def held (p : Pipe) : Nat := p.data.size - p.start

/-- How many octets can be written. -/
def room (p : Pipe) : Nat := p.capacity - p.held

/-- Take octets from the front. -/
def take (p : Pipe) (count : Nat) : ByteArray × Pipe :=
  (p.data.extract p.start (p.start + count), { p with start := min p.data.size (p.start + count) })

/-- Add octets at the back. -/
def add (p : Pipe) (octets : ByteArray) : Pipe :=
  if p.start = 0 then { p with data := p.data ++ octets }
  else { p with data := p.data.extract p.start p.data.size ++ octets, start := 0 }

end Pipe

/-- What a machine keeps of a process. -/
structure Member where
  parent : Nat
  cwd : Location := []
  umask : Nat := 0o022
  /-- The descriptors, with the numbers of their descriptions. -/
  descriptors : List (Nat × Nat) := []
  /-- The signals that do nothing. -/
  ignored : List Nat := []
  /-- The signals that the process takes care of itself. -/
  caught : List Nat := []
  /-- The signals that have come and have not been taken care of. -/
  pending : List Nat := []
  /-- The time that the process waits for, if it waits for one. -/
  wake : Option Nat := none
  ended : Option Ending := none
  deriving Inhabited

/-- The state of a machine. -/
structure State where
  files : FileSystem
  pipes : List (Nat × Pipe) := []
  descriptions : List (Nat × Description) := []
  members : List (Nat × Member) := []
  /-- The number of the next process, pipe or description. -/
  next : Nat := 1000
  /-- The time, in thousandths of a second. -/
  clock : Nat := 0
  /-- The process whose turn it is. -/
  self : Nat := 0
  /-- The description whose octets the machine hands on instead of writing them itself. -/
  outlet : Option Nat := none
  /-- What is to be handed on, and the offset that it belongs to. -/
  handed : Option (Nat × ByteArray) := none

/-- An entry of a list under a key, changed. -/
def changedAt [DecidableEq κ] (key : κ) (change : α → α) : List (κ × α) → List (κ × α)
  | [] => []
  | entry :: rest =>
    if entry.1 = key then (key, change entry.2) :: rest else entry :: changedAt key change rest

/-- The entries of a list but those under a key. -/
def withoutKey [DecidableEq κ] (key : κ) (entries : List (κ × α)) : List (κ × α) :=
  entries.filter (·.1 ≠ key)

namespace State

/-- What the machine keeps of a process. -/
def member (s : State) (process : Nat) : Member :=
  (s.members.lookup process).getD { parent := 0 }

/-- What the machine keeps of the process whose turn it is. -/
def me (s : State) : Member := s.member s.self

/-- Change what the machine keeps of a process. -/
def changeMember (s : State) (process : Nat) (change : Member → Member) : State :=
  { s with members := changedAt process change s.members }

/-- Change what the machine keeps of the process whose turn it is. -/
def changeMe (s : State) (change : Member → Member) : State :=
  s.changeMember s.self change

/-- The files as the process whose turn it is sees them. -/
def view (s : State) : FileSystem :=
  let me := s.me
  { s.files with cwd := me.cwd, umask := me.umask }

/-- The processes that have not ended. -/
def living (s : State) : List (Nat × Member) :=
  s.members.filter (·.2.ended.isNone)

/-- Whether a description is still in use. -/
def isHeld (s : State) (description : Nat) : Bool :=
  s.members.any fun entry => entry.2.descriptors.any (·.2 = description)

/-- Whether somebody has a pipe open in some way. -/
def isOpen (s : State) (pipe : Nat) (way : Description → Bool) : Bool :=
  s.descriptions.any fun entry => entry.2.target = .pipe pipe && way entry.2

/-- Whether somebody could still write to a pipe. -/
def hasWriter (s : State) (pipe : Nat) : Bool :=
  s.isOpen pipe Description.writable

/-- Whether somebody could still read from a pipe. -/
def hasReader (s : State) (pipe : Nat) : Bool :=
  s.isOpen pipe Description.readable

/-- Forget descriptions that nobody leads to any more. -/
def releaseAll (s : State) (descriptions : List Nat) : State :=
  { s with descriptions := s.descriptions.filter fun entry =>
      !descriptions.contains entry.1 || s.isHeld entry.1 }

/-- The description that a descriptor leads to, with its number. -/
def descriptor? (s : State) (fd : Nat) : Option (Nat × Description) := do
  let number ← s.me.descriptors.lookup fd
  let description ← s.descriptions.lookup number
  return (number, description)

/-- Close a descriptor. -/
def close (s : State) (fd : Nat) : State :=
  match s.me.descriptors.lookup fd with
  | none => s
  | some number =>
    (s.changeMe fun m => { m with descriptors := withoutKey fd m.descriptors }).releaseAll [number]

/-- Let a descriptor lead to a description. -/
def attach (s : State) (fd number : Nat) : State :=
  let before := (s.me.descriptors.lookup fd).toList
  (s.changeMe fun m =>
    { m with descriptors := (fd, number) :: withoutKey fd m.descriptors }).releaseAll before

/-- The least descriptor, from one on, that is not in use. -/
def freeDescriptor (s : State) (least : Nat) : Nat :=
  let used := s.me.descriptors.map Prod.fst
  ((List.range (used.length + 1)).map (least + ·)).find? (!used.contains ·) |>.getD least

/-- Keep a new description. -/
def describe (s : State) (d : Description) : Nat × State :=
  (s.next, { s with descriptions := (s.next, d) :: s.descriptions, next := s.next + 1 })

/-- End a process: nothing of it is open any more, and its children have no parent. -/
def finish (s : State) (process : Nat) (ending : Ending) : State :=
  let m := s.member process
  let orphaned := s.members.filterMap fun (number, other) =>
    if other.parent = process then
      if other.ended.isSome then none else some (number, { other with parent := 0 })
    else some (number, other)
  let ended :=
    if m.parent = 0 then withoutKey process orphaned
    else changedAt process (fun m => { m with ended := some ending, descriptors := [] }) orphaned
  { s with members := ended }.releaseAll (m.descriptors.map Prod.snd)

end State

end ReleaseBuilder.Machine
