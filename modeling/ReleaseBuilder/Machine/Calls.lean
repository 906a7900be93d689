/-
# Requests to a machine

What a process can ask of the machine that holds it: to open, read and write, to move
about, to start and to stop others. Each request is answered from the state of the
machine and for the process whose turn it is. A request that has to wait is not answered;
it is made again later.
-/

import ReleaseBuilder.Machine.State

namespace ReleaseBuilder

/-- The refusal of the system behind a fault. -/
def Fault.cause : Fault → SystemError
  | .system cause => cause
  | _ => .noEntry

namespace Machine

/-- The path that a narrow text names. -/
def pathOf (text : String) : Path := ⟨text⟩

/-- How a file is to be opened. -/
structure Opening where
  readable : Bool := false
  writable : Bool := false
  append : Bool := false
  /-- A missing file is made. -/
  create : Bool := false
  /-- What is in the file is thrown away. -/
  truncate : Bool := false
  /-- The file must not be there. -/
  exclusive : Bool := false
  /-- The permissions of a file that is made. -/
  mode : Nat := Access.fileMode

/-- Open for reading. -/
def Opening.reading : Opening := { readable := true }

/-- Open for writing, from the start. -/
def Opening.writing : Opening := { writable := true, create := true, truncate := true }

/-- Open for writing at the end. -/
def Opening.appending : Opening := { writable := true, create := true, append := true }

namespace State

/-- A change of the files by the process whose turn it is. -/
def onFiles (s : State) (change : FileSystem → Except Fault FileSystem) :
    Except SystemError Unit × State :=
  match change s.view with
  | .error fault => (.error fault.cause, s)
  | .ok files => (.ok (), { s with files })

/-- The descriptor that a path means, if it is a name for one. -/
def descriptorNamed? (path : String) : Option Nat :=
  let numbered (front : String) : Option Nat :=
    if path.startsWith front then
      (String.ofList (path.toList.drop front.length)).toNat?
    else none
  match path with
  | "/dev/stdin" => some 0
  | "/dev/stdout" => some 1
  | "/dev/stderr" => some 2
  | _ => (numbered "/dev/fd/").or (numbered "/proc/self/fd/")

/-- What is there to open at a path. -/
def openNode (s : State) (o : Opening) (loc : Location) (node : Node) :
    Except SystemError Description × State :=
  let description (target : Target) : Description :=
    { target, readable := o.readable, writable := o.writable, append := o.append }
  if o.create && o.exclusive then (.error .exists, s)
  else if node.isDirectory && (o.writable || o.create) then (.error .isDirectory, s)
  else if (o.readable && !node.allows .read) || (o.writable && !node.allows .write) then
    (.error .denied, s)
  else
    match node with
    | .file f =>
      let files := if o.truncate then s.files.fill f.number .empty else s.files
      (.ok (description (.file f.number)), { s with files })
    | .directory _ => (.ok (description (.directory loc)), s)
    | .device d => (.ok (description (.device d)), s)
    | .link _ => (.error .noEntry, s)

/-- Open what is at a path. -/
def openPath (s : State) (o : Opening) (path : String) : Except SystemError Description × State :=
  if o.create then
    match s.view.arrive { follow := !o.exclusive, creating := true } (pathOf path) with
    | .error fault => (.error fault.cause, s)
    | .ok (.found loc node) => s.openNode o loc node
    | .ok (.vacant loc) =>
      if s.files.mayAt loc.dropLast .write then
        let access : Access := ⟨Access.masked o.mode s.me.umask, .user⟩
        let number := s.files.next
        (.ok { target := .file number, readable := o.readable, writable := o.writable,
               append := o.append }, { s with files := s.files.putFile loc .empty access })
      else (.error .denied, s)
  else
    match s.view.find (pathOf path) with
    | .error fault => (.error fault.cause, s)
    | .ok (loc, node) => s.openNode o loc node

/-- Open again what a descriptor leads to. -/
def reopen (s : State) (o : Opening) (fd : Nat) : Except SystemError Description × State :=
  match s.descriptor? fd with
  | none => (.error .noEntry, s)
  | some (_, d) =>
    let again : Description :=
      { target := d.target, readable := o.readable, writable := o.writable, append := o.append }
    match d.target with
    | .file number =>
      let files := if o.truncate then s.files.fill number .empty else s.files
      (.ok again, { s with files })
    | .directory _ => if o.writable then (.error .isDirectory, s) else (.ok again, s)
    | _ => (.ok again, s)

/-- Open a path under the least free descriptor from a given one on. -/
def openFrom (s : State) (least : Nat) (o : Opening) (path : String) :
    Except SystemError Nat × State :=
  let (opened, s) :=
    match descriptorNamed? path with
    | some fd => s.reopen o fd
    | none => s.openPath o path
  match opened with
  | .error fault => (.error fault, s)
  | .ok d =>
    let (number, s) := s.describe d
    let fd := s.freeDescriptor least
    (.ok fd, s.attach fd number)

/-- Let a descriptor lead to where another one leads. -/
def duplicate (s : State) (source fd : Nat) : Except SystemError Unit × State :=
  match s.me.descriptors.lookup source with
  | none => (.error .badDescriptor, s)
  | some number => (.ok (), if source = fd then s else s.attach fd number)

/-- Keep a copy of a descriptor under the least free one from a given one on. -/
def keep (s : State) (source least : Nat) : Except SystemError Nat × State :=
  let fd := s.freeDescriptor least
  let (done, s) := s.duplicate source fd
  (done.map fun _ => fd, s)

/-- Make a pipe: the descriptors of its end for reading and of its end for writing. -/
def makePipe (s : State) : (Nat × Nat) × State :=
  let number := s.next
  let s := { s with pipes := (number, {}) :: s.pipes, next := number + 1 }
  let (reader, s) := s.describe { target := .pipe number, readable := true, writable := false }
  let input := s.freeDescriptor 3
  let s := s.attach input reader
  let (writer, s) := s.describe { target := .pipe number, readable := false, writable := true }
  let output := s.freeDescriptor 3
  ((input, output), s.attach output writer)

/-- Change a description. -/
def changeDescription (s : State) (number : Nat) (change : Description → Description) : State :=
  { s with descriptions := changedAt number change s.descriptions }

/-- The octets of a file. -/
def octetsOf (s : State) (file : Nat) : ByteArray :=
  ((s.files.file? file).map fun f => f.content.data).getD ByteArray.empty

/-- Read at most so many octets from a descriptor; none at the end. The request waits while a
pipe is empty that somebody could still write to. -/
def read (s : State) (fd count : Nat) : Option (Except SystemError ByteArray × State) :=
  match s.descriptor? fd with
  | none => some (.error .badDescriptor, s)
  | some (number, d) =>
    if !d.readable then some (.error .badDescriptor, s)
    else
      match d.target with
      | .file file =>
        let data := (s.octetsOf file).extract d.offset (d.offset + count)
        let moved := s.changeDescription number fun d => { d with offset := d.offset + data.size }
        some (.ok data, moved)
      | .directory _ => some (.error .isDirectory, s)
      | .device .null => some (.ok ByteArray.empty, s)
      | .device .random =>
        let octets := (List.range count).map fun i =>
          UInt8.ofNat ((i * 167 + i / 256 * 31 + 13) % 256)
        some (.ok ⟨octets.toArray⟩, s)
      | .device _ => some (.ok ⟨Array.replicate count 0⟩, s)
      | .pipe pipe =>
        let held := (s.pipes.lookup pipe).getD {}
        if held.held = 0 then
          if s.hasWriter pipe then none else some (.ok ByteArray.empty, s)
        else
          let (data, left) := held.take count
          some (.ok data, { s with pipes := changedAt pipe (fun _ => left) s.pipes })

/-- What comes of writing: how many octets were taken, or why none were. -/
inductive Written where
  | taken (count : Nat)
  | refused (fault : SystemError)
  /-- Nobody is left to read, which the writer is told by a signal. -/
  | broken

/-- Write octets to a descriptor. The request waits while a pipe has no room. -/
def write (s : State) (fd : Nat) (data : ByteArray) : Option (Written × State) :=
  match s.descriptor? fd with
  | none => some (.refused .badDescriptor, s)
  | some (number, d) =>
    if !d.writable then some (.refused .badDescriptor, s)
    else
      match d.target with
      | .file file =>
        let offset := if d.append then (s.octetsOf file).size else d.offset
        let moved := s.changeDescription number fun d => { d with offset := offset + data.size }
        let written : State :=
          if s.outlet = some number then { moved with handed := some (offset, data) }
          else { moved with files := s.files.overwrite (.file file) offset data }
        some (.taken data.size, written)
      | .directory _ => some (.refused .isDirectory, s)
      | .device .full => some (.refused .noSpace, s)
      | .device _ => some (.taken data.size, s)
      | .pipe pipe =>
        if !s.hasReader pipe then some (.broken, s)
        else
          let held := (s.pipes.lookup pipe).getD {}
          let least := if data.size ≤ Pipe.whole then data.size else 1
          if held.room < least then none
          else
            let count := min held.room data.size
            let pipes := changedAt pipe (·.add (data.extract 0 count)) s.pipes
            some (.taken count, { s with pipes })

/-- Go back or forth in an open file. -/
def seek (s : State) (fd : Nat) (place : Nat → Nat → Nat) : State :=
  match s.descriptor? fd with
  | some (number, { target := .file file, .. }) =>
    let size := (s.octetsOf file).size
    s.changeDescription number fun d => { d with offset := place size d.offset }
  | _ => s

/-- Work from another directory. -/
def changeDirectory (s : State) (path : String) : Except SystemError Unit × State :=
  match s.view.find (pathOf path) with
  | .error fault => (.error fault.cause, s)
  | .ok (loc, .directory access) =>
    if access.allows .enter then (.ok (), s.changeMe fun m => { m with cwd := loc })
    else (.error .denied, s)
  | .ok _ => (.error .notDirectory, s)

/-- Move what is at a path to another path. Whoever works below it moves along. -/
def rename (s : State) (old new : String) : Except SystemError Unit × State :=
  let fs := s.view
  match fs.rename (pathOf old) (pathOf new) with
  | .error fault => (.error fault.cause, s)
  | .ok files =>
    let locOf (path : String) : Option Location :=
      (fs.slot (fun _ => .busy) (pathOf path)).toOption.map Slot.loc
    let members :=
      match locOf old, locOf new with
      | some a, some b =>
        if a = b then s.members
        else s.members.map fun (n, m) => (n, { m with cwd := FileSystem.rebased a b m.cwd })
      | _, _ => s.members
    (.ok (), { s with files, members })

/-- Split off a process that is like the one whose turn it is: the number of the new one. -/
def split (s : State) : Nat × State :=
  let child : Member := { s.me with parent := s.self, pending := [], wake := none, ended := none }
  (s.next, { s with members := (s.next, child) :: s.members, next := s.next + 1 })

/-- Which children a process waits for. -/
inductive Awaited where
  | any
  | one (process : Nat)

/-- Take note of the end of a child: its number and its ending, or nothing if there is no such
child. The request waits while such children live. -/
def awaitChild (s : State) (awaited : Awaited) : Option (Option (Nat × Ending) × State) :=
  let children := s.members.filter fun (number, m) =>
    m.parent = s.self && (match awaited with
      | .any => true
      | .one process => number = process)
  match children.reverse.find? (·.2.ended.isSome) with
  | some (number, m) =>
    some (m.ended.map fun ending => (number, ending),
      { s with members := withoutKey number s.members })
  | none => if children.isEmpty then some (none, s) else none

/-- The signals that do nothing unless somebody takes care of them. -/
def harmless : List Nat := [17, 18, 23, 28]

/-- The signals that cannot be taken care of. -/
def uncatchable : List Nat := [9, 19]

/-- Give a process a signal. -/
def deliver (s : State) (process signal : Nat) : State :=
  let m := s.member process
  if signal = 0 || m.ended.isSome then s
  else if uncatchable.contains signal then s.finish process (.killed signal)
  else if m.ignored.contains signal then s
  else if m.caught.contains signal then
    s.changeMember process fun m =>
      { m with pending := if m.pending.contains signal then m.pending else m.pending ++ [signal] }
  else if harmless.contains signal then s
  else s.finish process (.killed signal)

/-- Send a signal to a process. -/
def send (s : State) (process signal : Nat) : Except SystemError Unit × State :=
  if (s.members.lookup process).isNone then (.error .noProcess, s)
  else if 64 < signal then (.error .invalid, s)
  else (.ok (), s.deliver process signal)

end State

end Machine

end ReleaseBuilder
