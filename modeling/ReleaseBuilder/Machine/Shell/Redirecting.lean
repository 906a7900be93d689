/-
# Redirections

What is done to descriptors for the time of a command, and how it is undone: where a
descriptor led before is kept under a descriptor that scripts cannot name.
-/

import ReleaseBuilder.Machine.Shell.Expansion

namespace ReleaseBuilder.Machine.Shell

/-- A redirection whose words have been expanded. -/
inductive Redirect where
  | file (fd : Nat) (course : Course) (path : String)
  /-- A copy of another descriptor, or none any more. -/
  | copy (fd : Nat) (source : Option Nat)
  | document (fd : Nat) (text : String)

/-- The descriptor that a redirection is about. -/
def Redirect.fd : Redirect → Nat
  | .file fd _ _ | .copy fd _ | .document fd _ => fd

/-- Where a descriptor led before: a copy, or nowhere. -/
structure Kept where
  fd : Nat
  copy : Option Nat

/-- The least descriptor that scripts cannot name. -/
def hiddenDescriptor : Nat := 10

/-- The words for a file that cannot be opened. -/
def openingFault (path : String) (creating : Bool) (fault : SystemError) : String :=
  let missing := fault = .noEntry || fault = .notDirectory
  let action := if creating then "cannot create " else "cannot open "
  let reason :=
    if !missing then fault.words
    else if creating then "Directory nonexistent"
    else "No such file"
  action ++ path ++ ": " ++ reason

/-- The text of a document that was read. -/
def documentText (output : Script → Action String) (number : Nat) : Action String := do
  match (← get).documents.lookup number with
  | some w => expandText output w
  | none => return ""

/-- Expand the words of a redirection. -/
def expandRedirection (output : Script → Action String) : Redirection → Action Redirect
  | .file fd course w => return .file fd course (← expandText output w)
  | .copy fd w => do
    let source ← expandText output w
    match source.toList with
    | ['-'] => return .copy fd none
    | [c] => if c.isDigit then return .copy fd (some (c.toNat - '0'.toNat)) else senseless
    | _ => senseless
  | .document fd number => return .document fd (← documentText output number)
where
  /-- The complaint about something that is no descriptor. -/
  senseless : Action Redirect := fail "Syntax error: Bad fd number"

/-- Expand the words of redirections. -/
def expandRedirections (output : Script → Action String) : List Redirection → Action (List Redirect)
  | [] => return []
  | r :: rest => do
    let first ← expandRedirection output r
    return first :: (← expandRedirections output rest)

/-- Let a descriptor lead to where another one leads, and close that one. -/
def moveDescriptor (source fd : Nat) : Action Unit :=
  request (Program.change fun s => ((s.duplicate source fd).2).close source)

/-- A pipe that holds a text and has no writer: the descriptor of its end. -/
def heldPipe (text : String) (s : State) : Nat × State :=
  let number := s.next
  let pipe : Pipe := { data := Text.octetsOf text }
  let s := { s with pipes := (number, pipe) :: s.pipes, next := number + 1 }
  let (description, s) := s.describe { target := .pipe number, readable := true, writable := false }
  let fd := s.freeDescriptor hiddenDescriptor
  (fd, s.attach fd description)

/-- How the file of a course is opened. -/
def openingFor (guarded : Bool) : Course → Opening
  | .input => .reading
  | .output =>
    if guarded then { Opening.writing with exclusive := true, truncate := false } else .writing
  | .clobber => .writing
  | .append => .appending
  | .both => { readable := true, writable := true, create := true }

/-- Whether a file of some kind that is not regular is at a path, which may be written to even
by a shell that does not touch files that are there. -/
def isSpecialFile (fs : FileSystem) (path : String) : Bool :=
  (fs.find? (pathOf path)).any fun (_, node) => !node.isFile

/-- Open what a redirection leads to: a hidden descriptor of it. -/
def openRedirect (r : Redirect) : Action (Option Nat) := do
  match r with
  | .file _ course path =>
    let fs ← request (Program.look State.view)
    let guarded := (← get).hasOption 'C' && !isSpecialFile fs path
    let opening := openingFor guarded course
    match ← request (Program.ask (·.openFrom hiddenDescriptor opening path)) with
    | .ok fd => return some fd
    | .error fault => fail (openingFault path (course != .input) fault)
  | .copy _ none => return none
  | .copy _ (some source) =>
    match ← request (Program.ask (·.keep source hiddenDescriptor)) with
    | .ok fd => return some fd
    | .error fault => fail (toString source ++ ": " ++ fault.words)
  | .document _ text => return some (← request (Program.ask (heldPipe text)))

/-- Do redirections, keeping where each descriptor led before the first of them. -/
def redirectAll : List Redirect → List Kept → Action (List Kept)
  | [], kept => return kept
  | r :: rest, kept => do
    let opened ← openRedirect r
    let kept ←
      if kept.any (·.fd = r.fd) then pure kept
      else do
        let copy ← request (Program.ask (·.keep r.fd hiddenDescriptor))
        pure (⟨r.fd, copy.toOption⟩ :: kept)
    match opened with
    | some fd => moveDescriptor fd r.fd
    | none => request (Program.close r.fd)
    redirectAll rest kept

/-- Undo redirections. -/
def restore : List Kept → Action Unit
  | [] => return
  | k :: rest => do
    match k.copy with
    | some copy => moveDescriptor copy k.fd
    | none => request (Program.close k.fd)
    restore rest

/-- Let redirections be for good. -/
def settle (kept : List Kept) : Action Unit :=
  for k in kept do
    if let some copy := k.copy then request (Program.close copy)

/-- The redirections that can be undone, or nothing if one of them failed, which has then been
told and undone. -/
def redirectSafely (all : List Redirect) : Action (Option (List Kept)) := do
  let rec go : List Redirect → List Kept → Action (Option (List Kept))
    | [], kept => return some kept
    | r :: rest, kept => do
      match ← tryCatch (some <$> redirectAll [r] kept) fun _ => return none with
      | some kept => go rest kept
      | none =>
        restore kept
        return none
  go all []

end ReleaseBuilder.Machine.Shell
