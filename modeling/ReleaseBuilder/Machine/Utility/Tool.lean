/-
# Utilities

What the utilities of a machine are made of. A utility collects what it makes and writes it
from time to time, and what is left at its end; it complains on its error output under the
name that it was called by, and may end early with a status.
-/

import ReleaseBuilder.Machine.Condition
import ReleaseBuilder.Machine.Options
import ReleaseBuilder.Machine.Shell.Calculation

namespace ReleaseBuilder.Machine.Utility

/-- What a utility has made and not written yet, why that can not be written, and its status. -/
structure Progress where
  buffer : ByteArray := ByteArray.empty
  fault : Option SystemError := none
  status : Nat := 0

/-- Work of a utility, which may end early. -/
abbrev Tool := ReaderT Call (ExceptT Nat (StateT Progress Program))

/-- A request to the machine, as work of a utility. -/
def request (p : Program α) : Tool α :=
  liftM (m := StateT Progress Program) (n := Tool) (StateT.lift p)

/-- How much is collected before it is written. -/
def bufferSize : Nat := 4096

/-- Write what was collected. -/
def flush : Tool Unit := do
  let p ← get
  if !p.buffer.isEmpty then
    set { p with buffer := ByteArray.empty }
    if p.fault.isNone then
      match ← request (Program.write 1 p.buffer) with
      | .ok () => pure ()
      | .error fault => modify fun p => { p with fault := some fault }

/-- Put octets out. -/
def emitOctets (octets : ByteArray) : Tool Unit := do
  modify fun p => { p with buffer := p.buffer ++ octets }
  if bufferSize ≤ (← get).buffer.size then flush

/-- Put a text out. -/
def emit (s : String) : Tool Unit :=
  emitOctets (Text.octetsOf s)

/-- Write on the error output. -/
def mutter (s : String) : Tool Unit := do
  let _ ← request (Program.write 2 (Text.octetsOf s))

/-- Complain in words, ahead of what was put out and not written. -/
def interject (words : String) : Tool Unit := do
  mutter ((← read).name ++ ": " ++ words ++ "\n")

/-- Complain in words, behind what was put out before. -/
def tell (words : String) : Tool Unit := do
  flush
  interject words

/-- End. -/
def quit (status : Nat) : Tool α :=
  throw status

/-- Let the status be that something went wrong. -/
def mark (status : Nat := 1) : Tool Unit :=
  modify fun p => { p with status := max p.status status }

/-- Complain and end. -/
def refuse (words : String) (status : Nat := 1) : Tool α := do
  tell words
  quit status

/-- Complain about how the utility was called, and end. -/
def misuse (words : String) (status : Nat := 1) : Tool α := do
  tell words
  let name := (← read).name
  mutter ("Try '" ++ name ++ " --help' for more information.\n")
  quit status

/-- Whether a character of a name has to be quoted. -/
def isDelicate (c : Char) : Bool :=
  c.toNat < 33 || 126 < c.toNat || "!\"$&'()*;<=>?[\\^|".toList.contains c || c = Char.ofNat 96

/-- A name as it stands in a complaint: as it is, if nothing in it has to be quoted. -/
def quotedName (s : String) : String :=
  let first := s.toList.headD ' '
  if s.toList.any isDelicate || s.isEmpty || first = '~' || first = '#' then
    if s.toList.contains '\'' then "\"" ++ s ++ "\"" else "'" ++ s ++ "'"
  else s

/-- A name in quotes. -/
def inQuotes (s : String) : String := "'" ++ s ++ "'"

/-- Complain about a path. -/
def tellFault (path : String) (fault : SystemError) : Tool Unit :=
  tell (quotedName path ++ ": " ++ fault.words)

/-- The options that all utilities know. -/
def commonSwitches : List Switch := [⟨"", "help", .never⟩, ⟨"", "version", .never⟩]

/-- The options and operands of the call. -/
def arguments (switches : List Switch) (mixed : Bool := true) (status : Nat := 1) :
    Tool Arguments := do
  match argumentsOf (switches ++ commonSwitches) (← read).args mixed with
  | .ok a =>
    if a.has "help" || a.has "version" then quit 0 else return a
  | .error problem => misuse problem status

/-- Complain that an operand is missing. -/
def missingOperand (status : Nat := 1) : Tool α :=
  misuse "missing operand" status

/-- Complain that there is an operand too many. -/
def extraOperand (operand : String) (status : Nat := 1) : Tool α :=
  misuse ("extra operand " ++ inQuotes operand) status

/-- The files as the utility sees them. -/
def files : Tool FileSystem := request (Program.look State.view)

/-- Change the files, or give the reason why that is refused. -/
def change (f : FileSystem → Except Fault FileSystem) : Tool (Except SystemError Unit) :=
  request (Program.ask (·.onFiles f))

/-- Open a path: its descriptor. -/
def openPath (o : Opening) (path : String) : Tool (Except SystemError Nat) :=
  request (Program.ask (·.openFrom 3 o path))

/-- Open an operand for reading. A hyphen is the input. -/
def openOperand (path : String) : Tool (Except SystemError Nat) :=
  if path = "-" then return .ok 0 else openPath .reading path

/-- Close an operand again. -/
def closeOperand (fd : Nat) : Tool Unit :=
  if fd = 0 then return else request (Program.close fd)

/-- Read all of an operand. -/
def readOperand (path : String) : Tool (Except SystemError ByteArray) := do
  match ← openOperand path with
  | .error fault => return .error fault
  | .ok fd =>
    let octets ← request (Program.readAll fd)
    closeOperand fd
    return octets

/-- How much is read at a time. -/
def blockSize : Nat := 65536

/-- Take block after block from a descriptor, until one is refused or there are no more. -/
def eachBlock (fd : Nat) (step : β → ByteArray → Tool (β × Bool)) :
    Nat → β → Tool (β × Except SystemError Unit)
  | 0, b => return (b, .ok ())
  | fuel + 1, b => do
    match ← request (Program.read fd blockSize) with
    | .error fault => return (b, .error fault)
    | .ok data =>
      if data.isEmpty then return (b, .ok ())
      else
        let (b, goesOn) ← step b data
        if goesOn && (← get).fault.isNone then eachBlock fd step fuel b else return (b, .ok ())

/-- The operands, or the input if there are none. -/
def operandsOr (operands : List String) : List String :=
  if operands.isEmpty then ["-"] else operands

/-- Do something with each operand that can be opened. -/
def eachOperand (operands : List String) (work : String → Nat → Tool Unit) : Tool Unit := do
  for path in operandsOr operands do
    match ← openOperand path with
    | .error fault =>
      tellFault path fault
      mark
    | .ok fd =>
      work path fd
      closeOperand fd

/-- The lines of a text, and what stands behind the last end of a line. -/
def linesAndRest (s : List Char) : List (List Char) × List Char :=
  let pieces := s.splitOn '\n'
  (pieces.dropLast, pieces.getLastD [])

/-- Take line after line from a descriptor. A step tells whether it wants more; the mark says
whether the line was ended. -/
def eachLine (fd : Nat) (step : β → List Char → Bool → Tool (β × Bool)) (start : β) :
    Tool (β × Except SystemError Unit) := do
  let onLines (b : β) (lines : List (List Char)) : Tool (β × Bool) := do
    let mut b := b
    for line in lines do
      let (after, goesOn) ← step b line true
      b := after
      if !goesOn then return (b, false)
    return (b, true)
  let onBlock (held : β × List Char) (data : ByteArray) : Tool ((β × List Char) × Bool) := do
    let (lines, rest) := linesAndRest (held.2 ++ (Text.narrowOf data).toList)
    let (b, goesOn) ← onLines held.1 lines
    return ((b, if goesOn then rest else []), goesOn)
  let ((b, rest), result) ← eachBlock fd onBlock Program.repetitions (start, [])
  if rest.isEmpty then return (b, result)
  else
    let (b, _) ← step b rest false
    return (b, result)

/-- The lines of all operands, without their ends. -/
def allLines (operands : List String) : Tool (List (List Char)) := do
  let mut lines : Array (List Char) := #[]
  for path in operandsOr operands do
    match ← readOperand path with
    | .error fault =>
      tellFault path fault
      mark
    | .ok octets =>
      let (ended, rest) := linesAndRest (Text.narrowOf octets).toList
      lines := lines ++ ended.toArray
      if !rest.isEmpty then lines := lines.push rest
  return lines.toList

/-- A line that was made. -/
def emitLine (line : List Char) : Tool Unit :=
  emit (String.ofList (line ++ ['\n']))

/-- The number that decimal digits write. -/
def natural? (s : String) : Option Nat :=
  if !s.isEmpty && s.toList.all Char.isDigit then some (Shell.numberOf 10 s.toList) else none

/-- The sum of numbers. -/
def total (ns : List Nat) : Nat := ns.foldl (· + ·) 0

/-- The program of a utility. `failing` is its status if it cannot write what it made. -/
def program (work : Tool Unit) (failing : Nat := 1) (call : Call) : Program Nat := do
  let finished : Tool Unit := do
    let ending : Tool (Option Nat) :=
      tryCatch (do work; return none) fun status => return some status
    let left ← ending
    flush
    match (← get).fault with
    | some .brokenPipe =>
      tell ("write error: " ++ SystemError.brokenPipe.words)
      quit failing
    | some fault =>
      tell ("write error: " ++ fault.words)
      quit failing
    | none => quit (left.getD (← get).status)
  let (result, p) ← (finished.run call).run {}
  match result with
  | .ok () => return p.status
  | .error status => return status

end ReleaseBuilder.Machine.Utility
