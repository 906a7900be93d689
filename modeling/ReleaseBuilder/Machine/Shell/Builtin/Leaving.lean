/-
# Builtin commands that change the course of a script

Leaving loops, functions and the shell, running texts and files as scripts, and saying what
is done when a signal comes.
-/

import ReleaseBuilder.Machine.Shell.Builtin.Options

namespace ReleaseBuilder.Machine.Shell

/-- Leave the shell. Without a status it is that of the last command, or of the one before the
trap that is run. -/
def exit (args : List String) : Action Nat := do
  match args with
  | a :: _ => throw (.exit (← countOf a))
  | [] =>
    let s ← get
    throw (.exit (s.statusBefore.getD s.status))

/-- Leave a function, or a script that is run as a file. -/
def return' (args : List String) : Action Nat := do
  match args with
  | a :: _ => throw (.return (← countOf a))
  | [] => throw (.return (← get).status)

/-- Leave loops, or go on with their next round. Where no loop is run, nothing happens. -/
def leaveLoops (unwind : Nat → Unwind) (args : List String) : Action Nat := do
  let n ← match args with
    | a :: _ => do
      let n ← countOf a
      if n = 0 then fail ("Illegal number: " ++ a)
      pure n
    | [] => pure 1
  let loops := min n (← get).loops
  if loops = 0 then return 0
  else throw (unwind loops)

/-- Run arguments as a script. -/
def eval (p : Powers) (m : Position) (args : List String) : Action Nat := do
  modify fun s => { s with status := 0 }
  runText p m.inner (" ".intercalate args)

/-- The file of a script, which is looked for in the search path. -/
def scriptPath? (fs : FileSystem) (searchPath name : String) : Option String :=
  if name.toList.contains '/' then some name
  else
    ((Image.directories searchPath).map (Image.inDirectory · name)).find? fun path =>
      fs.isFile (pathOf path)

/-- Run a file as a script, in this shell. -/
def source (p : Powers) (m : Position) (args : List String) : Action Nat := do
  let (_, rest) ← lettersOf "" args
  match rest with
  | [] => return 0
  | name :: _ =>
    let fs ← request (Program.look State.view)
    let some path := scriptPath? fs (← get).searchPath name | fail (name ++ ": not found")
    match ← request (Program.ask (·.openFrom hiddenDescriptor .reading path)) with
    | .error fault => fail (openingFault path false fault)
    | .ok fd =>
      match ← request (Program.readAll fd) with
      | .error _ => fail "Is a directory"
      | .ok octets =>
        request (Program.close fd)
        let command := (← get).command
        modify fun s => { s with command := some path }
        let status ← tryCatch (runText p m.inner (Text.narrowOf octets)) fun u =>
          match u with
          | .return status => return status
          | u => throw u
        modify fun s => { s with command }
        return status

/-- Let the machine know whether a signal is to be ignored, or is taken care of here. -/
def settleSignal (signal : Nat) : Action Unit := do
  let s ← get
  if signal = 0 || s.settled.contains signal || State.uncatchable.contains signal then return
  else
    let action := s.traps.lookup signal
    let withThis (holds : Bool) (signals : List Nat) : List Nat :=
      if holds then signal :: signals.filter (· ≠ signal) else signals.filter (· ≠ signal)
    request (Program.change fun s => s.changeMe fun m =>
      { m with ignored := withThis (action = some "") m.ignored
               caught := withThis (action.any (!·.isEmpty)) m.caught })

/-- Say what is done when signals come. -/
def trapAll (action : Option String) : List String → Action Nat
  | [] => return 0
  | name :: rest => do
    match signalNamed? name with
    | none =>
      let _ ← request (Program.write 2 (Text.octetsOf ("trap: " ++ name ++ ": bad trap\n")))
      return 1
    | some signal =>
      let action := action.bind fun text => if text = "-" then none else some text
      let set := (action.map fun text => (signal, text)).toList
      modify fun s => { s with traps := set ++ withoutKey signal s.traps }
      settleSignal signal
      trapAll action rest

/-- Say what is done when signals come, or tell it. -/
def trap (args : List String) : Action Nat := do
  let (_, rest) ← lettersOf "" args
  match rest with
  | [] =>
    let sorted := (← get).traps.mergeSort fun a b => decide (a.1 ≤ b.1)
    put (String.join (sorted.map fun (signal, action) =>
      "trap -- " ++ singleQuotedText action ++ " " ++ signalName signal ++ "\n"))
  | first :: names =>
    let isNumber := !first.isEmpty && first.toList.all Char.isDigit && (signalNamed? first).isSome
    if names.isEmpty || isNumber then trapAll none rest else trapAll (some first) names

end ReleaseBuilder.Machine.Shell
