/-
# Evaluation

How a statement is run. A simple command is made ready in a fixed order: its words are
expanded, then its redirections are done, then its assignments; after that it is a
function, a builtin command or a program. What stands inside a statement is run by the
powers that the statement is given, so that a statement is evaluated in one step.
-/

import ReleaseBuilder.Machine.Shell.Builtin

namespace ReleaseBuilder.Machine.Shell

/-- Tell which line is run. -/
def atLine (line : Nat) : Action Unit :=
  modify fun s => { s with line }

/-- Expand words until one of them gives something: that, and the words that are left. -/
def expandSome (p : Powers) : List Word → Action (List String × List Word)
  | [] => return ([], [])
  | w :: rest => do
    match ← expand (outputOf p) w with
    | [] => expandSome p rest
    | found => return (found, rest)

/-- What the front of a simple command says. -/
structure Head where
  /-- What was expanded so far, from the name of the command on. -/
  words : List String
  /-- The words that are not expanded yet. -/
  rest : List Word
  /-- What stands in front to say how the command is found. -/
  front : List String := []
  /-- Where the command is looked for, if not where all are. -/
  searchPath : Option String := none

/-- Whether a command is called so that no function is meant. -/
def Head.isPlain (h : Head) : Bool := !h.front.isEmpty

/-- The first word of what was expanded, for which more is expanded if need be. -/
def Head.filled (p : Powers) (h : Head) : Action Head := do
  if h.words.isEmpty then
    let (words, rest) ← expandSome p h.rest
    return { h with words, rest }
  else return h

/-- Pass over the options of a call that says how its command is found, if a command follows
them. -/
def passOptions (p : Powers) : Nat → Head → Action (Option Head)
  | 0, _ => return none
  | fuel + 1, h => do
    let h ← h.filled p
    match h.words with
    | [] => return none
    | word :: words =>
      let passed := { h with words, front := h.front ++ [word] }
      match word.toList with
      | ['-', '-'] => do
        let h ← passed.filled p
        return if h.words.isEmpty then none else some h
      | '-' :: c :: letters =>
        if (c :: letters).all (· = 'p') then
          passOptions p fuel { passed with searchPath := some usualPath }
        else return none
      | _ => return some h

/-- What kind of command is called. -/
inductive Called where
  | nothing
  | function (f : Function)
  | builtin (name : String)
  | program

/-- Find out which command is called. -/
def calledBy (p : Powers) : Nat → Head → Action (Called × Head)
  | 0, h => return (.program, h)
  | fuel + 1, h => do
    match h.words with
    | [] => return (.nothing, h)
    | name :: words =>
      match h.isPlain, (← get).functions.lookup name with
      | false, some f => return (.function f, h)
      | _, _ =>
        if name.toList.contains '/' || !builtinNames.contains name then return (.program, h)
        else if name = "command" then
          let inner := { h with words, front := h.front ++ [name] }
          match ← passOptions p ((words.length + h.rest.length) * 2 + 2) inner with
          | some h => calledBy p fuel h
          | none =>
            let all ← expandAll (outputOf p) h.rest
            return (.builtin name, { h with words := h.words ++ all, rest := [] })
        else return (.builtin name, h)

/-- Expand the words of a command that are left. -/
def expandRest (p : Powers) (assigning : Bool) : List Word → Action (List String)
  | [] => return []
  | w :: rest => do
    let first ←
      if assigning && isAssignment w then do
        let (name, value) ← expandAssignment (outputOf p) w
        pure [name ++ "=" ++ value]
      else expand (outputOf p) w
    return first ++ (← expandRest p assigning rest)

/-- Do the assignments of a command: what they are, and what the variables were before. -/
def assignAll (p : Powers) (marked : Bool) :
    List Word → Action (List (String × String) × List (String × Option Variable))
  | [] => return ([], [])
  | w :: rest => do
    let (name, value) ← expandAssignment (outputOf p) w
    let before := (← get).bindings.lookup name
    assign name value
    if marked then modify fun s => s.put name { s.entry name with exported := true }
    let (assigned, kept) ← assignAll p marked rest
    return ((name, value) :: assigned, kept ++ [(name, before)])

/-- The text in front of commands that are told. -/
def traceMark (p : Powers) : Action String := do
  let s ← get
  let text := (s.value? "PS4").getD "+ "
  if !text.toList.any fun c => c = '$' || c = backquote || c = '\\' then return text
  else
    let reader : Reader := { input := text.toList }
    let lexer := (Reading.parser p.reserved Reading.nesting).lexer
    match (lexer.inDocument text.toList).run.run reader with
    | (.ok w, _) =>
      modify fun s => { s with options := s.options.filter (· ≠ 'x') }
      let shown ← expandText (outputOf p) w
      modify fun now => { now with options := s.options, outputStatus := s.outputStatus }
      return shown
    | (.error _, _) => return text

/-- Tell a command before it is run. -/
def tellCommand (p : Powers) (kept : List Kept) (assigned : List (String × String))
    (words : List String) : Action Unit := do
  if (← get).hasOption 'x' then
    let mark ← traceMark p
    let shown := assigned.map (fun (name, value) => name ++ "=" ++ value) ++ words
    let fd := ((kept.find? (·.fd = 2)).bind Kept.copy).getD 2
    let _ ← request (Program.write fd (Text.octetsOf (mark ++ " ".intercalate shown ++ "\n")))

/-- How deep functions may call one another. -/
def functionLimit : Nat := 1000

/-- Call a function. -/
def callFunction (p : Powers) (m : Position) (f : Function) (args : List String) : Action Nat := do
  let before ← get
  if functionLimit ≤ before.functionDepth then
    fail ("Maximum function recursion depth (" ++ toString functionLimit ++ ") reached")
  else
    set { before with
      args, loops := 0, functionDepth := before.functionDepth + 1, locals := [] :: before.locals
      optionIndex := 1, optionOffset := none }
    let body := tryCatch (p.run { tested := m.tested } f.body) fun u =>
      match u with
      | .return status => return status
      | u => throw u
    always body (modify fun s =>
      { reinstate (s.locals.headD []) s with
        args := before.args, loops := before.loops, functionDepth := before.functionDepth
        locals := before.locals, optionIndex := before.optionIndex
        optionOffset := before.optionOffset })

/-- Run a builtin command. What goes wrong in one that is not special ends nothing. -/
def callBuiltin (p : Powers) (m : Position) (special : Bool) (name : String) (args : List String) :
    Action Nat := do
  let before := (← get).command
  modify fun s => { s with command := some name }
  let work := tryCatch (runBuiltin p m name args) fun u => do
    match u with
    | .failure => if special then throw u else return (← get).status
    | u => throw u
  always work (modify fun s => { s with command := before })

/-- Run a program. -/
def callProgram (p : Powers) (m : Position) (h : Head) (words : List String) : Action Nat := do
  let s ← get
  let searchPath := h.searchPath.getD s.searchPath
  let name := words.headD ""
  let start : Action Nat := do
    if m.last && !s.hasTraps then execute searchPath words
    else waitFor (← splitOff p (execute searchPath words))
  if name.toList.contains '/' then start
  else
    match ← programNamed searchPath name with
    | .error fault =>
      grumble (name ++ ": " ++ startingFault fault)
      return missingStatus
    | .ok path =>
      rememberProgram name path
      start

/-- Run a simple command. -/
def runSimple (p : Powers) (m : Position) (assignments words : List Word)
    (redirections : List Redirection) : Action Nat := do
  modify fun s => { s with outputStatus := 0 }
  let (first, rest) ← expandSome p words
  let (called, h) ← calledBy p (words.length + first.length + 1) { words := first, rest }
  let builtin :=
    match called with
    | .builtin name => name
    | _ => ""
  let special := specialNames.contains builtin && !h.isPlain
  let words := h.words ++ (← expandRest p (assigningNames.contains builtin) h.rest)
  let redirects ← expandRedirections (outputOf p) redirections
  match ← redirectSafely redirects with
  | none => if special then throw .failure else return failureStatus
  | some kept =>
    let lasting :=
      match called with
      | .nothing => true
      | _ => special
    let executing := builtin = "exec" && 1 < words.length
    let work : Action Nat := do
      let (assigned, before) ← assignAll p (!lasting || executing) assignments
      tellCommand p kept assigned (h.front ++ words)
      let call : Action Nat :=
        match called with
        | .nothing => return (← get).outputStatus
        | .function f => callFunction p m f words.tail
        | .builtin name => callBuiltin p m special name words.tail
        | .program => callProgram p m h words
      if lasting then call else always call (modify (reinstate before))
    always work (if builtin = "exec" then settle kept else restore kept)

/-- What becomes of a round of a loop. -/
inductive Round where
  | done (status : Nat)
  /-- The next round is to begin. -/
  | again
  /-- There are to be no more rounds. -/
  | leave

/-- Run a part of a round. -/
def roundOf (work : Action Nat) : Action Round :=
  tryCatch (Round.done <$> work) fun u =>
    match u with
    | .break n => if n ≤ 1 then return .leave else throw (.break (n - 1))
    | .continue n => if n ≤ 1 then return .again else throw (.continue (n - 1))
    | u => throw u

/-- Run the rounds of a loop while, or until, a condition holds. -/
def runLoop (p : Powers) (m : Position) (whileTrue : Bool) (condition body : Script) :
    Nat → Nat → Action Nat
  | 0, status => return status
  | fuel + 1, status => do
    match ← roundOf (p.run { tested := true } condition) with
    | .leave => return status
    | .again => runLoop p m whileTrue condition body fuel status
    | .done found =>
      if (found = 0) != whileTrue then return status
      else
        match ← roundOf (p.run m.inner body) with
        | .done status => runLoop p m whileTrue condition body fuel status
        | .again => runLoop p m whileTrue condition body fuel 0
        | .leave => return 0

/-- Run a round of a loop for each of several words. -/
def runEach (p : Powers) (m : Position) (name : String) (body : Script) :
    List String → Nat → Action Nat
  | [], status => return status
  | word :: rest, _ => do
    assign name word
    match ← roundOf (p.run m.inner body) with
    | .done status => runEach p m name body rest status
    | .again => runEach p m name body rest 0
    | .leave => return 0

/-- Count a loop while it is run. -/
def inLoop (work : Action Nat) : Action Nat := do
  modify fun s => { s with loops := s.loops + 1 }
  always work (modify fun s => { s with loops := s.loops - 1 })

/-- The first branch that one of whose patterns matches a text. -/
def branchFor (p : Powers) (text : List Char) :
    List (List Word × Script) → Action (Option Script)
  | [] => return none
  | (patterns, body) :: rest => do
    for w in patterns do
      if Pattern.isMatch (← expandPattern (outputOf p) w) text then return some body
    branchFor p text rest

/-- The signals that something in the background does not take note of. -/
def keyboardSignals : List Nat := [2, 3]

/-- Let a process that was split off be in the background. -/
def goBack (first : Bool) : Action Unit := do
  request (Program.change fun s => s.changeMe fun m =>
    { m with ignored := keyboardSignals ++ m.ignored.filter (!keyboardSignals.contains ·) })
  modify fun s => { s with settled := keyboardSignals ++ s.settled }
  if first then
    request (Program.close 0)
    match ← request (Program.ask (·.openFrom hiddenDescriptor .reading "/dev/null")) with
    | .ok fd => moveDescriptor fd 0
    | .error _ => fail "Can't open /dev/null"

/-- Start the stages of a pipeline: their processes. `input` is where the first of them reads
from, if that is a pipe. -/
def startStages (p : Powers) (m : Position) (inBackground : Bool) :
    Option Nat → List Statement → Action (List Nat)
  | _, [] => return []
  | input, s :: rest => do
    let pipe ← if rest.isEmpty then pure none else some <$> request (Program.ask State.makePipe)
    let child ← splitOff p (do
      if inBackground then goBack input.isNone
      if let some (reader, _) := pipe then request (Program.close reader)
      if let some fd := input then plug fd 0
      if let some (_, writer) := pipe then plug writer 1
      p.run { m with last := true } (some s))
    if let some fd := input then request (Program.close fd)
    if let some (_, writer) := pipe then request (Program.close writer)
    return child :: (← startStages p m inBackground (pipe.map Prod.fst) rest)

/-- End the shell if a command failed and it was told to be careful about that. -/
def checked (m : Position) (status : Nat) : Action Nat := do
  if status ≠ 0 && !m.tested && (← get).hasOption 'e' then throw (.exit status)
  else return status

/-- Run a statement. -/
def evaluate (p : Powers) (m : Position) (statement : Statement) : Action Nat := do
  match statement with
  | .simple line assignments words redirections =>
    atLine line
    runSimple p m assignments words redirections
  | .pipeline stages inBackground =>
    let processes ← startStages p m inBackground none stages
    if inBackground then
      keepJob processes
      return 0
    else waitForAll processes
  | .negated s =>
    let status ← p.run { tested := true } (some s)
    return if status = 0 then 1 else 0
  | .conjunction first second =>
    let status ← p.run { tested := true } (some first)
    if status = 0 then p.run m (some second) else return status
  | .disjunction first second =>
    let status ← p.run { tested := true } (some first)
    if status = 0 then return status else p.run m (some second)
  | .sequence first second =>
    let _ ← p.run m.inner (some first)
    p.run m (some second)
  | .subshell line body redirections =>
    atLine line
    let redirects ← expandRedirections (outputOf p) redirections
    let work : Action Nat := do
      let _ ← redirectAll redirects []
      p.run { m with last := true } body
    if m.last && !(← get).hasTraps then
      beginSplit
      work
    else waitFor (← splitOff p work)
  | .background line body redirections =>
    atLine line
    let redirects ← expandRedirections (outputOf p) redirections
    let child ← splitOff p (do
      goBack true
      let _ ← redirectAll redirects []
      p.run { last := true } (some body))
    keepJob [child]
    return 0
  | .redirected line body redirections =>
    atLine line
    let redirects ← expandRedirections (outputOf p) redirections
    match ← redirectSafely redirects with
    | none => return failureStatus
    | some kept => always (p.run m.inner body) (restore kept)
  | .choice condition yes no =>
    let status ← p.run { tested := true } condition
    if status = 0 then p.run m yes else p.run m no
  | .loop whileTrue condition body =>
    inLoop (runLoop p m whileTrue condition body Program.repetitions 0)
  | .each line name words body =>
    atLine line
    let words ← expandAll (outputOf p) words
    inLoop (runEach p m name body words 0)
  | .cases line word branches =>
    atLine line
    let text ← expandText (outputOf p) word
    match ← branchFor p text.toList branches with
    | some body => p.run m body
    | none => return 0
  | .function line name body =>
    modify fun s =>
      { s with functions := (name, ⟨body, line⟩) :: withoutKey name s.functions }
    return 0

/-- Whether the failure of a statement is told by its own parts, which may have been careful
about it. -/
def isTransparent : Statement → Bool
  | .simple .. | .pipeline .. | .subshell .. | .background .. => false
  | _ => true

/-- Run a script, given how deep statements may stand in one another. -/
def runScript : Nat → Position → Script → Action Nat
  | 0, _, _ => request (Program.finish (.killed 11))
  | _ + 1, _, none => return 0
  | depth + 1, m, some statement => do
    let p : Powers := { run := runScript depth, reserved := specialNames }
    if (← get).hasOption 'n' && !(← get).hasOption 'i' then return 0
    attend p
    let status ← evaluate p m statement
    modify fun s => { s with status }
    attend p
    if isTransparent statement then return status else checked m status

/-- How deep statements may stand in one another. -/
def depthLimit : Nat := 1000000

/-- What the commands of a shell are run with. -/
def powers : Powers := { run := runScript depthLimit, reserved := specialNames }

end ReleaseBuilder.Machine.Shell
