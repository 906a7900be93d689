/-
# Utilities that start programs

A utility that becomes the program that its operands name, with other variables, after some
time, or for pieces of its input.
-/

import ReleaseBuilder.Machine.Image
import ReleaseBuilder.Machine.Signals
import ReleaseBuilder.Machine.Utility.Tool

namespace ReleaseBuilder.Machine.Utility

/-- The search path of programs that were given none. -/
def plainPath : String := "/bin:/usr/bin"

/-- Become the program that arguments name, or give the reason why that cannot be. What has no
format that the system knows is read by the shell. -/
def launch (env args : List String) : Tool SystemError := do
  let fs ← files
  let searchPath := (valueIn? env "PATH").getD plainPath
  match Image.named fs searchPath (args.headD "") args with
  | .error fault => return fault
  | .ok (path, .unmarked) => request (Program.become "sh" ⟨"/bin/sh", path :: args.tail, env⟩)
  | .ok (_, .program name args) => request (Program.become name ⟨args.headD "", args.tail, env⟩)

/-- The status of a program that could not be started. -/
def launchStatus (fault : SystemError) : Nat :=
  if fault = .noEntry then 127 else 126

/-- Become a program, or end with a complaint. -/
def launchOrQuit (env args : List String) (words : String := "") (bare : Bool := false) :
    Tool α := do
  flush
  let fault ← launch env args
  let name := args.headD ""
  refuse (words ++ (if bare then name else inQuotes name) ++ ": " ++ fault.words)
    (launchStatus fault)

/-- Lay an entry over the entries of an environment: in the place of the one of its name, or
behind all. -/
def overlaid (env : List String) (entry : String) : List String :=
  let name := String.ofList (entry.toList.takeWhile (· ≠ '=')) ++ "="
  if env.any (·.startsWith name) then
    env.map fun e => if e.startsWith name then entry else e
  else env ++ [entry]

/-- The words of a text at its blanks. -/
def wordsOf (s : String) : List String :=
  ((s.toList.splitOn ' ').filter (!·.isEmpty)).map String.ofList

/-- Become a program with other variables, or tell the variables. -/
def env : Tool Unit := do
  let switches : List Switch :=
    [⟨"i", "ignore-environment", .never⟩, ⟨"0", "null", .never⟩, ⟨"u", "unset", .always⟩,
      ⟨"C", "chdir", .always⟩, ⟨"S", "split-string", .always⟩, ⟨"v", "debug", .never⟩]
  let a ← arguments switches false 125
  let given := (a.value? "S").toList.flatMap wordsOf ++ a.operands
  let (bare, given) :=
    match given with
    | "-" :: rest => (true, rest)
    | _ => (false, given)
  let inherited := (← read).env
  let start := if bare || a.has "i" then [] else inherited
  let kept := start.filter fun e => !(a.values "u").any fun name => e.startsWith (name ++ "=")
  let added := given.takeWhile fun e => e.toList.contains '='
  let all := added.foldl overlaid kept
  let args := given.drop added.length
  if let some dir := a.value? "C" then
    match ← request (Program.ask (·.changeDirectory dir)) with
    | .ok () => pure ()
    | .error fault =>
      refuse ("cannot change directory to " ++ inQuotes dir ++ ": " ++ fault.words) 125
  if args.isEmpty then
    for e in all do emit (e ++ (if a.has "0" then "\x00" else "\n"))
  else launchOrQuit all args

/-- Tell the values of variables. -/
def printenv : Tool Unit := do
  let a ← arguments [⟨"0", "null", .never⟩] false 2
  let ending := if a.has "0" then "\x00" else "\n"
  let env := (← read).env
  if a.operands.isEmpty then
    for e in env do emit (e ++ ending)
  else
    for name in a.operands do
      match if name.toList.contains '=' then none else valueIn? env name with
      | some value => emit (value ++ ending)
      | none => mark

/-- Become a program that other ones go before. -/
def nice : Tool Unit := do
  let a ← arguments [⟨"n", "adjustment", .always⟩] false 125
  if a.operands.isEmpty then emit "0\n" else launchOrQuit (← read).env a.operands

/-- Become a program that outlives the end of its session. -/
def nohup : Tool Unit := do
  let a ← arguments [] false 125
  if a.operands.isEmpty then missingOperand 125
  else
    request (Program.change (·.changeMe fun m => { m with ignored := 1 :: m.ignored }))
    launchOrQuit (← read).env a.operands "failed to run command "

/-- A time in thousandths of a second, as an operand writes it. -/
def time? (s : String) : Option Nat :=
  let cs := s.toList
  let (digits, unit) :=
    match cs.getLast? with
    | some 's' => (cs.dropLast, 1)
    | some 'm' => (cs.dropLast, 60)
    | some 'h' => (cs.dropLast, 3600)
    | some 'd' => (cs.dropLast, 86400)
    | _ => (cs, 1)
  let whole := digits.takeWhile Char.isDigit
  let behind := digits.drop whole.length
  let part := behind.drop 1
  if s = "infinity" || s = "inf" then some (1000 * 86400 * 365 * 100)
  else if !part.all Char.isDigit || (whole.isEmpty && part.isEmpty) then none
  else if behind.headD '.' ≠ '.' then none
  else
    let scaled := Shell.numberOf 10 (whole ++ part) * unit * 1000
    let fraction := Nat.pow 10 part.length
    some ((scaled + fraction - 1) / fraction)

/-- Let time go by. -/
def sleep : Tool Unit := do
  let a ← arguments [] true 1
  if a.operands.isEmpty then missingOperand
  let mut total := 0
  let mut wrong := false
  for operand in a.operands do
    match time? operand with
    | some time => total := total + time
    | none =>
      tell ("invalid time interval " ++ inQuotes operand)
      wrong := true
  if wrong then
    mutter ("Try '" ++ (← read).name ++ " --help' for more information.\n")
    quit 1
  request (Program.sleep total)

/-- Run a program for a time at most. -/
def timeout : Tool Unit := do
  let switches : List Switch :=
    [⟨"s", "signal", .always⟩, ⟨"k", "kill-after", .always⟩, ⟨"", "preserve-status", .never⟩,
      ⟨"", "foreground", .never⟩, ⟨"v", "verbose", .never⟩]
  let a ← arguments switches false 125
  let call ← read
  match a.operands with
  | limit :: args =>
    if args.isEmpty then missingOperand 125
    let some time := time? limit | misuse ("invalid time interval " ++ inQuotes limit) 125
    let signal := ((a.value? "s").bind signalNamed?).getD 15
    let work := launchOrQuit call.env args "failed to run command "
    let child : Program Nat := program work 125 call
    let process ← request (Program.fork child)
    let now ← request (Program.look State.clock)
    let due := now + time
    if 0 < time then
      request (Program.change fun s => s.changeMe fun m => { m with wake := some due })
    let ended ← request (Program.await fun s =>
      match s.awaitChild (.one process) with
      | some (result, s) => some (result.map Prod.snd, s)
      | none => if 0 < time && due ≤ s.clock then some (none, s) else none)
    request (Program.change fun s => s.changeMe fun m => { m with wake := none })
    match ended with
    | some (.killed signal) => request (Program.finish (.killed signal))
    | some ending => quit (statusOf ending)
    | none =>
      let _ ← request (Program.ask (·.send process signal))
      let ending ← request (Program.await (·.awaitChild (.one process)))
      if a.has "preserve-status" then quit ((ending.map fun e => statusOf e.2).getD 124)
      else if signal = 9 then request (Program.finish (.killed 9))
      else quit 124
  | [] => missingOperand 125

/-- What is read and grouped into the arguments of calls: blanks part words, quotes and
backslashes keep them together. -/
def argumentWords : Nat → List Char → Option (List Char) → List String → Option (List String)
  | 0, _, _, words => some words.reverse
  | _ + 1, [], held, words =>
    some ((held.map fun w => String.ofList w.reverse).toList ++ words).reverse
  | fuel + 1, c :: rest, held, words =>
    let soFar := held.getD []
    if c = ' ' || c = '\t' || c = '\n' then
      argumentWords fuel rest none ((held.map fun w => String.ofList w.reverse).toList ++ words)
    else if c = '\'' || c = '"' then
      let inner := rest.takeWhile (· ≠ c)
      if inner.length = rest.length || inner.contains '\n' then none
      else argumentWords fuel (rest.drop (inner.length + 1)) (some (inner.reverse ++ soFar)) words
    else if c = '\\' then
      match rest with
      | d :: rest => argumentWords fuel rest (some (d :: soFar)) words
      | [] => none
    else argumentWords fuel rest (some (c :: soFar)) words

/-- Groups of at most so many. -/
def groupsOf (size : Nat) (words : List String) : List (List String) :=
  let rec go : Nat → List String → List (List String)
    | 0, _ | _, [] => []
    | fuel + 1, words => words.take size :: go fuel (words.drop size)
  if size = 0 then [words] else go words.length words

/-- Run a program with arguments from the input. -/
def xargs : Tool Unit := do
  let switches : List Switch :=
    [⟨"0", "null", .never⟩, ⟨"n", "max-args", .always⟩, ⟨"I", "", .always⟩,
      ⟨"r", "no-run-if-empty", .never⟩, ⟨"t", "verbose", .never⟩, ⟨"d", "delimiter", .always⟩,
      ⟨"L", "max-lines", .always⟩, ⟨"P", "max-procs", .always⟩, ⟨"s", "max-chars", .always⟩]
  let a ← arguments switches false 1
  let call ← read
  let octets ← readOperand "-"
  let input := (Text.narrowOf (octets.toOption.getD ByteArray.empty)).toList
  let pieces (by' : Char) : List String :=
    let all := input.splitOn by'
    ((if all.getLast? = some [] then all.dropLast else all)).map String.ofList
  let divider : Option Char :=
    if a.has "0" then some '\x00'
    else (a.value? "d").bind fun d =>
      match d.toList with
      | ['\\', 'n'] => some '\n'
      | ['\\', 't'] => some '\t'
      | ['\\', '0'] => some '\x00'
      | c :: _ => some c
      | [] => none
  let unindented (line : String) : String :=
    String.ofList (line.toList.dropWhile fun c => c = ' ' || c = '\t')
  let found : Option (List String) :=
    match divider, a.has "I" with
    | some d, _ => some (pieces d)
    | none, true => some (((pieces '\n').map unindented).filter (!·.isEmpty))
    | none, false => argumentWords (input.length + 1) input none []
  let some words := found
    | refuse "unmatched quote; by default quotes are special to xargs unless you use the -0 option"
  let command := if a.operands.isEmpty then ["echo"] else a.operands
  let calls : List (List String) :=
    match a.value? "I" with
    | some mark => words.map fun w => command.map fun arg => arg.replace mark w
    | none =>
      if words.isEmpty then if a.has "r" then [] else [command]
      else
        let size := ((a.value? "n").or (a.value? "L")).bind natural? |>.getD 0
        (groupsOf size words).map (command ++ ·)
  for args in calls do
    if a.has "t" then mutter (" ".intercalate args ++ "\n")
    let start : Tool Unit := do
      request (Program.close 0)
      let _ ← openPath .reading "/dev/null"
      launchOrQuit call.env args "" true
    let process ← request (Program.fork (program start 1 call))
    match ← request (Program.await (·.awaitChild (.one process))) with
    | some (_, .exited 0) | none => pure ()
    | some (_, .exited 255) =>
      tell (args.headD "" ++ ": exited with status 255; aborting")
      quit 124
    | some (_, .exited 127) => quit 127
    | some (_, .exited 126) => quit 126
    | some (_, .exited _) => mark 123
    | some (_, .killed signal) =>
      tell (args.headD "" ++ ": terminated by signal " ++ toString signal)
      quit 125

end ReleaseBuilder.Machine.Utility
