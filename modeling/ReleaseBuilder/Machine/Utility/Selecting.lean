/-
# Utilities that match

The program that selects the lines that match an expression, and the one that calculates
with its arguments.
-/

import ReleaseBuilder.Machine.Regular
import ReleaseBuilder.Machine.Utility.Octets
import ReleaseBuilder.Machine.Utility.Source

namespace ReleaseBuilder.Machine.Utility

/-! ## Selecting lines -/

/-- How lines are selected and shown. -/
structure Selection where
  expression : Regular
  ignoreCase : Bool
  wholeLines : Bool
  wholeWords : Bool
  inverted : Bool
  onlyMatches : Bool
  numbered : Bool
  titled : Bool
  counted : Bool
  /-- Only names are told: of files with matches, or of those without. -/
  namesOf : Option Bool
  quiet : Bool
  silent : Bool
  asText : Bool
  most : Option Nat
  before : Nat
  after : Nat

namespace Selection

/-- How a line is matched. -/
def matchingOf (s : Selection) (line : List Char) : Regular.Matching :=
  { text := line.toArray, ignoreCase := s.ignoreCase }

/-- Whether a match is one that counts. -/
def counts (s : Selection) (m : Regular.Matching) (first last : Nat) : Bool :=
  let isWord (at' : Nat) : Bool := (m.text[at']?).any Regular.isWordChar
  (!s.wholeLines || (first = 0 && last = m.text.size)) &&
    (!s.wholeWords || !((0 < first && isWord (first - 1)) || isWord last))

/-- The first match that counts at a place or behind it, given how many places may be tried. -/
def matchFrom (s : Selection) (m : Regular.Matching) : Nat → Nat → Option (Nat × Nat)
  | 0, _ => none
  | tries + 1, place =>
    match (Regular.ends m s.expression ⟨place, []⟩).find? (s.counts m place ·.place) with
    | some r => some (place, r.place)
    | none => matchFrom s m tries (place + 1)

/-- The first match in a line. -/
def match? (s : Selection) (line : List Char) : Option (Nat × Nat) :=
  matchFrom s (s.matchingOf line) (if s.wholeLines then 1 else line.length + 1) 0

/-- All matches in a line that are not empty. -/
def allMatches (s : Selection) (m : Regular.Matching) : Nat → Nat → List (List Char)
  | 0, _ => []
  | fuel + 1, place =>
    match matchFrom s m (m.text.size + 1 - place) place with
    | none => []
    | some (first, last) =>
      if first = last then allMatches s m fuel (last + 1)
      else (m.text.extract first last).toList :: allMatches s m fuel last

end Selection

/-- How far the lines of a file have been looked at. -/
structure Selected where
  number : Nat := 0
  count : Nat := 0
  /-- The lines before this one that were not shown. -/
  held : List (Nat × List Char) := []
  /-- How many more lines are shown behind the last one that was selected. -/
  trailing : Nat := 0
  /-- The last line that was shown. -/
  shown : Nat := 0

/-- Show a line of a file, with the mark that tells whether it was selected. -/
def showSelected (s : Selection) (title : String) (mark : String) (number : Nat)
    (text : List Char) : Tool Unit := do
  emit ((if s.titled then title ++ mark else "") ++
    (if s.numbered then toString number ++ mark else ""))
  emitLine text

/-- Part what is shown from what was shown before, if lines between were passed over. -/
def partContexts (s : Selection) (shown next : Nat) (any : Bool) : Tool Unit := do
  if 0 < s.before + s.after && any && shown + 1 < next then emit "--\n"

/-- Look at one line. -/
def selectLine (s : Selection) (title : String) (anyBefore : Bool) (state : Selected)
    (line : List Char) (_ : Bool) : Tool (Selected × Bool) := do
  let number := state.number + 1
  let state := { state with number }
  let found := s.match? line
  if found.isSome != s.inverted then
    let state := { state with count := state.count + 1 }
    if s.quiet then quit 0
    if s.namesOf.isSome then return (state, false)
    if !s.counted then
      if s.onlyMatches then
        if !s.inverted then
          for text in s.allMatches (s.matchingOf line) (line.length + 2) 0 do
            showSelected s title ":" number text
      else
        let first := (state.held.head?.map Prod.fst).getD number
        partContexts s state.shown first (anyBefore || 0 < state.shown)
        for (n, text) in state.held do showSelected s title "-" n text
        showSelected s title ":" number line
    let goesOn := s.most.all (state.count < ·) || (!s.counted && 0 < s.after)
    return ({ state with held := [], trailing := s.after, shown := number }, goesOn)
  else if s.most.any (· ≤ state.count) && state.trailing = 0 then return (state, false)
  else if 0 < state.trailing && !s.counted && !s.onlyMatches && s.namesOf.isNone then
    showSelected s title "-" number line
    return ({ state with trailing := state.trailing - 1, shown := number }, true)
  else
    let held := state.held ++ [(number, line)]
    return ({ state with held := held.drop (held.length - s.before) }, true)

/-- Look at the lines of a file: how many were selected. -/
def selectIn (s : Selection) (title : String) (fd : Nat) (anyBefore : Bool) :
    Tool (Nat × Except SystemError Unit) := do
  let (state, result) ← eachLine fd (selectLine s title anyBefore) {}
  return (state.count, result)

/-- Look at a file that may hold what is no text. -/
def selectCarefully (s : Selection) (title : String) (fd : Nat) (anyBefore : Bool) :
    Tool (Nat × Except SystemError Unit) := do
  let plain := s.asText || s.counted || s.quiet || s.namesOf.isSome
  if plain then selectIn s title fd anyBefore
  else
    let onLine (state : Selected × Bool) (line : List Char) (ended : Bool) :
        Tool ((Selected × Bool) × Bool) := do
      let binary := state.2 || line.contains '\x00'
      if binary then
        let found := (s.match? line).isSome != s.inverted
        if found then
          tell (title ++ ": binary file matches")
          return (({ state.1 with count := state.1.count + 1 }, true), false)
        else return ((state.1, true), true)
      else
        let (after, goesOn) ← selectLine s title anyBefore state.1 line ended
        return ((after, false), goesOn)
    let (state, result) ← eachLine fd onLine ({}, false)
    return (state.1.count, result)

/-- The files below a directory, those of the directory itself first. -/
def filesBelow (fs : FileSystem) : Nat → String → List String
  | 0, _ => []
  | depth + 1, path =>
    match fs.stat true (pathOf path) with
    | .ok (loc, .directory _) =>
      let names := (fs.namesIn loc).mergeSort fun a b => decide (a ≤ b)
      names.flatMap fun name =>
        let below := (if path.endsWith "/" then path else path ++ "/") ++ name
        match fs.stat false (pathOf below) with
        | .ok (_, .link _) => []
        | .ok (_, .device _) => []
        | _ => filesBelow fs depth below
    | _ => [path]

/-- The expressions of a list of texts, one a line. -/
def expressionOf (extended fixed : Bool) (texts : List String) : Tool Regular := do
  let lines := texts.flatMap fun text => text.toList.splitOn '\n'
  let mut read : List Regular := []
  for line in lines do
    if fixed then read := read ++ [Regular.literal line]
    else
      match Regular.ofText extended line true with
      | .ok e => read := read ++ [e]
      | .error words => refuse words 2
  return Regular.anyOf read

/-- Select lines. The letter tells how expressions are written when no option does. -/
def grepWith (usual : String) : Tool Unit := do
  let call ← read
  let numbers := call.args.map fun a =>
    match a.toList with
    | '-' :: c :: cs => if (c :: cs).all Char.isDigit then "-C" ++ String.ofList (c :: cs) else a
    | _ => a
  let a ← withReader (fun call => { call with args := numbers }) (arguments
    [⟨"E", "extended-regexp", .never⟩, ⟨"F", "fixed-strings", .never⟩,
      ⟨"G", "basic-regexp", .never⟩, ⟨"P", "perl-regexp", .never⟩, ⟨"e", "regexp", .always⟩,
      ⟨"f", "file", .always⟩, ⟨"i", "ignore-case", .never⟩, ⟨"y", "", .never⟩,
      ⟨"", "no-ignore-case", .never⟩, ⟨"w", "word-regexp", .never⟩,
      ⟨"x", "line-regexp", .never⟩, ⟨"s", "no-messages", .never⟩,
      ⟨"v", "invert-match", .never⟩, ⟨"m", "max-count", .always⟩, ⟨"b", "byte-offset", .never⟩,
      ⟨"n", "line-number", .never⟩, ⟨"", "line-buffered", .never⟩,
      ⟨"H", "with-filename", .never⟩, ⟨"h", "no-filename", .never⟩, ⟨"", "label", .always⟩,
      ⟨"o", "only-matching", .never⟩, ⟨"q", "quiet", .never⟩, ⟨"q", "silent", .never⟩,
      ⟨"a", "text", .never⟩, ⟨"I", "", .never⟩, ⟨"r", "recursive", .never⟩,
      ⟨"R", "dereference-recursive", .never⟩, ⟨"", "include", .always⟩,
      ⟨"", "exclude", .always⟩, ⟨"L", "files-without-match", .never⟩,
      ⟨"l", "files-with-matches", .never⟩, ⟨"c", "count", .never⟩,
      ⟨"A", "after-context", .always⟩, ⟨"B", "before-context", .always⟩,
      ⟨"C", "context", .always⟩, ⟨"Z", "null", .never⟩, ⟨"", "color", .maybe⟩,
      ⟨"", "colour", .maybe⟩] true 2)
  let mut texts := a.values "e"
  let mut operands := a.operands
  for path in a.values "f" do
    match ← readOperand path with
    | .error fault => refuse (path ++ ": " ++ fault.words) 2
    | .ok octets =>
      let (ended, rest) := linesAndRest (Text.narrowOf octets).toList
      texts := texts ++ (ended ++ if rest.isEmpty then [] else [rest]).map String.ofList
  if !a.has "e" && !a.has "f" then
    match operands with
    | [] =>
      mutter ("Usage: grep [OPTION]... PATTERNS [FILE]...\n" ++
        "Try 'grep --help' for more information.\n")
      quit 2
    | text :: rest =>
      texts := [text]
      operands := rest
  let style := (a.last? ["E", "F", "G", "P"]).getD usual
  let expression ← expressionOf (style = "E" || style = "P") (style = "F") texts
  let count (key : String) : Option Nat := (a.value? key).bind natural?
  for key in ["A", "B", "C"] do
    if let some text := a.value? key then
      if (natural? text).isNone then refuse (text ++ ": invalid context length argument") 2
  if let some text := a.value? "m" then
    if (natural? text).isNone then refuse "invalid max count" 2
  let deep := a.has "r" || a.has "R"
  let fs ← files
  let paths :=
    if deep then
      (if operands.isEmpty then ["."] else operands).flatMap fun path =>
        (filesBelow fs 1000 path).map fun below =>
          if operands.isEmpty then String.ofList (below.toList.drop 2) else below
    else operandsOr operands
  let s : Selection :=
    { expression := expression
      ignoreCase := (a.last? ["i", "y", "no-ignore-case"]).any (· ≠ "no-ignore-case")
      wholeLines := a.has "x"
      wholeWords := a.has "w"
      inverted := a.has "v"
      onlyMatches := a.has "o"
      numbered := a.has "n"
      titled := match a.last? ["H", "h"] with
        | some key => key = "H"
        | none => deep || 1 < paths.length
      counted := a.has "c"
      namesOf := (a.last? ["L", "l"]).map (· = "l")
      quiet := a.has "q"
      silent := a.has "s"
      asText := a.has "a"
      most := count "m"
      before := ((count "B").or (count "C")).getD 0
      after := ((count "A").or (count "C")).getD 0 }
  let mut any := false
  let mut failed := false
  for path in paths do
    let title := if path = "-" then (a.value? "label").getD "(standard input)" else path
    match ← openOperand path with
    | .error fault =>
      failed := true
      if !s.silent then tell (path ++ ": " ++ fault.words)
    | .ok fd =>
      if path ≠ "-" && fs.isDirectory (pathOf path) then
        if !s.silent then tell (path ++ ": Is a directory")
        failed := true
      else if !s.quiet && s.namesOf.isNone && s.most.all (1 < ·) && (← isOwnOutput fd) then
        if !s.silent then tell (title ++ ": input file is also the output")
        failed := true
      else
        let (found, result) ←
          if s.most = some 0 then pure (0, .ok ()) else selectCarefully s title fd any
        if let .error fault := result then
          failed := true
          if !s.silent then tell (path ++ ": " ++ fault.words)
        if s.namesOf.any (· = decide (0 < found)) then
          emit (title ++ if a.has "Z" then "\x00" else "\n")
        else if s.counted && s.namesOf.isNone then
          emit ((if s.titled then title ++ ":" else "") ++ toString found ++ "\n")
        if 0 < found then any := true
      closeOperand fd
  quit (if failed then 2 else if any then 0 else 1)

/-- Select lines by plain expressions. -/
def grep : Tool Unit := grepWith "G"

/-- Select lines by expressions that the name of the program tells how to read. -/
def grepAs (letter : String) : Tool Unit := do
  let name := (← read).name
  mutter (name ++ ": warning: " ++ name ++ " is obsolescent; using grep -" ++ letter ++ "\n")
  withReader (fun call => { call with name := "grep" }) (grepWith letter)

/-! ## Calculating with arguments -/

/-- A value that arguments are calculated with. -/
inductive Operand where
  | number (n : Int)
  | text (s : String)
  deriving DecidableEq

namespace Operand

/-- How a value is written. -/
def written : Operand → String
  | .number n => toString n
  | .text s => s

/-- The number that a value is, if it is one. -/
def number? : Operand → Option Int
  | .number n => some n
  | .text s =>
    match s.toList with
    | '-' :: digits => (natural? (String.ofList digits)).map fun n => -(n : Int)
    | _ => (natural? s).map Int.ofNat

/-- Whether a value counts as nothing. -/
def isNull (v : Operand) : Bool :=
  v.written.isEmpty || v.number? = some 0

end Operand

/-- Calculation with the arguments that are left. -/
abbrev Calculating := StateT (List String) Tool

namespace Calculating

/-- The next argument. -/
def next : Calculating String := do
  match ← get with
  | a :: rest =>
    set rest
    return a
  | [] =>
    let last := (← read).args.getLastD ""
    liftM (m := Tool) (refuse ("syntax error: missing argument after " ++ inQuotes last) 2)

/-- Take an argument if it is one of those that are wanted. -/
def accept? (wanted : List String) : Calculating (Option String) := do
  match ← get with
  | a :: rest =>
    if wanted.contains a then
      set rest
      return some a
    else return none
  | [] => return none

/-- Complain and end. -/
def wrong (words : String) : Calculating α :=
  liftM (m := Tool) (refuse words 2)

/-- What an expression that starts at the front of a text matches of it. -/
def matched (text expression : String) : Calculating Operand := do
  match Regular.ofText false expression.toList with
  | .error words => wrong words
  | .ok e =>
    let m : Regular.Matching := { text := text.toList.toArray }
    let hasGroup := (expression.toList.zip (expression.toList.drop 1)).contains ('\\', '(')
    match Regular.ends m e ⟨0, []⟩ with
    | r :: _ =>
      let found : Regular.Found := ⟨0, r.place, r.groups⟩
      return if hasGroup then .text (String.ofList (found.group m 1)) else .number r.place
    | [] => return if hasGroup then .text "" else .number 0

/-- The number that a value is. -/
def numberOf (v : Operand) : Calculating Int := do
  match v.number? with
  | some n => return n
  | none => wrong "non-integer argument"

/-- The part of a text from a place on. -/
def partOf (text : String) (place size : Int) : String :=
  if place < 1 || size < 1 then ""
  else String.ofList ((text.toList.drop (place.toNat - 1)).take size.toNat)

/-- What a comparison tells. -/
def compared (operator : String) (a b : Operand) : Operand :=
  let order := match a.number?, b.number? with
    | some n, some m => compare n m
    | _, _ => compare a.written b.written
  let holds : Bool := match operator with
    | "<" => order = .lt
    | "<=" => order ≠ .gt
    | "=" | "==" => order = .eq
    | "!=" => order ≠ .eq
    | ">=" => order ≠ .lt
    | _ => order = .gt
  .number (if holds then 1 else 0)

/-- What an operator makes of two values. -/
def combined (operator : String) (a b : Operand) : Calculating Operand := do
  match operator with
  | "|" =>
    return if !a.isNull then a else if !b.isNull then b else .number 0
  | "&" => return if a.isNull || b.isNull then .number 0 else a
  | ":" => matched a.written b.written
  | "+" | "-" | "*" | "/" | "%" =>
    let n ← numberOf a
    let m ← numberOf b
    match operator with
    | "+" => return .number (n + m)
    | "-" => return .number (n - m)
    | "*" => return .number (n * m)
    | _ =>
      if m = 0 then wrong "division by zero"
      else if operator = "/" then return .number (n.tdiv m)
      else return .number (n.tmod m)
  | _ => return compared operator a b

/-- The operators, those that bind least first. -/
def levels : List (List String) :=
  [["|"], ["&"], ["<", "<=", "=", "==", "!=", ">=", ">"], ["+", "-"], ["*", "/", "%"], [":"]]

/-- A value without operators between values. -/
def simple (whole : Calculating Operand) : Nat → Calculating Operand
  | 0 => wrong "syntax error"
  | fuel + 1 => do
    match ← next with
    | "+" => return .text (← next)
    | "(" =>
      let v ← whole
      match ← accept? [")"] with
      | some _ => return v
      | none =>
        match ← get with
        | a :: _ => wrong ("syntax error: expecting ')' instead of " ++ inQuotes a)
        | [] =>
          wrong ("syntax error: expecting ')' after " ++ inQuotes ((← read).args.getLastD ""))
    | ")" => wrong "syntax error: unexpected ')'"
    | "length" =>
      let v ← simple whole fuel
      return .number v.written.length
    | "match" =>
      let a ← simple whole fuel
      let b ← simple whole fuel
      matched a.written b.written
    | "index" =>
      let a ← simple whole fuel
      let b ← simple whole fuel
      return .number ((a.written.toList.findIdx? b.written.toList.contains).elim 0 (· + 1))
    | "substr" =>
      let a ← simple whole fuel
      let place ← simple whole fuel
      let size ← simple whole fuel
      match place.number?, size.number? with
      | some n, some m => return .text (partOf a.written n m)
      | _, _ => return .text ""
    | a => return .text a

/-- A value with the operators of the levels that are told between its parts. -/
def level (whole : Calculating Operand) (count : Nat) : List (List String) → Calculating Operand
  | [] => simple whole count
  | operators :: inner => do
    let first ← level whole count inner
    let rec more : Nat → Operand → Calculating Operand
      | 0, v => return v
      | fuel + 1, v => do
        match ← accept? operators with
        | some operator =>
          let next ← level whole count inner
          more fuel (← combined operator v next)
        | none => return v
    more count first

/-- A value, given how deep parentheses may stand in one another. -/
def value (count : Nat) : Nat → Calculating Operand
  | 0 => wrong "syntax error"
  | depth + 1 => level (value count depth) count levels

end Calculating

/-- Calculate with the arguments. -/
def expr : Tool Unit := do
  let args := match (← read).args with
    | "--" :: rest => rest
    | args => args
  if args.isEmpty then missingOperand 2
  let (v, left) ← (Calculating.value (args.length + 1) (args.length + 1)).run args
  match left with
  | extra :: _ => refuse ("syntax error: unexpected argument " ++ inQuotes extra) 2
  | [] =>
    emit (v.written ++ "\n")
    quit (if v.isNull then 1 else 0)

end ReleaseBuilder.Machine.Utility
