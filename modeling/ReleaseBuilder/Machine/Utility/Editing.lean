/-
# Editing lines

The utility that edits a stream of lines by a script. Each line in turn becomes the
pattern space, the instructions whose addresses select the line are followed, and what is
left of the pattern space is put out. A second space holds text from one line to the next.
-/

import ReleaseBuilder.Machine.Regular
import ReleaseBuilder.Machine.Utility.Octets
import ReleaseBuilder.Machine.Utility.Source

namespace ReleaseBuilder.Machine.Utility

namespace Editing

/-! ## Scripts -/

/-- An expression with the way it is matched. None is the one that was matched last. -/
structure Wanted where
  expression : Option Regular
  ignoreCase : Bool := false
  manyLines : Bool := false

/-- What selects a line. -/
inductive Address where
  | line (n : Nat)
  | last
  | matching (w : Wanted)
  | every (first step : Nat)

/-- What ends a range of lines. -/
inductive Ending where
  | address (a : Address)
  | more (count : Nat)
  | multiple (of : Nat)

/-- The lines that an instruction is for. -/
structure Scope where
  first : Option Address := none
  last : Option Ending := none
  complement : Bool := false

/-- A part of what is put in the place of a match. -/
inductive Part where
  | char (c : Char)
  | group (number : Nat)
  /-- A change of letters: of all that follow, of the next one, or of none any more. -/
  | letters (how : Char)

/-- What a substitution does beyond its replacement. -/
structure Manner where
  all : Bool := false
  printed : Bool := false
  number : Nat := 1
  file : Option String := none

/-- What an instruction does. -/
inductive Deed where
  /-- Skip so many instructions where the scope does not select the line. -/
  | block (size : Nat)
  | label (name : String)
  | branch (condition : Option Bool) (name : String)
  | substitute (w : Wanted) (parts : List Part) (manner : Manner)
  | exchange (pairs : List (Char × Char))
  | append (text : String)
  | insert (text : String)
  | replace (text : String)
  | readFile (path : String)
  | writeFile (path : String) (firstLine : Bool)
  | quit (printing : Bool) (status : Nat)
  | simple (letter : Char)

/-- An instruction. -/
structure Instruction where
  scope : Scope
  deed : Deed

/-- Reading of a script. -/
abbrev Reading := StateT (List Char) (Except String)

namespace Reading

/-- The next character. -/
def next? : Reading (Option Char) := do
  match ← get with
  | c :: rest =>
    set rest
    return some c
  | [] => return none

/-- The characters at the front that satisfy a condition. -/
def takeWhile (holds : Char → Bool) : Reading (List Char) := do
  let front := (← get).takeWhile holds
  modify (·.drop front.length)
  return front

/-- A number. -/
def number : Reading Nat := do
  return Shell.numberOf 10 (← takeWhile Char.isDigit)

/-- Pass over blanks. -/
def blanks : Reading Unit := do
  let _ ← takeWhile fun c => c = ' ' || c = '\t'

/-- What stands before a delimiter. A backslash keeps the character behind it, but is itself
kept only before a character that is no delimiter. -/
def delimited (delimiter : Char) (expression : Bool) :
    Nat → List Char → Reading (Option (List Char))
  | 0, _ => return none
  | fuel + 1, read => do
    match ← next? with
    | none | some '\n' => return none
    | some '\\' =>
      match ← next? with
      | none => return none
      | some c =>
        if c = 'n' && expression then delimited delimiter expression fuel ('\n' :: read)
        else if c ≠ '\n' && (c ≠ delimiter || (!expression && c = '&')) then
          delimited delimiter expression fuel (c :: '\\' :: read)
        else if c = '\n' && !expression then
          delimited delimiter expression fuel ('\n' :: '\\' :: read)
        else delimited delimiter expression fuel (c :: read)
    | some c =>
      if c = delimiter then return some read.reverse
      else delimited delimiter expression fuel (c :: read)

/-- Characters with what the letters behind backslashes stand for, where it is a control. -/
def withControls : List Char → List Char
  | '\\' :: 't' :: rest => '\t' :: withControls rest
  | '\\' :: 'f' :: rest => '\x0c' :: withControls rest
  | '\\' :: 'v' :: rest => '\x0b' :: withControls rest
  | '\\' :: 'a' :: rest => '\x07' :: withControls rest
  | '\\' :: 'r' :: rest => '\r' :: withControls rest
  | '\\' :: c :: rest => '\\' :: c :: withControls rest
  | c :: rest => c :: withControls rest
  | [] => []

/-- The expression that a text writes. An empty one is the one that was matched last. -/
def wanted (extended : Bool) (text : List Char) (ignoreCase manyLines : Bool) : Reading Wanted := do
  if text.isEmpty then return ⟨none, ignoreCase, manyLines⟩
  else
    match Regular.ofText extended (withControls text) with
    | .ok e => return ⟨some e, ignoreCase, manyLines⟩
    | .error words => throw words

/-- An expression in an address, whose delimiter was read. -/
def matching (extended : Bool) (delimiter : Char) : Reading Address := do
  match ← delimited delimiter true ((← get).length + 1) [] with
  | none => throw "unterminated address regex"
  | some text =>
    let flags ← takeWhile fun c => c = 'I' || c = 'M'
    return .matching (← wanted extended text (flags.contains 'I') (flags.contains 'M'))

/-- An address, if there is one. -/
def address? (extended : Bool) : Reading (Option Address) := do
  match ← get with
  | '$' :: rest =>
    set rest
    return some .last
  | '/' :: rest =>
    set rest
    return some (← matching extended '/')
  | '\\' :: c :: rest =>
    set rest
    return some (← matching extended c)
  | c :: _ =>
    if c.isDigit then
      let n ← number
      match ← get with
      | '~' :: rest =>
        set rest
        return some (.every n (← number))
      | _ => return some (.line n)
    else return none
  | [] => return none

/-- The lines that an instruction is for. -/
def scope (extended : Bool) : Reading Scope := do
  let first ← address? extended
  blanks
  let last ←
    match first, ← get with
    | some _, ',' :: rest => do
      set rest
      blanks
      match ← get with
      | '+' :: rest =>
        set rest
        pure (some (.more (← number)))
      | '~' :: rest =>
        set rest
        pure (some (.multiple (← number)))
      | _ =>
        match ← address? extended with
        | some a => pure (some (.address a))
        | none => throw "unexpected `,'"
    | _, _ => pure none
  if let some (.line 0) := first then
    if let some (.address (.matching _)) := last then pure ()
    else throw "invalid usage of line address 0"
  blanks
  let marks ← takeWhile fun c => c = '!' || c = ' '
  return { first := first, last := last, complement := marks.contains '!' }

/-- The parts of a replacement. -/
def parts : List Char → List Part
  | [] => []
  | '&' :: rest => .group 0 :: parts rest
  | '\\' :: c :: rest =>
    (if c.isDigit then .group (c.toNat - 48)
      else if c = 'n' then .char '\n'
      else if "LUEul".toList.contains c then .letters c
      else
        match withControls ['\\', c] with
        | [d] => .char d
        | _ => .char c) :: parts rest
  | c :: rest => .char c :: parts rest

/-- What follows a substitution. -/
def manner : Nat → Manner → Bool × Bool → Reading (Manner × Bool × Bool)
  | 0, m, flags => return (m, flags)
  | fuel + 1, m, flags => do
    match ← get with
    | 'g' :: rest =>
      set rest
      manner fuel { m with all := true } flags
    | 'p' :: rest =>
      set rest
      manner fuel { m with printed := true } flags
    | 'w' :: rest =>
      set rest
      blanks
      let path ← takeWhile (· ≠ '\n')
      return ({ m with file := some (String.ofList path) }, flags)
    | c :: rest =>
      if c = 'i' || c = 'I' then
        set rest
        manner fuel m (true, flags.2)
      else if c = 'm' || c = 'M' then
        set rest
        manner fuel m (flags.1, true)
      else if c.isDigit then
        let n ← number
        if n = 0 then throw "number option to `s' command may not be zero"
        else manner fuel { m with number := n } flags
      else return (m, flags)
    | [] => return (m, flags)

/-- How many groups an expression has. -/
def groupCount : Regular → Nat
  | .group _ body => 1 + groupCount body
  | .sequence a b | .either a b => groupCount a + groupCount b
  | .repeated body _ _ => groupCount body
  | _ => 0

/-- A substitution. -/
def substitution (extended : Bool) : Reading Deed := do
  let unended := "unterminated `s' command"
  let fuel := (← get).length + 1
  match ← next? with
  | none | some '\n' | some '\\' => throw unended
  | some delimiter =>
    match ← delimited delimiter true fuel [] with
    | none => throw unended
    | some expression =>
      match ← delimited delimiter false fuel [] with
      | none => throw unended
      | some replacement =>
        let (m, ignoreCase, manyLines) ← manner fuel {} (false, false)
        let w ← wanted extended expression ignoreCase manyLines
        let parts := parts replacement
        let groups := (w.expression.map groupCount).getD 9
        for part in parts do
          if let .group n := part then
            if groups < n then
              throw ("invalid reference \\" ++ toString n ++ " on `s' command's RHS")
        return .substitute w parts m

/-- The characters of one side of an exchange. -/
def sideOf : List Char → List Char
  | '\\' :: 'n' :: rest => '\n' :: sideOf rest
  | '\\' :: '\\' :: rest => '\\' :: sideOf rest
  | c :: rest => c :: sideOf rest
  | [] => []

/-- An exchange of characters. -/
def exchange : Reading Deed := do
  let unended := "unterminated `y' command"
  let fuel := (← get).length + 1
  match ← next? with
  | none | some '\n' | some '\\' => throw unended
  | some delimiter =>
    match ← delimited delimiter false fuel [], ← delimited delimiter false fuel [] with
    | some first, some second =>
      let first := sideOf (withControls first)
      let second := sideOf (withControls second)
      if first.length ≠ second.length then
        throw "strings for `y' command are different lengths"
      else return .exchange (first.zip second)
    | _, _ => throw unended

/-- The text of an instruction up to the end of its line, which a backslash takes into it. -/
def text : Nat → List Char → Reading (List Char)
  | 0, read => return read.reverse
  | fuel + 1, read => do
    match ← next? with
    | none | some '\n' => return read.reverse
    | some '\\' =>
      match ← next? with
      | none => return read.reverse
      | some c => text fuel (c :: read)
    | some c => text fuel (c :: read)

/-- The text that is to be put out. -/
def given : Reading String := do
  blanks
  let fuel := (← get).length + 1
  match ← get with
  | [] => throw "expected \\ after `a', `c' or `i'"
  | '\\' :: rest =>
    let later := rest.dropWhile fun c => c = ' ' || c = '\t'
    match later with
    | '\n' :: later =>
      set later
      if later.isEmpty then throw "expected \\ after `a', `c' or `i'"
    | _ =>
      set later
      if rest.isEmpty then throw "incomplete command"
  | _ => pure ()
  let read ← text fuel []
  return String.ofList (read ++ ['\n'])

/-- The name of a label. -/
def labelName : Reading String := do
  blanks
  let name ← takeWhile fun c => c ≠ '\n' && c ≠ ';' && c ≠ ' ' && c ≠ '\t'
  return String.ofList name

/-- The path that ends a line. -/
def path : Reading String := do
  blanks
  let name ← takeWhile (· ≠ '\n')
  if name.isEmpty then throw "missing filename in r/R/w/W commands"
  else return String.ofList name

/-- See that an instruction ends here. -/
def done (words : String := "extra characters after command") : Reading Unit := do
  blanks
  match ← get with
  | [] => return
  | c :: rest =>
    if c = ';' || c = '\n' then set rest
    else if c = '\x7d' || c = '#' then return
    else throw words

/-- What one instruction that has no others in it does. -/
def deed (extended : Bool) (letter : Char) : Reading Deed := do
  match letter with
  | 's' =>
    let d ← substitution extended
    done "unknown option to `s'"
    return d
  | 'y' =>
    let d ← exchange
    done
    return d
  | 'a' => return .append (← given)
  | 'i' => return .insert (← given)
  | 'c' => return .replace (← given)
  | ':' =>
    let name ← labelName
    if name.isEmpty then throw "\":\" lacks a label" else return .label name
  | 'b' => return .branch none (← labelName)
  | 't' => return .branch (some true) (← labelName)
  | 'T' => return .branch (some false) (← labelName)
  | 'r' => return .readFile (← path)
  | 'w' => return .writeFile (← path) false
  | 'W' => return .writeFile (← path) true
  | 'q' | 'Q' =>
    blanks
    let status ← number
    done
    return .quit (letter = 'q') status
  | _ =>
    if "=dDgGhHlnNpPxzF".toList.contains letter then
      if letter = 'l' then
        blanks
        let _ ← number
      done
      return .simple letter
    else throw ("unknown command: `" ++ String.singleton letter ++ "'")

/-- Instructions up to the end of a block, or of the script. -/
def instructions (extended : Bool) : Nat → Nat → Reading (List Instruction)
  | 0, _ => return []
  | fuel + 1, depth => do
    let _ ← takeWhile fun c => c = ';' || c.isWhitespace
    match ← get with
    | [] => if 0 < depth then throw "unmatched `\x7b'" else return []
    | '#' :: _ =>
      let _ ← takeWhile (· ≠ '\n')
      instructions extended fuel depth
    | _ =>
      let scope ← scope extended
      match ← next? with
      | none => throw "missing command"
      | some '\x7b' =>
        let body ← instructions extended fuel (depth + 1)
        let rest ← instructions extended fuel depth
        return ⟨scope, .block body.length⟩ :: body ++ rest
      | some '\x7d' =>
        if scope.first.isSome then throw "\x7d doesn't want any addresses"
        else if depth = 0 then throw "unexpected `\x7d'"
        else
          done
          return []
      | some letter =>
        let deed ← deed extended letter
        if let .label _ := deed then
          if scope.first.isSome then throw ": doesn't want any addresses"
        return ⟨scope, deed⟩ :: (← instructions extended fuel depth)

end Reading

/-! ## Following a script -/

/-- Whether a range of lines is being passed through, and what ends it. -/
inductive Passage where
  | outside
  | untilLine (n : Nat)
  | untilMatch

/-- What is put out at the end of a cycle. -/
inductive Later where
  | text (s : String)
  | file (path : String)

/-- What is known while a script is followed. -/
structure Editor where
  source : Source
  /-- The line behind the current one, once it was looked at. -/
  ahead : Option (Option Source.Line) := none
  pattern : List Char := []
  ended : Bool := true
  hold : List Char := []
  number : Nat := 0
  later : List Later := []
  substituted : Bool := false
  passages : List (Nat × Passage) := []
  remembered : Option Regular := none
  status : Nat := 0
  /-- Whether the last line that was put out was not ended. -/
  unended : Bool := false
  /-- The files that are written to. -/
  files : List (String × Nat) := []
  /-- What is put out, if it goes to a file in the end. -/
  collected : Option (List String) := none

/-- What a script is followed with. -/
structure Plan where
  instructions : Array Instruction
  quiet : Bool

/-- Work on the lines of a stream. -/
abbrev Work := StateT Editor Tool

/-- Work of a utility, while lines are edited. -/
def lifted (t : Tool α) : Work α := liftM (m := Tool) t

/-- Tell that a file can not be read. -/
def unreadable (path : String) (fault : SystemError) : Tool Unit :=
  match fault with
  | .isDirectory => do
    interject ("read error on " ++ path ++ ": " ++ fault.words)
    quit 4
  | _ => interject ("can't read " ++ path ++ ": " ++ fault.words)

/-- The next line, if there is one. It stays the next one. -/
def peek : Work (Option Source.Line) := do
  let e ← get
  match e.ahead with
  | some line => return line
  | none =>
    let failed (path : String) (fault : SystemError) : Tool Unit := do
      unreadable path fault
      mark 2
    let (line, source) ← lifted (e.source.next? failed (e.source.waiting.length + 2))
    set { e with ahead := some line, source := source }
    return line

/-- Take the next line. -/
def takeLine : Work (Option Source.Line) := do
  let line ← peek
  modify fun e => { e with ahead := none, number := e.number + if line.isSome then 1 else 0 }
  return line

/-- Put text out as it is. -/
def putText (s : String) : Work Unit := do
  match (← get).collected with
  | none => lifted (emit s)
  | some parts => modify fun e => { e with collected := some (s :: parts) }

/-- Put a text out, with an end if it is to have one. -/
def put (s : String) (ended : Bool) : Work Unit := do
  if (← get).unended then putText "\n"
  putText (if ended then s ++ "\n" else s)
  modify fun e => { e with unended := !ended }

/-- Put a text out that has an end of its own. -/
def putWhole (s : String) : Work Unit := do
  if (← get).unended then putText "\n"
  putText s
  modify fun e => { e with unended := false }

/-- Put the pattern space out. -/
def putPattern : Work Unit := do
  let e ← get
  put (String.ofList e.pattern) e.ended

/-- Write to one of the files that a script names. -/
def writeTo (path : String) (line : List Char) (ended : Bool) : Work Unit := do
  if path = "/dev/stdout" then put (String.ofList line) ended
  else
    match (← get).files.lookup path with
    | some fd =>
      let octets := Text.octetsOf (String.ofList (line ++ if ended then ['\n'] else []))
      let _ ← lifted (request (Program.write fd octets))
    | none => return

/-- Put out what was kept for the end of a cycle. -/
def putLater : Work Unit := do
  let later := (← get).later
  modify fun e => { e with later := [] }
  for item in later do
    match item with
    | .text s => putWhole s
    | .file path =>
      match ← lifted (readOperand (if path = "/dev/stdin" then "-" else path)) with
      | .ok octets => if !octets.isEmpty then putWhole (Text.narrowOf octets)
      | .error _ => pure ()

/-- How the pattern space is matched by an expression, which is then the last one. -/
def matchedBy (w : Wanted) : Work (Regular.Matching × Regular) := do
  let e ← get
  let m : Regular.Matching :=
    { text := e.pattern.toArray, ignoreCase := w.ignoreCase, manyLines := w.manyLines }
  match w.expression.or e.remembered with
  | none => lifted (refuse "no previous regular expression")
  | some expression =>
    set { e with remembered := some expression }
    return (m, expression)

/-- Whether an address selects the current line. -/
def selects (a : Address) : Work Bool := do
  let n := (← get).number
  match a with
  | .line k => return n = k
  | .last => return (← peek).isNone
  | .every first step =>
    return if step = 0 then n = first else first ≤ n && (n - first) % step = 0
  | .matching w =>
    let (m, e) ← matchedBy w
    return (e.find? m).isSome

/-- Whether an instruction is for the current line. -/
def isFor (index : Nat) (s : Scope) : Work Bool := do
  let goOn (p : Passage) : Work Unit :=
    modify fun e => { e with passages := (index, p) :: e.passages.filter (·.1 ≠ index) }
  let n := (← get).number
  let selected ←
    match s.first, s.last with
    | none, _ => pure true
    | some a, none => selects a
    | some a, some ending => do
      let start := match a with
        | .line 0 => Passage.untilMatch
        | _ => .outside
      match ((← get).passages.lookup index).getD start with
      | .outside =>
        if !(← selects a) then pure false
        else
          let lastLine : Option Nat :=
            match ending with
            | .address (.line k) => some k
            | .address _ => none
            | .more count => some (n + count)
            | .multiple step => some (if step = 0 then n else (n / step + 1) * step)
          match lastLine with
          | some k => if n < k then goOn (.untilLine k)
          | none => goOn .untilMatch
          pure true
      | .untilLine k =>
        if k ≤ n then goOn .outside
        if n ≤ k then pure true else selects a
      | .untilMatch =>
        match ending with
        | .address b =>
          if ← selects b then goOn .outside
          pure true
        | _ => pure true
  return selected != s.complement

/-- Whether a range of lines ends with the current one, for an instruction that was for it. -/
def endsRange (index : Nat) (s : Scope) : Work Bool := do
  if s.last.isNone || s.complement then return true
  else
    match (← get).passages.lookup index with
    | some .outside | none => return true
    | some _ => return false

/-- How letters are changed: all of them, and the next one. -/
structure Lettering where
  all : Option Char := none
  one : Option Char := none

/-- A text with its letters changed. -/
def Lettering.apply (l : Lettering) (cs : List Char) : List Char × Lettering :=
  let changed (how : Option Char) (c : Char) : Char :=
    match how with
    | some 'U' | some 'u' => c.toUpper
    | some 'L' | some 'l' => c.toLower
    | _ => c
  match cs with
  | [] => ([], l)
  | c :: rest => (changed (l.one.or l.all) c :: rest.map (changed l.all), { l with one := none })

/-- What is put in the place of a match. -/
def replacement (m : Regular.Matching) (found : Regular.Found) (parts : List Part) : List Char :=
  let step (made : List Char × Lettering) (part : Part) : List Char × Lettering :=
    let (text, l) := made
    match part with
    | .letters 'E' => (text, {})
    | .letters how =>
      (text, if how.isUpper then { all := some how, one := none } else { l with one := some how })
    | .char c =>
      let (cs, l) := l.apply [c]
      (text ++ cs, l)
    | .group n =>
      let (cs, l) := l.apply (found.group m n)
      (text ++ cs, l)
  (parts.foldl step ([], {})).1

/-- A text in which matches are replaced from a place on: what it becomes, and whether any was.
`count` is the number of the next match. -/
def substituted (m : Regular.Matching) (e : Regular) (parts : List Part) (manner : Manner) :
    Nat → Nat → Nat → Option Nat → List Char × Bool
  | 0, place, _, _ => ((m.text.extract place m.text.size).toList, false)
  | fuel + 1, place, count, lastEnd =>
    let rest := (m.text.extract place m.text.size).toList
    match e.find? m place with
    | none => (rest, false)
    | some found =>
      let before := (m.text.extract place found.first).toList
      if found.first = found.last && lastEnd = some found.first then
        match m.text[found.first]? with
        | none => (rest, false)
        | some c =>
          let (after, any) := substituted m e parts manner fuel (found.first + 1) count none
          (before ++ c :: after, any)
      else
        let replaced := manner.number ≤ count
        let here := if replaced then replacement m found parts else found.group m 0
        if replaced && !manner.all then
          (before ++ here ++ (m.text.extract found.last m.text.size).toList, true)
        else
          let (after, any) :=
            substituted m e parts manner fuel found.last (count + 1) (some found.last)
          (before ++ here ++ after, any || replaced)

/-- What happens behind an instruction. -/
inductive Turn where
  | goOn (index : Nat)
  /-- The cycle ends. The mark tells whether the pattern space is put out as usual. -/
  | cycle (printing : Bool)
  | again
  | quit (printing : Bool) (status : Nat)

/-- Characters as a listing shows them. -/
def listed (c : Char) : List Char :=
  match c with
  | '\\' => ['\\', '\\']
  | '\x07' => ['\\', 'a']
  | '\x08' => ['\\', 'b']
  | '\x0c' => ['\\', 'f']
  | '\n' => ['\\', 'n']
  | '\r' => ['\\', 'r']
  | '\t' => ['\\', 't']
  | '\x0b' => ['\\', 'v']
  | _ =>
    if 32 ≤ c.toNat && c.toNat < 127 then [c]
    else
      let digit (n : Nat) : Char := Char.ofNat (48 + n % 8)
      ['\\', digit (c.toNat / 64), digit (c.toNat / 8), digit c.toNat]

/-- Lines of a listing, which are not wider than 69 characters. -/
def wrapped : Nat → List Char → List (List Char) → List Char
  | _, line, [] => line.reverse ++ ['$']
  | width, line, piece :: rest =>
    if 69 < width + piece.length then
      line.reverse ++ ['\\', '\n'] ++ wrapped piece.length piece.reverse rest
    else wrapped (width + piece.length) (piece.reverse ++ line) rest

/-- Follow an instruction that has a letter only. -/
def followSimple (quiet : Bool) (next : Nat) (letter : Char) : Work Turn := do
  let e ← get
  match letter with
  | '=' =>
    put (toString e.number) true
    return .goOn next
  | 'd' => return .cycle false
  | 'D' =>
    if e.pattern.contains '\n' then
      set { e with pattern := (e.pattern.dropWhile (· ≠ '\n')).drop 1 }
      return .again
    else return .cycle false
  | 'g' => set { e with pattern := e.hold }
  | 'G' => set { e with pattern := e.pattern ++ '\n' :: e.hold }
  | 'h' => set { e with hold := e.pattern }
  | 'H' => set { e with hold := e.hold ++ '\n' :: e.pattern }
  | 'x' => set { e with pattern := e.hold, hold := e.pattern }
  | 'z' => set { e with pattern := [] }
  | 'p' => putPattern
  | 'P' => put (String.ofList (e.pattern.takeWhile (· ≠ '\n'))) true
  | 'l' => put (String.ofList (wrapped 0 [] (e.pattern.map listed))) true
  | 'F' => put ((e.source.current.map Prod.fst).getD "-") true
  | 'n' =>
    match ← peek with
    | none => return .quit true 0
    | some _ =>
      if !quiet then putPattern
      putLater
      let line ← takeLine
      modify fun e =>
        { e with pattern := (line.map (·.text)).getD [], ended := line.all (·.ended) }
  | 'N' =>
    match ← peek with
    | none => return .quit true 0
    | some _ =>
      putLater
      let line ← takeLine
      modify fun e =>
        { e with
          pattern := e.pattern ++ '\n' :: (line.map (·.text)).getD []
          ended := line.all (·.ended) }
  | _ => pure ()
  return .goOn next

/-- Follow an instruction. -/
def follow (plan : Plan) (index : Nat) (i : Instruction) : Work Turn := do
  let next := index + 1
  let isOn ← isFor index i.scope
  let jump (name : String) : Work Turn := do
    if name.isEmpty then return .cycle true
    else
      match plan.instructions.findIdx? fun other =>
        match other.deed with
        | .label other => other = name
        | _ => false with
      | some target => return .goOn target
      | none => return .cycle true
  match i.deed with
  | .block size => return .goOn (if isOn then next else next + size)
  | deed =>
    if !isOn then return .goOn next
    else
      match deed with
      | .block _ | .label _ => return .goOn next
      | .branch none name => jump name
      | .branch (some wanted) name =>
        let substituted := (← get).substituted
        modify fun e => { e with substituted := false }
        if substituted = wanted then jump name else return .goOn next
      | .substitute w parts manner =>
        let (m, e) ← matchedBy w
        let (text, any) := substituted m e parts manner (2 * m.text.size + 3) 0 1 none
        if any then
          modify fun e => { e with pattern := text, substituted := true }
          if manner.printed then putPattern
          if let some path := manner.file then writeTo path text true
        return .goOn next
      | .exchange pairs =>
        modify fun e => { e with pattern := e.pattern.map fun c => (pairs.lookup c).getD c }
        return .goOn next
      | .append text =>
        modify fun e => { e with later := e.later ++ [.text text] }
        return .goOn next
      | .insert text =>
        putWhole text
        return .goOn next
      | .replace text =>
        if ← endsRange index i.scope then putWhole text
        return .cycle false
      | .readFile path =>
        modify fun e => { e with later := e.later ++ [.file path] }
        return .goOn next
      | .writeFile path firstLine =>
        let e ← get
        if firstLine then writeTo path (e.pattern.takeWhile (· ≠ '\n')) true
        else writeTo path e.pattern e.ended
        return .goOn next
      | .quit printing status => return .quit printing status
      | .simple letter => followSimple plan.quiet next letter

/-- Follow instructions up to the end of a cycle. -/
def followFrom (plan : Plan) : Nat → Nat → Work Turn
  | 0, _ => return .cycle true
  | fuel + 1, index => do
    match plan.instructions[index]? with
    | none => return .cycle true
    | some i =>
      match ← follow plan index i with
      | .goOn next => followFrom plan fuel next
      | turn => return turn

/-- Go through all lines. The mark tells that the pattern space is used as it is. What comes
back is the status, if the script says that all is over. -/
def cycles (plan : Plan) : Nat → Bool → Work (Option Nat)
  | 0, _ => return none
  | fuel + 1, kept => do
    let line ← if kept then pure none else takeLine
    if !kept && line.isNone then return none
    else
      if let some line := line then
        modify fun e => { e with pattern := line.text, ended := line.ended }
      modify fun e => { e with substituted := if kept then e.substituted else false }
      match ← followFrom plan Program.repetitions 0 with
      | .goOn _ => return none
      | .cycle printing =>
        if printing && !plan.quiet then putPattern
        putLater
        cycles plan fuel false
      | .again =>
        putLater
        cycles plan fuel true
      | .quit printing status =>
        if printing && !plan.quiet then putPattern
        putLater
        return some status

/-- The paths that a script writes to. -/
def targets (instructions : List Instruction) : List String :=
  (instructions.filterMap fun i =>
    match i.deed with
    | .writeFile path _ => some path
    | .substitute _ _ manner => manner.file
    | _ => none).eraseDups.filter (· ≠ "/dev/stdout")

end Editing

open Editing in
/-- Edit a file in its place, and keep it under another name if there is a suffix for that. -/
def editInPlace (plan : Plan) (suffix path : String) (e : Editor) : Tool (Option Nat × Editor) := do
  match (← files).stat true (pathOf path) with
  | .error fault =>
    interject ("can't read " ++ path ++ ": " ++ fault.cause.words)
    mark 2
    return (none, e)
  | .ok (_, node) =>
    if !node.isFile then
      interject ("couldn't edit " ++ path ++ ": not a regular file")
      mark 4
      return (none, e)
    else
      let start : Editor :=
        { e with
          source := { waiting := [path] }, ahead := none, number := 0, passages := []
          collected := some [], unended := false }
      let (result, after) ← (cycles plan Program.repetitions false).run start
      let text := String.join ((after.collected.getD []).reverse)
      if suffix.isEmpty then
        let _ ← change (·.remove (pathOf path))
      else
        let _ ← request (Program.ask (·.rename path (path ++ suffix)))
      let opening : Opening :=
        { writable := true, create := true, truncate := true, mode := 0o600 }
      match ← openPath opening path with
      | .error fault => refuse ("couldn't open file " ++ path ++ ": " ++ fault.words) 4
      | .ok fd =>
        let _ ← request (Program.write fd (Text.octetsOf text))
        closeOperand fd
        let _ ← change (·.setMode (pathOf path) node.access.mode)
        return (result, { after with collected := none })

open Editing in
/-- Edit each file for itself. -/
def editEach (plan : Plan) (suffix : Option String) : List String → Editor → Tool (Option Nat)
  | [], _ => return none
  | path :: rest, e => do
    let (result, after) ←
      match suffix with
      | some suffix => editInPlace plan suffix path e
      | none =>
        let start : Editor :=
          { e with source := { waiting := [path] }, ahead := none, number := 0, passages := [] }
        (cycles plan Program.repetitions false).run start
    match result with
    | some status => return some status
    | none => editEach plan suffix rest after

open Editing in
/-- Edit lines. -/
def sed : Tool Unit := do
  let a ← arguments
    [⟨"n", "quiet", .never⟩, ⟨"n", "silent", .never⟩, ⟨"e", "expression", .always⟩,
      ⟨"f", "file", .always⟩, ⟨"E", "regexp-extended", .never⟩, ⟨"r", "", .never⟩,
      ⟨"i", "in-place", .maybe⟩, ⟨"s", "separate", .never⟩, ⟨"u", "unbuffered", .never⟩,
      ⟨"l", "line-length", .always⟩, ⟨"z", "null-data", .never⟩, ⟨"", "posix", .never⟩,
      ⟨"", "debug", .never⟩, ⟨"", "follow-symlinks", .never⟩]
  let mut scripts : List String := []
  for g in a.given do
    if g.key = "e" then scripts := scripts ++ [g.value.getD ""]
    else if g.key = "f" then
      let path := g.value.getD ""
      match ← readOperand path with
      | .error fault => refuse ("couldn't open file " ++ path ++ ": " ++ fault.words)
      | .ok octets =>
        let text := (Text.narrowOf octets).toList
        scripts := scripts ++
          [String.ofList (if text.getLast? = some '\n' then text.dropLast else text)]
  let mut operands := a.operands
  if scripts.isEmpty then
    match operands with
    | [] =>
      mutter "Usage: sed [OPTION]... \x7bscript-only-if-no-other-script\x7d [input-file]...\n"
      quit 1
    | script :: rest =>
      scripts := [script]
      operands := rest
  let script := ("\n".intercalate scripts).toList
  let quiet := a.has "n" || script.take 2 = ['#', 'n'] && (script.drop 2).head?.all (· = '\n')
  match (Reading.instructions (a.has "E" || a.has "r") (script.length + 1) 0).run script with
  | .error words =>
    refuse ("-e expression #1, char " ++ toString script.length ++ ": " ++ words)
  | .ok (instructions, _) =>
    let labels := instructions.filterMap fun i =>
      match i.deed with
      | .label name => some name
      | _ => none
    for i in instructions do
      if let .branch _ name := i.deed then
        if !name.isEmpty && !labels.contains name then
          refuse ("can't find label for jump to `" ++ name ++ "'") 4
    let mut opened : List (String × Nat) := []
    for path in targets instructions do
      if path = "/dev/stderr" then opened := opened ++ [(path, 2)]
      else
        match ← openPath .writing path with
        | .error fault => refuse ("couldn't open file " ++ path ++ ": " ++ fault.words) 4
        | .ok fd => opened := opened ++ [(path, fd)]
    let plan : Plan := { instructions := instructions.toArray, quiet := quiet }
    let paths := operandsOr operands
    let start : Editor := { source := { waiting := paths }, files := opened }
    let result ←
      if a.has "i" then editEach plan (some ((a.value? "i").getD "")) paths start
      else if a.has "s" then editEach plan none paths start
      else Prod.fst <$> (cycles plan Program.repetitions false).run start
    if let some status := result then quit (max status (← get).status)

end ReleaseBuilder.Machine.Utility
