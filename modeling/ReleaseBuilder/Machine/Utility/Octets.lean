/-
# Utilities for octets

The programs that read their operands, or their input if there is none, and write what
they make of it: all of it, its beginning or end, its size, or where it differs from
something else.
-/

import ReleaseBuilder.Machine.Utility.Tool

namespace ReleaseBuilder.Machine.Utility

/-- Tell that reading was refused. -/
def tellReading (path : String) : Except SystemError Unit → Tool Unit
  | .ok () => return
  | .error fault => do
    tellFault path fault
    mark

/-- Whether what is read from a descriptor is a file that the output goes to, of which something
is left to read. -/
def isOwnOutput (fd : Nat) : Tool Bool :=
  request (Program.look fun s =>
    match s.descriptor? fd, s.descriptor? 1 with
    | some (_, source), some (_, sink) =>
      match source.target, sink.target with
      | .file n, .file m =>
        n = m && decide (source.offset < (s.octetsOf m).size)
      | _, _ => false
    | _, _ => false)

/-- Copy a descriptor to the output. -/
def copyOut (path : String) (fd : Nat) : Tool Unit := do
  let (_, result) ← eachBlock fd (fun () data => do emitOctets data; return ((), true))
    Program.repetitions ()
  tellReading path result

/-- How lines are shown. -/
structure Decoration where
  numbers : Bool
  onlyFilled : Bool
  squeezed : Bool
  ends : Bool
  tabs : Bool
  controls : Bool

/-- A character by printable ones. -/
def visible (d : Decoration) (c : Char) : List Char :=
  let low (n : Nat) : List Char :=
    if n < 32 then ['^', Char.ofNat (n + 64)] else if n = 127 then ['^', '?'] else [Char.ofNat n]
  if c = '\t' then if d.tabs then ['^', 'I'] else [c]
  else if !d.controls then [c]
  else if c.toNat < 128 then low c.toNat
  else ['M', '-'] ++ low (c.toNat - 128)

/-- A number in a column, with blanks before it. -/
def column (width n : Nat) : String :=
  let digits := toString n
  String.ofList (List.replicate (width - digits.length) ' ') ++ digits

/-- Show lines with decorations. The state is the number of the last line, and how many empty
lines there were just before. -/
def showLine (d : Decoration) (state : Nat × Nat) (line : List Char) (ended : Bool) :
    Tool ((Nat × Nat) × Bool) := do
  let (number, empty) := state
  let isEmpty := line.isEmpty && ended
  if d.squeezed && isEmpty && 0 < empty then return (state, true)
  else
    let counted := d.numbers && !(d.onlyFilled && line.isEmpty)
    let number := if counted then number + 1 else number
    let front := if counted then column 6 number ++ "\t" else ""
    emit (front ++ String.ofList (line.flatMap (visible d)) ++
      (if ended then (if d.ends then "$\n" else "\n") else ""))
    return ((number, if isEmpty then empty + 1 else 0), true)

/-- The operands one after the other. -/
def cat : Tool Unit := do
  let switches : List Switch :=
    [⟨"A", "show-all", .never⟩, ⟨"b", "number-nonblank", .never⟩, ⟨"e", "", .never⟩,
      ⟨"E", "show-ends", .never⟩, ⟨"n", "number", .never⟩, ⟨"s", "squeeze-blank", .never⟩,
      ⟨"t", "", .never⟩, ⟨"T", "show-tabs", .never⟩, ⟨"u", "", .never⟩,
      ⟨"v", "show-nonprinting", .never⟩]
  let a ← arguments switches
  let d : Decoration :=
    { numbers := a.has "n" || a.has "b"
      onlyFilled := a.has "b"
      squeezed := a.has "s"
      ends := a.has "E" || a.has "e" || a.has "A"
      tabs := a.has "T" || a.has "t" || a.has "A"
      controls := a.has "v" || a.has "e" || a.has "t" || a.has "A" }
  if d.numbers || d.squeezed || d.ends || d.tabs || d.controls then
    let mut state := (0, 0)
    for path in operandsOr a.operands do
      match ← openOperand path with
      | .error fault =>
        tellFault path fault
        mark
      | .ok fd =>
        if ← isOwnOutput fd then
          tell (quotedName path ++ ": input file is output file")
          mark
        else
          let (after, result) ← eachLine fd (showLine d) state
          state := after
          tellReading path result
        closeOperand fd
  else
    eachOperand a.operands fun path fd => do
      if ← isOwnOutput fd then
        tell (quotedName path ++ ": input file is output file")
        mark
      else
        copyOut path fd
        flush

/-- How many octets the letter behind a number stands for. -/
def unit? (s : String) : Option Nat :=
  match s with
  | "" => some 1
  | "b" => some 512
  | "kB" => some 1000
  | "k" | "K" | "KiB" => some 1024
  | "MB" => some 1000000
  | "m" | "M" | "MiB" => some (1024 * 1024)
  | "GB" => some 1000000000
  | "G" | "GiB" => some (1024 * 1024 * 1024)
  | _ => none

/-- A number with a unit behind it. -/
def amount? (s : String) : Option Nat :=
  let digits := s.toList.takeWhile Char.isDigit
  if digits.isEmpty then none
  else (unit? (String.ofList (s.toList.drop digits.length))).map (Shell.numberOf 10 digits * ·)

/-- How much of something is meant. -/
inductive Measure where
  | octets (count : Nat)
  | lines (count : Nat)
  deriving DecidableEq

/-- Arguments that tell a number of lines behind a hyphen, in the way that is written now. -/
def modernized (args : List String) : List String :=
  match args with
  | first :: rest =>
    match first.toList with
    | '-' :: c :: cs =>
      if !c.isDigit then args
      else
        let digits := (c :: cs).takeWhile Char.isDigit
        let letters := (c :: cs).drop digits.length
        if letters.contains 'c' then "-c" :: String.ofList digits :: rest
        else if letters.isEmpty then "-n" :: String.ofList digits :: rest
        else if letters = ['f'] then "-f" :: "-n" :: String.ofList digits :: rest
        else args
    | _ => args
  | [] => args

/-- The options and operands of a program that takes a part. -/
def partArguments (more : List Switch) : Tool Arguments := do
  let switches : List Switch :=
    [⟨"c", "bytes", .always⟩, ⟨"n", "lines", .always⟩, ⟨"q", "quiet", .never⟩,
      ⟨"q", "silent", .never⟩, ⟨"v", "verbose", .never⟩, ⟨"z", "zero-terminated", .never⟩] ++ more
  withReader (fun call => { call with args := modernized call.args }) (arguments switches)

/-- What a measure says: its sign, and how much. -/
def measureOf (a : Arguments) : Tool (Char × Measure) := do
  let key := (a.last? ["c", "n"]).getD "n"
  let text := (a.value? key).getD "10"
  let (sign, digits) :=
    match text.toList with
    | '-' :: rest => ('-', String.ofList rest)
    | '+' :: rest => ('+', String.ofList rest)
    | _ => (' ', text)
  match amount? digits with
  | some n => return (sign, if key = "c" then .octets n else .lines n)
  | none =>
    let unit := if key = "c" then "bytes" else "lines"
    refuse ("invalid number of " ++ unit ++ ": " ++ inQuotes text)

/-- The octets up to the end of so many lines, and how many lines are still missing. -/
def frontLines : Nat → List UInt8 → Nat → Nat × Nat
  | 0, _, taken => (taken, 0)
  | n, [], taken => (taken, n)
  | n + 1, b :: rest, taken => frontLines (if b = 10 then n else n + 1) rest (taken + 1)

/-- The beginning of a descriptor. What was read too much is given back, where that can be. -/
def head (m : Measure) (path : String) (fd : Nat) : Tool Unit := do
  match m with
  | .octets 0 | .lines 0 => return
  | .octets count =>
    let (_, result) ← eachBlock fd
      (fun left data => do
        let taken := data.extract 0 left
        emitOctets taken
        request (Program.change (·.seek fd fun _ at' => at' - (data.size - taken.size)))
        return (left - taken.size, taken.size < left))
      Program.repetitions count
    tellReading path result
  | .lines count =>
    let (_, result) ← eachBlock fd
      (fun left data => do
        let (taken, left) := frontLines left data.toList 0
        emitOctets (data.extract 0 taken)
        request (Program.change (·.seek fd fun _ at' => at' - (data.size - taken)))
        return (left, 0 < left))
      Program.repetitions count
    tellReading path result

/-- How many octets at the end of some make so many lines. -/
def backLines (count : Nat) (octets : List UInt8) : Nat :=
  match octets.reverse with
  | [] => 0
  | _ :: rest =>
    if count = 0 then 0
    else
      let (taken, missing) := frontLines count rest 0
      if missing = 0 then taken else octets.length

/-- All but the end, or only the end, of a descriptor. -/
def partOf (isHead : Bool) (sign : Char) (m : Measure) (path : String) (fd : Nat) : Tool Unit := do
  match ← request (Program.readAll fd) with
  | .error fault => tellReading path (.error fault)
  | .ok data =>
    let size := data.size
    let lastPart (m : Measure) : Nat :=
      match m with
      | .octets n => min n size
      | .lines n => backLines n data.toList
    let firstPart (m : Measure) : Nat :=
      match m with
      | .octets n => min n size
      | .lines n => (frontLines n data.toList 0).1
    let less : Measure :=
      match m with
      | .octets n => .octets (n - 1)
      | .lines n => .lines (n - 1)
    if isHead then emitOctets (data.extract 0 (size - lastPart m))
    else if sign = '+' then emitOctets (data.extract (firstPart less) size)
    else emitOctets (data.extract (size - lastPart m) size)

/-- Take a part of each operand, under its title if there are several. -/
def eachPart (a : Arguments) (work : String → Nat → Tool Unit) : Tool Unit := do
  let several := 1 < a.operands.length
  let titled := a.last? ["q", "v"] = some "v" || (several && a.last? ["q", "v"] ≠ some "q")
  let mut first := true
  for path in operandsOr a.operands do
    match ← openOperand path with
    | .error fault =>
      tell ("cannot open " ++ inQuotes path ++ " for reading: " ++ fault.words)
      mark
    | .ok fd =>
      if titled then
        emit ((if first then "" else "\n") ++ "==> " ++
          (if path = "-" then "standard input" else path) ++ " <==\n")
      first := false
      work path fd
      closeOperand fd

/-- The beginning of each operand. -/
def headProgram : Tool Unit := do
  let a ← partArguments []
  let (sign, m) ← measureOf a
  eachPart a (if sign = '-' then partOf true '-' m else head m)

/-- The end of each operand. -/
def tailProgram : Tool Unit := do
  let switches : List Switch :=
    [⟨"f", "follow", .maybe⟩, ⟨"F", "", .never⟩, ⟨"s", "sleep-interval", .always⟩]
  let a ← partArguments switches
  let (sign, m) ← measureOf a
  eachPart a (partOf false sign m)

/-- What the size of a text is counted in. -/
structure Sizes where
  lines : Nat := 0
  words : Nat := 0
  characters : Nat := 0
  octets : Nat := 0
  longest : Nat := 0

/-- Whether an octet parts words. -/
def partsWords (c : Char) : Bool := c = ' ' || (9 ≤ c.toNat && c.toNat ≤ 13)

/-- The counting of a text: the sizes so far, whether a word goes on, and the length of the
line. -/
structure Counting where
  sizes : Sizes := {}
  inWord : Bool := false
  width : Nat := 0

/-- Count an octet. -/
def Counting.add (k : Counting) (b : UInt8) : Counting :=
  let c := Char.ofNat b.toNat
  let s := k.sizes
  let parts := partsWords c
  let prints := 33 ≤ c.toNat && c.toNat ≤ 126
  let starts := !parts && !k.inWord && prints
  let width :=
    if c = '\n' || c = '\r' || c.toNat = 12 then 0
    else if c = '\t' then k.width + 8 - k.width % 8
    else if prints || c = ' ' then k.width + 1 else k.width
  { sizes :=
      { lines := if c = '\n' then s.lines + 1 else s.lines
        words := if starts then s.words + 1 else s.words
        characters := s.characters + 1
        octets := s.octets + 1
        longest := max s.longest width }
    inWord := if parts then false else k.inWord || prints
    width }

/-- Sizes added up. -/
def Sizes.plus (a b : Sizes) : Sizes :=
  { lines := a.lines + b.lines, words := a.words + b.words
    characters := a.characters + b.characters, octets := a.octets + b.octets
    longest := max a.longest b.longest }

/-- How wide the columns of sizes are: a single number stands alone, several are as wide as the
size of all files together, and what is no file gets seven places. -/
def sizeWidth (state : State) (units : Nat) (paths : List String) : Nat :=
  let sizeAt (path : String) : Option (Option Nat) :=
    let node :=
      if path = "-" then
        match state.descriptor? 0 with
        | some (_, { target := .file n, .. }) =>
          (state.files.file? n).map fun f => some (sizeOf f.content)
        | some _ => some none
        | none => none
      else
        match state.view.find? (pathOf path) with
        | some (_, .file f) => some (some (sizeOf f.content))
        | some _ => some none
        | none => none
    node
  if units = 1 && paths.length = 1 then 1
  else
    let found := paths.filterMap sizeAt
    let digits := (toString (total (found.map fun n => n.getD 0))).length
    if found.any Option.isNone then max 7 digits else digits

/-- The sizes of the operands, and their sums if there are several. -/
def wc : Tool Unit := do
  let switches : List Switch :=
    [⟨"l", "lines", .never⟩, ⟨"w", "words", .never⟩, ⟨"c", "bytes", .never⟩,
      ⟨"m", "chars", .never⟩, ⟨"L", "max-line-length", .never⟩]
  let a ← arguments switches
  let keys := if a.given.isEmpty then ["l", "w", "c"] else a.given.map Given.key
  let chosen (s : Sizes) : List Nat :=
    let all :=
      [("l", s.lines), ("w", s.words), ("m", s.characters), ("c", s.octets), ("L", s.longest)]
    all.filterMap fun (key, n) => if keys.contains key then some n else none
  let paths := operandsOr a.operands
  let width ← request (Program.look fun s => sizeWidth s (chosen {}).length paths)
  let row (s : Sizes) (name : String) : Tool Unit :=
    emit (" ".intercalate ((chosen s).map (column width)) ++
      (if name.isEmpty then "" else " " ++ name) ++ "\n")
  let mut total : Sizes := {}
  for path in paths do
    match ← openOperand path with
    | .error fault =>
      tellFault path fault
      mark
    | .ok fd =>
      let (k, result) ← eachBlock fd
        (fun (k : Counting) data => return (data.foldl Counting.add k, true)) Program.repetitions {}
      tellReading path result
      row k.sizes (if a.operands.isEmpty then "" else path)
      total := total.plus k.sizes
      closeOperand fd
  if 1 < paths.length then row total "total"

/-- Copy the input to the output and to files. -/
def tee : Tool Unit := do
  let switches : List Switch :=
    [⟨"a", "append", .never⟩, ⟨"i", "ignore-interrupts", .never⟩, ⟨"p", "", .never⟩]
  let a ← arguments switches
  let mut outputs : List (String × Nat) := []
  for path in a.operands do
    match ← openPath (if a.has "a" then .appending else .writing) path with
    | .ok fd => outputs := outputs ++ [(path, fd)]
    | .error fault =>
      tellFault path fault
      mark
  let opened := outputs
  let (_, result) ← eachBlock 0
    (fun () data => do
      emitOctets data
      flush
      for (path, fd) in opened do
        match ← request (Program.write fd data) with
        | .ok () => pure ()
        | .error fault =>
          tellFault path fault
          mark
      return ((), true))
    Program.repetitions ()
  tellReading "-" result

/-- Tell where two operands differ first. -/
def cmp : Tool Unit := do
  let switches : List Switch :=
    [⟨"s", "quiet", .never⟩, ⟨"s", "silent", .never⟩, ⟨"l", "verbose", .never⟩,
      ⟨"b", "print-bytes", .never⟩, ⟨"n", "bytes", .always⟩]
  let a ← arguments switches true 2
  match a.operands with
  | [] => misuse ("missing operand after '" ++ (← read).name ++ "'") 2
  | first :: rest =>
    let second := rest.headD "-"
    if let extra :: _ := rest.drop 1 then extraOperand extra 2
    let whole (path : String) : Tool ByteArray := do
      match ← readOperand path with
      | .ok data => return data.extract 0 (((a.value? "n").bind amount?).getD data.size)
      | .error fault =>
        if !a.has "s" then tellFault path fault
        quit 2
    let x ← whole first
    let y ← whole second
    let differing := (List.range (min x.size y.size)).filter fun i => x.get! i ≠ y.get! i
    let line (i : Nat) : Nat := (x.extract 0 i).toList.count 10 + 1
    if a.has "l" && !a.has "s" then
      let octal (b : UInt8) : String :=
        let digits := String.ofList (Nat.toDigits 8 b.toNat)
        String.ofList (List.replicate (3 - digits.length) ' ') ++ digits
      let width := (toString (max x.size y.size)).length
      for i in differing do
        emit (column width (i + 1) ++ " " ++ octal (x.get! i) ++ " " ++ octal (y.get! i) ++ "\n")
    match differing with
    | i :: _ =>
      if !a.has "s" && !a.has "l" then
        emit (first ++ " " ++ second ++ " differ: byte " ++ toString (i + 1) ++ ", line " ++
          toString (line i) ++ "\n")
      quit 1
    | [] =>
      if x.size = y.size then return
      else
        let (shorter, n) := if x.size < y.size then (first, x.size) else (second, y.size)
        let data := if x.size < y.size then x else y
        if !a.has "s" then
          flush
          if n = 0 then tell ("EOF on " ++ shorter ++ " which is empty")
          else
            let lines := data.toList.count 10
            let place :=
              if data.get! (n - 1) = 10 then ", line " ++ toString lines
              else ", in line " ++ toString (lines + 1)
            tell ("EOF on " ++ shorter ++ " after byte " ++ toString n ++ place)
        quit 1

end ReleaseBuilder.Machine.Utility
