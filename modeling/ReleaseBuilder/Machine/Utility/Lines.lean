/-
# Utilities for lines

The programs that take lines and put out parts of them, or put them out in another order,
numbered, folded, joined or without repetitions.
-/

import ReleaseBuilder.Machine.Utility.Octets

namespace ReleaseBuilder.Machine.Utility

/-- Positions from a first to a last one. Without a last one it goes on to the end. -/
structure Stretch where
  first : Nat
  last : Option Nat
  deriving DecidableEq

namespace Stretch

/-- Whether a position is in a stretch. -/
def contains (s : Stretch) (n : Nat) : Bool :=
  s.first ≤ n && (s.last.map fun last => decide (n ≤ last)).getD true

/-- What is wrong with a piece of a list of positions. -/
inductive Flaw where
  | zero
  | decreasing
  | endless
  | shapeless

/-- The stretch that a piece of a list writes. -/
def ofPiece (piece : List Char) : Except Flaw Stretch :=
  let number (cs : List Char) : Except Flaw Nat :=
    match natural? (String.ofList cs) with
    | some 0 => .error .zero
    | some n => .ok n
    | none => if cs.isEmpty then .error .zero else .error .shapeless
  match piece.splitOn '-' with
  | [one] => do
    let n ← number one
    return ⟨n, some n⟩
  | [[], []] => .error .endless
  | [first, []] => do return ⟨← number first, none⟩
  | [[], last] => do return ⟨1, some (← number last)⟩
  | [first, last] => do
    let first ← number first
    let last ← number last
    if last < first then .error .decreasing else return ⟨first, some last⟩
  | _ => .error .shapeless

/-- The stretches that a list writes. -/
def ofList (text : String) : Except Flaw (List Stretch) :=
  ((text.toList.map fun c => if c = ' ' || c = '\t' then ',' else c).splitOn ',').mapM ofPiece

end Stretch

/-- How parts are taken from lines. -/
structure Cutting where
  stretches : List Stretch
  complement : Bool
  joint : Option String
  separator : Char
  onlySeparated : Bool

namespace Cutting

/-- Whether a position is taken. -/
def takes (cutting : Cutting) (n : Nat) : Bool :=
  (cutting.stretches.any (·.contains n)) != cutting.complement

/-- Whether a stretch starts at a position. -/
def startsAt (cutting : Cutting) (n : Nat) : Bool :=
  if cutting.complement then !cutting.takes (n - 1)
  else
    cutting.stretches.any (·.first = n) &&
      cutting.stretches.all fun s => !(s.first < n && s.contains n)

/-- The characters of a line that are taken. -/
def characters (cutting : Cutting) (line : List Char) : List Char :=
  let step (made : List Char × Bool) (item : Char × Nat) : List Char × Bool :=
    let n := item.2 + 1
    if !cutting.takes n then made
    else
      let joint := if made.2 && cutting.startsAt n then (cutting.joint.getD "").toList else []
      (item.1 :: (joint.reverse ++ made.1), true)
  (line.zipIdx.foldl step ([], false)).1.reverse

/-- The fields of a line that are taken, if there are fields. -/
def fields? (cutting : Cutting) (line : List Char) : Option (List Char) :=
  let pieces := line.splitOn cutting.separator
  if pieces.length < 2 then if cutting.onlySeparated then none else some line
  else
    let taken := (pieces.zipIdx.filter fun item => cutting.takes (item.2 + 1)).map Prod.fst
    some (((cutting.joint.getD (String.singleton cutting.separator)).toList).intercalate taken)

end Cutting

/-- Complain about a list of positions. -/
def refuseList (ofFields : Bool) (text : String) (flaw : Stretch.Flaw) : Tool α :=
  match flaw with
  | .zero =>
    misuse ((if ofFields then "fields" else "byte/character positions") ++ " are numbered from 1")
  | .decreasing => misuse "invalid decreasing range"
  | .endless => misuse "invalid range with no endpoint: -"
  | .shapeless =>
    let bad := String.ofList ((text.toList.dropWhile fun c => c.isDigit || c = '-' || c = ','))
    misuse ("invalid " ++ (if ofFields then "field value " else "byte/character position ") ++
      inQuotes bad)

/-- Take parts of lines. -/
def cut : Tool Unit := do
  let a ← arguments
    [⟨"b", "bytes", .always⟩, ⟨"c", "characters", .always⟩, ⟨"d", "delimiter", .always⟩,
      ⟨"f", "fields", .always⟩, ⟨"n", "", .never⟩, ⟨"s", "only-delimited", .never⟩,
      ⟨"", "complement", .never⟩, ⟨"", "output-delimiter", .always⟩,
      ⟨"z", "zero-terminated", .never⟩]
  match a.given.filter fun g => ["b", "c", "f"].contains g.key with
  | [] => misuse "you must specify a list of bytes, characters, or fields"
  | _ :: _ :: _ => misuse "only one list may be specified"
  | [list] =>
    let ofFields := list.key = "f"
    let separator := a.value? "d"
    if 1 < (separator.getD "").length then misuse "the delimiter must be a single character"
    if !ofFields && separator.isSome then
      misuse "an input delimiter may be specified only when operating on fields"
    if !ofFields && a.has "s" then
      misuse "suppressing non-delimited lines makes sense\n\tonly when operating on fields"
    let text := list.value.getD ""
    match Stretch.ofList text with
    | .error flaw => refuseList ofFields text flaw
    | .ok stretches =>
      let cutting : Cutting :=
        { stretches := stretches
          complement := a.has "complement"
          joint := a.value? "output-delimiter"
          separator := ((separator.map fun s => s.toList.headD '\x00').getD '\t')
          onlySeparated := a.has "s" }
      eachOperand a.operands fun path fd => do
        let (_, result) ← eachLine fd (fun () line _ => do
          if ofFields then
            match cutting.fields? line with
            | some taken => emitLine taken
            | none => pure ()
          else emitLine (cutting.characters line)
          return ((), true)) ()
        tellReading path result

/-- Put out the lines of each operand from the last to the first. -/
def tac : Tool Unit := do
  let a ← arguments
    [⟨"b", "before", .never⟩, ⟨"r", "regex", .never⟩, ⟨"s", "separator", .always⟩]
  for path in operandsOr a.operands do
    match ← readOperand path with
    | .error fault =>
      tell ("failed to open " ++ inQuotes path ++ " for reading: " ++ fault.words)
      mark
    | .ok octets =>
      let (ended, rest) := linesAndRest (Text.narrowOf octets).toList
      emit (String.ofList rest)
      for line in ended.reverse do emitLine line

/-- Put out the characters of each line from the last to the first. -/
def rev : Tool Unit := do
  let a ← arguments []
  for path in operandsOr a.operands do
    match ← openOperand path with
    | .error fault =>
      interject ("cannot open " ++ path ++ ": " ++ fault.words)
      mark
    | .ok fd =>
      let (_, _) ← eachLine fd (fun () line ended => do
        emit (String.ofList (line.reverse ++ if ended then ['\n'] else []))
        return ((), true)) ()
      closeOperand fd

/-- A part of a line that decides its order. A position is a field and a character in it. -/
structure SortKey where
  first : Nat × Nat := (1, 1)
  last : Option (Nat × Nat) := none
  letters : List Char := []
  deriving DecidableEq

/-- How lines are put in order. -/
structure LineOrder where
  keys : List SortKey
  separator : Option Char
  letters : List Char
  stable : Bool
  unique : Bool

/-- Whether a character is a blank. -/
def isBlank (c : Char) : Bool := c = ' ' || c = '\t'

/-- Where each field of a line starts, and where the last one ends. Without a separator, a field
starts with the blanks before it. -/
def fieldsOf (separator : Option Char) (line : List Char) : List (List Char) :=
  match separator with
  | some c => line.splitOn c
  | none => go [] line
where
  go (word : List Char) : List Char → List (List Char)
    | [] => [word.reverse]
    | c :: rest =>
      if isBlank c && word.any (!isBlank ·) then word.reverse :: go [c] rest
      else go (c :: word) rest

/-- How many characters stand before a field. -/
def startOfField (separator : Option Char) (fields : List (List Char)) (field : Nat) : Nat :=
  let before := fields.take (field - 1)
  total (before.map List.length) + if separator.isSome then before.length else 0

/-- The part of a line that a key takes. -/
def SortKey.part (separator : Option Char) (key : SortKey) (letters line : List Char) : List Char :=
  let fields := fieldsOf separator line
  let blanksAt (n : Nat) : Nat :=
    if letters.contains 'b' then ((line.drop n).takeWhile isBlank).length else 0
  let first :=
    let start := startOfField separator fields key.first.1
    start + blanksAt start + (key.first.2 - 1)
  let last :=
    match key.last with
    | none => line.length
    | some (field, 0) =>
      let before := fields.take field
      total (before.map List.length) + if separator.isSome then before.length - 1 else 0
    | some (field, character) =>
      let start := startOfField separator fields field
      start + blanksAt start + character
  (line.take last).drop first

/-- A number at the start of a text: whether it is negative, its whole part and its decimals. -/
def numberAt (cs : List Char) : Bool × Nat × List Char :=
  let cs := cs.dropWhile isBlank
  let (negative, cs) :=
    match cs with
    | '-' :: rest => (true, rest)
    | _ => (false, cs)
  let whole := cs.takeWhile Char.isDigit
  let decimals :=
    match cs.drop whole.length with
    | '.' :: rest => ((rest.takeWhile Char.isDigit).reverse.dropWhile (· = '0')).reverse
    | _ => []
  (negative, Shell.numberOf 10 whole, decimals)

/-- The order of characters in sequence. -/
def compareCharacters : List Char → List Char → Ordering
  | [], [] => .eq
  | [], _ :: _ => .lt
  | _ :: _, [] => .gt
  | c :: cs, d :: ds => (compare c.toNat d.toNat).then (compareCharacters cs ds)

/-- The order of numbers at the start of texts. -/
def compareNumbers (s t : List Char) : Ordering :=
  let (sNegative, sWhole, sDecimals) := numberAt s
  let (tNegative, tWhole, tDecimals) := numberAt t
  let sZero := sWhole = 0 && sDecimals.isEmpty
  let tZero := tWhole = 0 && tDecimals.isEmpty
  let magnitude := (compare sWhole tWhole).then (compareCharacters sDecimals tDecimals)
  match sNegative && !sZero, tNegative && !tZero with
  | false, false => magnitude
  | true, true => magnitude.swap
  | true, false => .lt
  | false, true => .gt

/-- The power of a thousand that the letter behind a number stands for. -/
def scaleOf (cs : List Char) : Nat :=
  let cs := cs.dropWhile isBlank
  let cs := if cs.head? = some '-' then cs.drop 1 else cs
  match cs.dropWhile fun c => c.isDigit || c = '.' with
  | c :: _ => if c = 'k' then 1 else ("KMGTPEZY".toList.idxOf? c).elim 0 (· + 1)
  | [] => 0

/-- The order of numbers with letters behind them. -/
def compareScaled (s t : List Char) : Ordering :=
  let signOf (cs : List Char) : Int :=
    let (negative, whole, decimals) := numberAt cs
    if whole = 0 && decimals.isEmpty then 0 else if negative then -1 else 1
  let byScale := compare (scaleOf s) (scaleOf t)
  (compare (signOf s) (signOf t)).then
    ((if signOf s < 0 then byScale.swap else byScale).then (compareNumbers s t))

/-- How a version is weighed: a tilde before the end, letters before other characters. -/
def versionWeight (c : Char) : Int :=
  if c = '~' then -1 else if c.isAlpha then c.toNat else c.toNat + 256

/-- The order of versions, part by part: what are no digits by weight, and digits by number. -/
def compareVersions : Nat → List Char → List Char → Ordering
  | 0, _, _ | _ + 1, [], [] => .eq
  | fuel + 1, s, t =>
    let sText := s.takeWhile (!·.isDigit)
    let tText := t.takeWhile (!·.isDigit)
    let width := max sText.length tText.length
    let weights (cs : List Char) : List Int :=
      (cs.map versionWeight) ++ List.replicate (width - cs.length) 0
    let byText : Ordering :=
      ((weights sText).zip (weights tText)).foldl (fun o p => o.then (compare p.1 p.2)) .eq
    let s := s.drop sText.length
    let t := t.drop tText.length
    let sDigits := s.takeWhile Char.isDigit
    let tDigits := t.takeWhile Char.isDigit
    byText.then ((compare (Shell.numberOf 10 sDigits) (Shell.numberOf 10 tDigits)).then
      (compareVersions fuel (s.drop sDigits.length) (t.drop tDigits.length)))

/-- The characters of a part that matter for its order. -/
def significant (letters part : List Char) : List Char :=
  let part := if letters.contains 'd' then part.filter fun c => isBlank c || c.isAlphanum else part
  let part :=
    if letters.contains 'i' then part.filter fun c => 32 ≤ c.toNat && c.toNat < 127 else part
  if letters.contains 'f' then part.map Char.toUpper else part

/-- The order of two parts. -/
def compareParts (letters s t : List Char) : Ordering :=
  let order :=
    if letters.contains 'n' || letters.contains 'g' then compareNumbers s t
    else if letters.contains 'h' then compareScaled s t
    else if letters.contains 'V' then
      (compareVersions (s.length + t.length + 1) s t).then (compareCharacters s t)
    else compareCharacters (significant letters s) (significant letters t)
  if letters.contains 'r' then order.swap else order

namespace LineOrder

/-- The order of two lines by the keys alone. -/
def byKeys (o : LineOrder) (s t : List Char) : Ordering :=
  if o.keys.isEmpty then
    let partOf (line : List Char) : List Char :=
      if o.letters.contains 'b' then line.dropWhile isBlank else line
    compareParts o.letters (partOf s) (partOf t)
  else
    o.keys.foldl (fun order key =>
      let letters := if key.letters.isEmpty then o.letters else key.letters
      order.then (compareParts letters (key.part o.separator letters s)
        (key.part o.separator letters t))) .eq

/-- The order of two lines. Where the keys do not decide, all characters do. -/
def order (o : LineOrder) (s t : List Char) : Ordering :=
  let plain := compareCharacters s t
  (o.byKeys s t).then
    (if o.stable || o.unique then .eq
      else if o.letters.contains 'r' then plain.swap else plain)

/-- Lines in order. -/
def sorted (o : LineOrder) (lines : List (List Char)) : List (List Char) :=
  let inOrder := lines.mergeSort fun s t => o.order s t ≠ .gt
  if !o.unique then inOrder
  else
    (inOrder.foldl (fun kept line =>
      match kept with
      | last :: _ => if o.byKeys last line = .eq then kept else line :: kept
      | [] => [line]) []).reverse

end LineOrder

/-- A position in a line: a field, a character in it if there is one, and letters. -/
def sortPosition? (cs : List Char) (character : Nat) : Option ((Nat × Nat) × List Char) := do
  let field := cs.takeWhile Char.isDigit
  let n ← natural? (String.ofList field)
  match cs.drop field.length with
  | '.' :: rest =>
    let digits := rest.takeWhile Char.isDigit
    let m ← natural? (String.ofList digits)
    return ((n, m), rest.drop digits.length)
  | letters => return ((n, character), letters)

/-- The key that a text writes. -/
def sortKey? (text : String) : Option SortKey := do
  let fits (letters : List Char) : Bool := letters.all ("bdfghinMRrV".toList.contains ·)
  match text.toList.splitOn ',' with
  | [first] =>
    let (position, letters) ← sortPosition? first 1
    if position.1 = 0 || position.2 = 0 || !fits letters then none
    else return { first := position, letters := letters }
  | [first, last] =>
    let (position, letters) ← sortPosition? first 1
    let (ending, more) ← sortPosition? last 0
    if position.1 = 0 || position.2 = 0 || ending.1 = 0 || !fits (letters ++ more) then none
    else return { first := position, last := some ending, letters := letters ++ more }
  | _ => none

/-- Put lines in order. -/
def sort : Tool Unit := do
  let a ← arguments
    ([⟨"b", "ignore-leading-blanks", .never⟩, ⟨"d", "dictionary-order", .never⟩,
      ⟨"f", "ignore-case", .never⟩, ⟨"g", "general-numeric-sort", .never⟩,
      ⟨"h", "human-numeric-sort", .never⟩, ⟨"i", "ignore-nonprinting", .never⟩,
      ⟨"n", "numeric-sort", .never⟩, ⟨"r", "reverse", .never⟩, ⟨"V", "version-sort", .never⟩,
      ⟨"k", "key", .always⟩, ⟨"t", "field-separator", .always⟩, ⟨"u", "unique", .never⟩,
      ⟨"s", "stable", .never⟩, ⟨"o", "output", .always⟩, ⟨"c", "check", .maybe⟩,
      ⟨"C", "", .never⟩, ⟨"m", "merge", .never⟩, ⟨"z", "zero-terminated", .never⟩,
      ⟨"S", "buffer-size", .always⟩, ⟨"T", "temporary-directory", .always⟩,
      ⟨"", "parallel", .always⟩]) true 2
  let mut keys : List SortKey := []
  for text in a.values "k" do
    match sortKey? text with
    | some key => keys := keys ++ [key]
    | none =>
      refuse ("invalid number at field start: invalid count at start of " ++ inQuotes text) 2
  let separator ←
    match a.value? "t" with
    | none => pure none
    | some s =>
      match s.toList with
      | [c] => pure (some c)
      | ['\\', '0'] => pure (some '\x00')
      | [] => refuse "empty tab" 2
      | _ => refuse ("multi-character tab " ++ inQuotes s) 2
  let o : LineOrder :=
    { keys := keys
      separator := separator
      letters := "bdfghinrV".toList.filter fun c => a.has (String.singleton c)
      stable := a.has "s"
      unique := a.has "u" }
  let checks := a.has "c" || a.has "C"
  let mut lines : Array (List Char) := #[]
  for path in operandsOr a.operands do
    match ← readOperand path with
    | .error fault =>
      refuse ((if fault = .isDirectory then "read failed: " else "cannot read: ") ++
        quotedName path ++ ": " ++ fault.words) 2
    | .ok octets =>
      let (ended, rest) := linesAndRest (Text.narrowOf octets).toList
      lines := lines ++ ended.toArray
      if !rest.isEmpty then lines := lines.push rest
  if checks then
    let pairs := (lines.toList.zip lines.toList.tail).zipIdx
    let isWrong (p : List Char × List Char) : Bool :=
      o.order p.1 p.2 = .gt || (o.unique && o.byKeys p.1 p.2 = .eq)
    match pairs.find? fun p => isWrong p.1 with
    | none => return
    | some ((_, line), n) =>
      if !a.has "C" then
        tell ((operandsOr a.operands).headD "-" ++ ":" ++ toString (n + 2) ++ ": disorder: " ++
          String.ofList line)
      quit 1
  else
    let octets := Text.octetsOf
      (String.join ((o.sorted lines.toList).map fun line => String.ofList (line ++ ['\n'])))
    match a.value? "o" with
    | none => emitOctets octets
    | some path =>
      match ← openPath .writing path with
      | .error fault => refuse ("open failed: " ++ quotedName path ++ ": " ++ fault.words) 2
      | .ok fd =>
        let _ ← request (Program.write fd octets)
        closeOperand fd

/-- Lines that are the same as the one before, counted. -/
def runsOf (same : List Char → List Char → Bool) (lines : List (List Char)) :
    List (List Char × List (List Char)) :=
  (lines.foldl (fun runs line =>
    match runs with
    | (first, more) :: earlier =>
      if same first line then (first, line :: more) :: earlier else (line, []) :: runs
    | [] => [(line, [])]) []).reverse.map fun (first, more) => (first, more.reverse)

/-- Lines without those that are the same as the one before. -/
def uniq : Tool Unit := do
  let a ← arguments
    [⟨"c", "count", .never⟩, ⟨"d", "repeated", .never⟩, ⟨"D", "", .never⟩,
      ⟨"f", "skip-fields", .always⟩, ⟨"i", "ignore-case", .never⟩,
      ⟨"s", "skip-chars", .always⟩, ⟨"u", "unique", .never⟩, ⟨"w", "check-chars", .always⟩,
      ⟨"z", "zero-terminated", .never⟩]
  match a.operands with
  | _ :: _ :: extra :: _ => extraOperand extra
  | _ => pure ()
  let input := a.operands.headD "-"
  match ← readOperand input with
  | .error fault => refuse (quotedName input ++ ": " ++ fault.words)
  | .ok octets =>
    let (ended, rest) := linesAndRest (Text.narrowOf octets).toList
    let lines := ended ++ if rest.isEmpty then [] else [rest]
    let count (key : String) : Option Nat := (a.value? key).bind natural?
    let rec withoutFields : Nat → List Char → List Char
      | 0, cs => cs
      | n + 1, cs => withoutFields n ((cs.dropWhile isBlank).dropWhile (!isBlank ·))
    let partOf (line : List Char) : List Char :=
      let part := (withoutFields ((count "f").getD 0) line).drop ((count "s").getD 0)
      let part := ((count "w").map fun n => part.take n).getD part
      if a.has "i" then part.map Char.toUpper else part
    let mut made : Array (List Char) := #[]
    for (first, more) in runsOf (fun s t => partOf s = partOf t) lines do
      let repeated := !more.isEmpty
      if a.has "D" then
        if repeated then made := made ++ (first :: more).toArray
      else if (a.has "d" && !repeated) || (a.has "u" && repeated) then pure ()
      else if a.has "c" then
        made := made.push ((column 7 (more.length + 1) ++ " ").toList ++ first)
      else made := made.push first
    match a.operands with
    | [_, output] =>
      if output ≠ "-" then
        match ← openPath .writing output with
        | .error fault => refuse (quotedName output ++ ": " ++ fault.words)
        | .ok fd =>
          let text := String.join (made.toList.map fun line => String.ofList (line ++ ['\n']))
          let _ ← request (Program.write fd (Text.octetsOf text))
          closeOperand fd
          return
    | _ => pure ()
    for line in made do emitLine line

/-- The lines of two lists in order: of each, whether it is in the first, in the second, or in
both. -/
def merged : Nat → List (List Char) → List (List Char) → List (Ordering × List Char)
  | 0, _, _ => []
  | _ + 1, xs, [] => xs.map (.lt, ·)
  | _ + 1, [], ys => ys.map (.gt, ·)
  | fuel + 1, x :: xs, y :: ys =>
    match compareCharacters x y with
    | .lt => (.lt, x) :: merged fuel xs (y :: ys)
    | .eq => (.eq, x) :: merged fuel xs ys
    | .gt => (.gt, y) :: merged fuel (x :: xs) ys

/-- Compare the lines of two files that are in order. -/
def comm : Tool Unit := do
  let a ← arguments
    [⟨"1", "", .never⟩, ⟨"2", "", .never⟩, ⟨"3", "", .never⟩, ⟨"", "check-order", .never⟩,
      ⟨"", "nocheck-order", .never⟩, ⟨"", "output-delimiter", .always⟩,
      ⟨"z", "zero-terminated", .never⟩]
  match a.operands with
  | [] => missingOperand
  | [one] => misuse ("missing operand after " ++ inQuotes one)
  | [first, second] =>
    let linesOf (path : String) : Tool (List (List Char)) := do
      match ← readOperand path with
      | .error fault => refuse (quotedName path ++ ": " ++ fault.words)
      | .ok octets =>
        let (ended, rest) := linesAndRest (Text.narrowOf octets).toList
        return ended ++ if rest.isEmpty then [] else [rest]
    let xs ← linesOf first
    let ys ← linesOf second
    let joint := (a.value? "output-delimiter").getD "\t"
    let gap (keys : List String) : String :=
      String.join ((keys.filter (!a.has ·)).map fun _ => joint)
    for (side, line) in merged (xs.length + ys.length + 1) xs ys do
      let (key, before) :=
        match side with
        | .lt => ("1", [])
        | .gt => ("2", ["1"])
        | .eq => ("3", ["1", "2"])
      if !a.has key then
        emit (gap before)
        emitLine line
  | _ :: _ :: extra :: _ => extraOperand extra

/-- The separators that a list of them writes. -/
def separatorsOf : List Char → List (List Char)
  | [] => []
  | '\\' :: 'n' :: rest => ['\n'] :: separatorsOf rest
  | '\\' :: 't' :: rest => ['\t'] :: separatorsOf rest
  | '\\' :: '0' :: rest => [] :: separatorsOf rest
  | '\\' :: '\\' :: rest => ['\\'] :: separatorsOf rest
  | c :: rest => [c] :: separatorsOf rest

/-- Pieces with separators between them, which are used in turn. -/
def joinedInTurn (separators : List (List Char)) (pieces : List (List Char)) : List Char :=
  match pieces with
  | [] => []
  | first :: rest =>
    let count := max separators.length 1
    first ++ (rest.zipIdx.flatMap fun (piece, n) => (separators[n % count]?).getD [] ++ piece)

/-- The lines of several operands side by side. -/
def sideBySide (separators : List (List Char)) : Nat → List (List (List Char)) → List (List Char)
  | 0, _ => []
  | fuel + 1, columns =>
    if columns.all List.isEmpty then []
    else
      joinedInTurn separators (columns.map (·.headD [])) ::
        sideBySide separators fuel (columns.map List.tail)

/-- Join lines of operands, side by side or one after the other. -/
def paste : Tool Unit := do
  let a ← arguments
    [⟨"d", "delimiters", .always⟩, ⟨"s", "serial", .never⟩, ⟨"z", "zero-terminated", .never⟩]
  let separators := separatorsOf ((a.value? "d").getD "\t").toList
  let separators := if separators.isEmpty then [[]] else separators
  let operands := operandsOr a.operands
  let mut columns : List (List (List Char)) := []
  let mut input : Option (List (List Char)) := none
  let hyphens := (operands.filter (· = "-")).length
  let mut seen := 0
  for path in operands do
    if path = "-" && 1 < hyphens && !a.has "s" then
      let lines ← match input with
        | some lines => pure lines
        | none => allLines ["-"]
      input := some lines
      let turn := seen
      columns := columns ++
        [(lines.zipIdx.filter fun item => item.2 % hyphens = turn).map Prod.fst]
      seen := seen + 1
    else
      match ← readOperand path with
      | .error fault =>
        tellFault path fault
        mark
        if !a.has "s" then quit 1
      | .ok octets =>
        let (ended, rest) := linesAndRest (Text.narrowOf octets).toList
        columns := columns ++ [ended ++ if rest.isEmpty then [] else [rest]]
  if a.has "s" then
    for lines in columns do emitLine (joinedInTurn separators lines)
  else
    let longest := (columns.map List.length).foldl max 0
    for line in sideBySide separators (longest + 1) columns do emitLine line

/-- Number lines. -/
def nl : Tool Unit := do
  let a ← arguments
    [⟨"b", "body-numbering", .always⟩, ⟨"d", "section-delimiter", .always⟩,
      ⟨"f", "footer-numbering", .always⟩, ⟨"h", "header-numbering", .always⟩,
      ⟨"i", "line-increment", .always⟩, ⟨"l", "join-blank-lines", .always⟩,
      ⟨"n", "number-format", .always⟩, ⟨"p", "no-renumber", .never⟩,
      ⟨"s", "number-separator", .always⟩, ⟨"v", "starting-line-number", .always⟩,
      ⟨"w", "number-width", .always⟩]
  let count (key : String) (usual : Nat) : Nat := ((a.value? key).bind natural?).getD usual
  let width := count "w" 6
  let separator := (a.value? "s").getD "\t"
  let style := (a.value? "b").getD "t"
  let shown (n : Nat) : String :=
    let digits := toString n
    let gap (c : Char) := String.ofList (List.replicate (width - digits.length) c)
    match a.value? "n" with
    | some "ln" => digits ++ gap ' '
    | some "rz" => gap '0' ++ digits
    | _ => gap ' ' ++ digits
  let mut number := count "v" 1
  for line in ← allLines a.operands do
    if style = "a" || (style = "t" && !line.isEmpty) then
      emit (shown number ++ separator)
      number := number + count "i" 1
    else emit (String.ofList (List.replicate (width + separator.length) ' '))
    emitLine line

/-- The pieces of a line that are not wider than a width. -/
def folded (width : Nat) (atBlanks : Bool) : Nat → List Char → List (List Char)
  | 0, line => [line]
  | fuel + 1, line =>
    if (line.drop width).isEmpty then [line]
    else
      let front := line.take width
      let kept :=
        if atBlanks then front.length - (front.reverse.takeWhile (!isBlank ·)).length else 0
      let size := if kept = 0 then width else kept
      line.take size :: folded width atBlanks fuel (line.drop size)

/-- Part lines that are too wide. -/
def fold : Tool Unit := do
  let a ← arguments
    [⟨"b", "bytes", .never⟩, ⟨"s", "spaces", .never⟩, ⟨"w", "width", .always⟩]
  let width ←
    match a.value? "w" with
    | none => pure 80
    | some text =>
      match natural? text with
      | some 0 | none => refuse ("invalid number of columns: " ++ inQuotes text)
      | some n => pure n
  eachOperand a.operands fun path fd => do
    let (_, result) ← eachLine fd (fun () line ended => do
      let pieces := folded width (a.has "s") line.length line
      emit (String.ofList (['\n'].intercalate pieces ++ if ended then ['\n'] else []))
      return ((), true)) ()
    tellReading path result

end ReleaseBuilder.Machine.Utility
