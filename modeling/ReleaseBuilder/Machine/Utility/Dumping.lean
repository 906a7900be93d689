/-
# Utilities that show octets

Octets as numbers, as letters that any channel carries, or as they are, block by block.
-/

import ReleaseBuilder.Machine.Utility.Octets

namespace ReleaseBuilder.Machine.Utility

/-! ## Numbers -/

/-- How octets are shown. -/
inductive Style where
  | octal
  | decimal
  | signed
  | hexadecimal
  | character
  | named
  deriving DecidableEq

/-- A way to show octets: so many of them together in a style. -/
structure Rendition where
  style : Style
  size : Nat
  deriving DecidableEq

namespace Rendition

/-- The digits of a number in a base, at least as many as are wanted. -/
def digits (base count n : Nat) : String :=
  let shown := String.ofList (Nat.toDigits base n)
  String.ofList (List.replicate (count - shown.length) '0') ++ shown

/-- How wide a number of some octets is when it is largest. -/
def width (n : Rendition) : Nat :=
  match n.style with
  | .character | .named => 3
  | .hexadecimal => 2 * n.size
  | .octal => (8 * n.size + 2) / 3
  | .decimal => (toString (Nat.pow 256 n.size - 1)).length
  | .signed => (toString (Nat.pow 256 n.size / 2)).length + 1

/-- The number that octets make, the first one least. -/
def value : List UInt8 → Nat
  | [] => 0
  | b :: rest => b.toNat + 256 * value rest

/-- The names of the octets that are no letters. -/
def names : List String :=
  ["nul", "soh", "stx", "etx", "eot", "enq", "ack", "bel", "bs", "ht", "nl", "vt", "ff", "cr",
    "so", "si", "dle", "dc1", "dc2", "dc3", "dc4", "nak", "syn", "etb", "can", "em", "sub",
    "esc", "fs", "gs", "rs", "us", "sp"]

/-- An octet as a character. -/
def character (b : UInt8) : String :=
  match b.toNat with
  | 0 => "\\0"
  | 7 => "\\a"
  | 8 => "\\b"
  | 9 => "\\t"
  | 10 => "\\n"
  | 11 => "\\v"
  | 12 => "\\f"
  | 13 => "\\r"
  | n => if 32 ≤ n && n < 127 then String.singleton (Char.ofNat n) else digits 8 3 n

/-- Octets as they are shown, without the blanks before them. -/
def shown (n : Rendition) (octets : List UInt8) : String :=
  let v := value octets
  match n.style with
  | .octal => digits 8 n.width v
  | .hexadecimal => digits 16 n.width v
  | .decimal => toString v
  | .signed =>
    let range := Nat.pow 256 n.size
    if v < range / 2 then toString v else "-" ++ toString (range - v)
  | .character => character (octets.headD 0)
  | .named =>
    let low := v % 128
    if low = 127 then "del" else names.getD low (String.singleton (Char.ofNat low))

/-- The way that the letters of an option name, and what follows them. -/
def read? : List Char → Option (Rendition × List Char)
  | 'c' :: rest => some (⟨.character, 1⟩, rest)
  | 'a' :: rest => some (⟨.named, 1⟩, rest)
  | c :: rest =>
    let style? : Option Style :=
      match c with
      | 'o' => some .octal
      | 'x' => some .hexadecimal
      | 'd' => some .signed
      | 'u' => some .decimal
      | _ => none
    style?.bind fun style =>
      let digits := rest.takeWhile Char.isDigit
      match digits, rest with
      | [], 'C' :: later => some (⟨style, 1⟩, later)
      | [], 'S' :: later => some (⟨style, 2⟩, later)
      | [], 'I' :: later => some (⟨style, 4⟩, later)
      | [], 'L' :: later => some (⟨style, 8⟩, later)
      | [], later => some (⟨style, 4⟩, later)
      | digits, _ =>
        let size := Shell.numberOf 10 digits
        if [1, 2, 4, 8].contains size then some (⟨style, size⟩, rest.drop digits.length) else none
  | [] => none

/-- The ways that the value of an option names. -/
def readAll? : Nat → List Char → Option (List Rendition)
  | 0, _ => none
  | _ + 1, [] => some []
  | fuel + 1, cs => (read? cs).bind fun (n, rest) => (readAll? fuel rest).map (n :: ·)

/-- A line of octets, shown in one of several ways. The blanks are shared out so that all ways
need the same room. -/
def line (room block : Nat) (n : Rendition) (octets : List UInt8) (count : Nat) : String :=
  let fields := block / n.size
  let pad := room - n.width * fields
  let field (i : Nat) : String :=
    let part := (octets.drop (i * n.size)).take n.size
    let before := pad * (fields - i) / fields
    let after := pad * (fields - i - 1) / fields
    let text := n.shown part
    String.ofList (List.replicate (before - after + n.width - text.length) ' ') ++ text
  String.join ((List.range ((count + n.size - 1) / n.size)).map field)

end Rendition

/-- The address of a place, in a base, if there is one. -/
def addressText (base? : Option Nat) (place : Nat) : String :=
  match base? with
  | none => ""
  | some base => Rendition.digits base (if base = 16 then 6 else 7) place

/-- Put octets out in lines. A line that is like the one before is told by a star only. -/
def dumpLines (renditions : List Rendition) (base? : Option Nat) (block : Nat) (all : Bool) :
    Nat → Nat → List UInt8 → Option (List UInt8) → Bool → Tool Unit
  | 0, _, _, _, _ => return
  | fuel + 1, place, octets, last, starred => do
    if octets.isEmpty then
      let address := addressText base? place
      if !address.isEmpty then emit (address ++ "\n")
    else
      let here := octets.take block
      let rest := octets.drop block
      if !all && some here = last && here.length = block && !rest.isEmpty then
        if !starred then emit "*\n"
        dumpLines renditions base? block all fuel (place + here.length) rest last true
      else
        let room := (renditions.map fun n => (n.width + 1) * (block / n.size)).foldl max 0
        let address := addressText base? place
        for (n, i) in renditions.zipIdx do
          let front :=
            if i = 0 then address else String.ofList (List.replicate address.length ' ')
          emit (front ++ n.line room block here here.length ++ "\n")
        dumpLines renditions base? block all fuel (place + here.length) rest (some here) false

/-- Show octets as numbers. -/
def od : Tool Unit := do
  let a ← arguments
    [⟨"A", "address-radix", .always⟩, ⟨"j", "skip-bytes", .always⟩,
      ⟨"N", "read-bytes", .always⟩, ⟨"t", "format", .always⟩, ⟨"v", "output-duplicates", .never⟩,
      ⟨"w", "width", .maybe⟩, ⟨"a", "", .never⟩, ⟨"b", "", .never⟩, ⟨"c", "", .never⟩,
      ⟨"d", "", .never⟩, ⟨"i", "", .never⟩, ⟨"l", "", .never⟩, ⟨"o", "", .never⟩,
      ⟨"s", "", .never⟩, ⟨"x", "", .never⟩]
  let mut renditions : List Rendition := []
  for g in a.given do
    let added : List Rendition :=
      match g.key with
      | "a" => [⟨.named, 1⟩]
      | "b" => [⟨.octal, 1⟩]
      | "c" => [⟨.character, 1⟩]
      | "d" => [⟨.decimal, 2⟩]
      | "i" => [⟨.signed, 4⟩]
      | "l" => [⟨.signed, 8⟩]
      | "o" => [⟨.octal, 2⟩]
      | "s" => [⟨.signed, 2⟩]
      | "x" => [⟨.hexadecimal, 2⟩]
      | _ => []
    renditions := renditions ++ added
    if g.key = "t" then
      let text := g.value.getD ""
      match Rendition.readAll? (text.length + 1) text.toList with
      | some more => renditions := renditions ++ more
      | none =>
        refuse ("invalid character '" ++ String.ofList ((text.toList.dropWhile fun c =>
          "acdoux".toList.contains c || c.isDigit).take 1) ++ "' in type string " ++ inQuotes text)
  if renditions.isEmpty then renditions := [⟨.octal, 2⟩]
  let base? ←
    match a.value? "A" with
    | some "n" => pure none
    | some "d" => pure (some 10)
    | some "x" => pure (some 16)
    | some "o" | none => pure (some 8)
    | some text =>
      refuse ("invalid output address radix '" ++ text ++ "'; it must be one character from [doxn]")
  let amount (key : String) : Tool (Option Nat) :=
    match a.value? key with
    | none => pure none
    | some text =>
      match amount? text with
      | some n => pure (some n)
      | none => refuse ("invalid -" ++ key ++ " argument " ++ inQuotes text)
  let skipped := (← amount "j").getD 0
  let most ← amount "N"
  let widest := (renditions.map Rendition.size).foldl max 1
  let block := if a.has "w" then ((a.value? "w").bind amount?).getD 32 else 16
  let block := if block % widest = 0 && 0 < block then block else widest
  let mut octets := ByteArray.empty
  let mut any := false
  for path in operandsOr a.operands do
    let wanted := most.map fun n => skipped + n - octets.size
    match ← openOperand path with
    | .error fault =>
      tellFault path fault
      mark
    | .ok fd =>
      any := true
      let (data, result) ← eachBlock fd
        (fun (held : ByteArray) data => do
          let held := held ++ data
          return (held, wanted.all (held.size < ·)))
        Program.repetitions ByteArray.empty
      tellReading path result
      closeOperand fd
      octets := octets ++ (wanted.map fun n => data.extract 0 n).getD data
  if !any then quit 1
  if octets.size < skipped then refuse "cannot skip past end of combined input"
  let shown := (octets.extract skipped octets.size).toList
  dumpLines renditions base? block (a.has "v") (shown.length + 2) skipped shown none false

/-! ## Letters -/

/-- The letters for six bits each. -/
def sixBitLetters : List Char :=
  "ABCDEFGHIJKLMNOPQRSTUVWXYZabcdefghijklmnopqrstuvwxyz0123456789+/".toList

/-- Octets as letters. -/
def lettersOfOctets : List UInt8 → List Char
  | a :: b :: c :: rest =>
    let n := a.toNat * 65536 + b.toNat * 256 + c.toNat
    letter (n / 262144) :: letter (n / 4096) :: letter (n / 64) :: letter n :: lettersOfOctets rest
  | [a, b] =>
    let n := a.toNat * 65536 + b.toNat * 256
    [letter (n / 262144), letter (n / 4096), letter (n / 64), '=']
  | [a] => [letter (a.toNat / 4), letter (a.toNat * 16), '=', '=']
  | [] => []
where
  /-- The letter for the last six bits of a number. -/
  letter (n : Nat) : Char := sixBitLetters.getD (n % 64) 'A'

/-- The octets that letters stand for, and whether they are whole. -/
def octetsOfLetters : Nat → List Char → List UInt8 → List UInt8 × Bool
  | 0, _, made => (made.reverse, false)
  | _ + 1, [], made => (made.reverse, true)
  | fuel + 1, cs, made =>
    let octet (n : Nat) : UInt8 := UInt8.ofNat (n % 256)
    match cs.take 4 with
    | [a, b, '=', '='] =>
      match sixBitLetters.idxOf? a, sixBitLetters.idxOf? b with
      | some a, some b => octetsOfLetters fuel (cs.drop 4) (octet (a * 4 + b / 16) :: made)
      | _, _ => (made.reverse, false)
    | [a, b, c, d] =>
      match sixBitLetters.idxOf? a, sixBitLetters.idxOf? b, sixBitLetters.idxOf? c with
      | some a, some b, some c =>
        let two := octet (b * 16 + c / 4) :: octet (a * 4 + b / 16) :: made
        if d = '=' then octetsOfLetters fuel (cs.drop 4) two
        else
          match sixBitLetters.idxOf? d with
          | some d => octetsOfLetters fuel (cs.drop 4) (octet (c * 64 + d) :: two)
          | none => (two.reverse, false)
      | some a, some b, none => ((octet (a * 4 + b / 16) :: made).reverse, false)
      | _, _, _ => (made.reverse, false)
    | a :: b :: more =>
      match sixBitLetters.idxOf? a, sixBitLetters.idxOf? b with
      | some a, some b =>
        let one := octet (a * 4 + b / 16) :: made
        match (more.headD '=') with
        | '=' => (one.reverse, false)
        | c =>
          match sixBitLetters.idxOf? c with
          | some c => ((octet (b * 16 + c / 4) :: one).reverse, false)
          | none => (one.reverse, false)
      | _, _ => (made.reverse, false)
    | _ => (made.reverse, false)

/-- Octets as letters, or back. -/
def base64 : Tool Unit := do
  let a ← arguments
    [⟨"d", "decode", .never⟩, ⟨"i", "ignore-garbage", .never⟩, ⟨"w", "wrap", .always⟩]
  if let _ :: extra :: _ := a.operands then extraOperand extra
  let path := a.operands.headD "-"
  match ← readOperand path with
  | .error fault => refuse (quotedName path ++ ": " ++ fault.words)
  | .ok octets =>
    if a.has "d" then
      let cs := (Text.narrowOf octets).toList.filter fun c =>
        c ≠ '\n' && (!a.has "i" || c = '=' || sixBitLetters.contains c)
      let (made, whole) := octetsOfLetters (cs.length + 1) cs []
      emitOctets ⟨made.toArray⟩
      if !whole then
        flush
        refuse "invalid input"
    else
      let width ←
        match a.value? "w" with
        | none => pure 76
        | some text =>
          match natural? text with
          | some n => pure n
          | none => refuse ("invalid wrap size: " ++ inQuotes text)
      let letters := lettersOfOctets octets.toList
      if width = 0 then emit (String.ofList letters)
      else
        for i in List.range ((letters.length + width - 1) / width) do
          emitLine ((letters.drop (i * width)).take width)

/-! ## Blocks -/

/-- Read a block as a whole, as far as the channel gives one. -/
def readBlock (fd size : Nat) (full : Bool) : Nat → ByteArray → Tool ByteArray
  | 0, held => return held
  | fuel + 1, held => do
    match ← request (Program.read fd (size - held.size)) with
    | .error _ => return held
    | .ok data =>
      let held := held ++ data
      if data.isEmpty || !full || size ≤ held.size then return held
      else readBlock fd size full fuel held

/-- Copy blocks: how many were read as a whole and in part, and how many octets. -/
def copyBlocks (input output size : Nat) (full : Bool) (changed : ByteArray → ByteArray) :
    Nat → Nat × Nat × Nat → Tool (Nat × Nat × Nat)
  | 0, counts => return counts
  | fuel + 1, (whole, parts, octets) => do
    let data ← readBlock input size full Program.repetitions ByteArray.empty
    if data.isEmpty then return (whole, parts, octets)
    else
      match ← request (Program.write output (changed data)) with
      | .error fault =>
        tell ("error writing 'standard output': " ++ fault.words)
        mark
        return (whole, parts, octets)
      | .ok () =>
        copyBlocks input output size full changed fuel
          (if data.size = size then (whole + 1, parts, octets + data.size)
            else (whole, parts + 1, octets + data.size))

/-- Pass over octets of a descriptor. -/
def passOver (fd : Nat) : Nat → Nat → Tool Unit
  | 0, _ => return
  | fuel + 1, left => do
    if left = 0 then return
    else
      match ← request (Program.read fd (min left blockSize)) with
      | .error _ => return
      | .ok data => if data.isEmpty then return else passOver fd fuel (left - data.size)

/-- Copy octets block by block. -/
def dd : Tool Unit := do
  let args := (← read).args.filter (· ≠ "--")
  let known := ["if", "of", "bs", "ibs", "obs", "cbs", "count", "skip", "seek", "conv", "status",
    "iflag", "oflag"]
  let given := args.map fun a =>
    let key := a.toList.takeWhile (· ≠ '=')
    (String.ofList key, if key.length = a.length then none
      else some (String.ofList (a.toList.drop (key.length + 1))))
  for ((key, value), a) in given.zip args do
    if !known.contains key || value.isNone then misuse ("unrecognized operand " ++ inQuotes a)
  let value? (key : String) : Option String := (given.reverse.lookup key).bind id
  let amount (key : String) : Tool (Option Nat) :=
    match value? key with
    | none => pure none
    | some text =>
      match amount? text with
      | some n => pure (some n)
      | none => refuse ("invalid number: " ++ inQuotes text)
  let size := ((← amount "bs").or (← amount "ibs")).getD 512
  let outSize := ((← amount "bs").or (← amount "obs")).getD 512
  let count ← amount "count"
  let skip := (← amount "skip").getD 0
  let seek := (← amount "seek").getD 0
  let words (key : String) : List String :=
    (((value? key).getD "").toList.splitOn ',').map String.ofList
  let conversions := words "conv"
  let inFlags := words "iflag"
  let input ←
    match value? "if" with
    | none => pure 0
    | some path =>
      match ← openPath .reading path with
      | .ok fd => pure fd
      | .error fault => refuse ("failed to open " ++ inQuotes path ++ ": " ++ fault.words)
  let output ←
    match value? "of" with
    | none => pure 1
    | some path =>
      let opening : Opening :=
        { writable := true
          create := !conversions.contains "nocreat"
          truncate := !conversions.contains "notrunc" && seek = 0 }
      match ← openPath opening path with
      | .ok fd => pure fd
      | .error fault => refuse ("failed to open " ++ inQuotes path ++ ": " ++ fault.words)
  passOver input Program.repetitions
    (if inFlags.contains "skip_bytes" then skip else skip * size)
  if 0 < seek then
    let kept := seek * outSize
    let cuts := (value? "of").isSome && !conversions.contains "notrunc"
    request (Program.change fun s =>
      match cuts, s.descriptor? output with
      | true, some (_, { target := .file number, .. }) =>
        let old := s.octetsOf number
        let new := old.extract 0 kept ++ ⟨Array.replicate (kept - old.size) 0⟩
        { s with files := s.files.fill number (.octets new) }
      | _, _ => s)
    request (Program.change (·.seek output fun _ at' => at' + kept))
  let changed (data : ByteArray) : ByteArray :=
    if conversions.contains "ucase" then
      Text.octetsOf (String.ofList ((Text.narrowOf data).toList.map Char.toUpper))
    else if conversions.contains "lcase" then
      Text.octetsOf (String.ofList ((Text.narrowOf data).toList.map Char.toLower))
    else data
  let full := inFlags.contains "fullblock"
  let (whole, parts, octets) ←
    if inFlags.contains "count_bytes" then
      let total := count.getD 0
      let (whole, parts, octets) ←
        copyBlocks input output size full changed (total / size) (0, 0, 0)
      if total % size = 0 then pure (whole, parts, octets)
      else copyBlocks input output (total % size) full changed 1 (whole, parts, octets)
    else copyBlocks input output size full changed (count.getD Program.repetitions) (0, 0, 0)
  let told := toString whole ++ "+" ++ toString parts
  match value? "status" with
  | some "none" => return
  | status =>
    mutter (told ++ " records in\n" ++ told ++ " records out\n")
    if status ≠ some "noxfer" then
      mutter (toString octets ++ (if octets = 1 then " byte" else " bytes") ++
        " copied, 0.0001 s, 1.0 MB/s\n")

end ReleaseBuilder.Machine.Utility
