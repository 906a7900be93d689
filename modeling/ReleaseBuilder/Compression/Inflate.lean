/-
# Unpacking compressed octets

Compressed octets come in blocks. A block holds octets as they are, or symbols in a code
in which frequent symbols are short. A symbol is an octet, the end of the block, or the
length of a run that is copied from so many octets back. A code is told by the lengths of
its symbols alone: shorter ones come first, and those of one length in their order.
-/

import ReleaseBuilder.Compression.Bits

namespace ReleaseBuilder.Compression

/-- A code: how many symbols there are of each length from one on, and the symbols in order. -/
structure Code where
  counts : List Nat
  symbols : Array Nat

namespace Code

/-- The longest symbol of a code, in bits. -/
def longest : Nat := 15

/-- The code of symbols with the given lengths. A symbol of length zero is not used. -/
def ofLengths (lengths : List Nat) : Code :=
  let numbered := lengths.zipIdx
  let ofLength (n : Nat) : List Nat := (numbered.filter (·.1 = n)).map (·.2)
  let groups := (List.range longest).map fun n => ofLength (n + 1)
  ⟨groups.map List.length, groups.flatten.toArray⟩

/-- The next symbol, given how many symbols are left of each length, the bits read so far as
a number, the first number of the current length, and how many symbols are shorter. -/
def symbolAmong? (symbols : Array Nat) :
    List Nat → Nat → Nat → Nat → Bits → Option (Nat × Bits)
  | [], _, _, _, _ => none
  | count :: counts, sofar, first, shorter, b => do
    let (bit, b) ← b.bit?
    let sofar := sofar + bit
    if sofar < first + count then
      let symbol ← symbols[shorter + (sofar - first)]?
      return (symbol, b)
    else symbolAmong? symbols counts (sofar * 2) ((first + count) * 2) (shorter + count) b

/-- The next symbol. -/
def symbol? (code : Code) (b : Bits) : Option (Nat × Bits) :=
  symbolAmong? code.symbols code.counts 0 0 0 b

end Code

/-- The shortest length of each symbol for lengths, and how many bits are added to it. -/
def lengthTable : List (Nat × Nat) :=
  [(3, 0), (4, 0), (5, 0), (6, 0), (7, 0), (8, 0), (9, 0), (10, 0), (11, 1), (13, 1), (15, 1),
    (17, 1), (19, 2), (23, 2), (27, 2), (31, 2), (35, 3), (43, 3), (51, 3), (59, 3), (67, 4),
    (83, 4), (99, 4), (115, 4), (131, 5), (163, 5), (195, 5), (227, 5), (258, 0)]

/-- The shortest distance of each symbol for distances, and how many bits are added to it. -/
def distanceTable : List (Nat × Nat) :=
  [(1, 0), (2, 0), (3, 0), (4, 0), (5, 1), (7, 1), (9, 2), (13, 2), (17, 3), (25, 3), (33, 4),
    (49, 4), (65, 5), (97, 5), (129, 6), (193, 6), (257, 7), (385, 7), (513, 8), (769, 8),
    (1025, 9), (1537, 9), (2049, 10), (3073, 10), (4097, 11), (6145, 11), (8193, 12),
    (12289, 12), (16385, 13), (24577, 13)]

/-- The number that a row of a table gives. -/
def fromTable? (table : List (Nat × Nat)) (row : Nat) (b : Bits) : Option (Nat × Bits) := do
  let (least, count) ← table[row]?
  let (more, b) ← b.number? count
  return (least + more, b)

/-- Add a run of octets that was seen so far back. -/
def copyBack (distance : Nat) : Nat → ByteArray → ByteArray
  | 0, out => out
  | length + 1, out => copyBack distance length (out.push (out.get! (out.size - distance)))

/-- Add what the symbols of a block stand for. -/
def symbols? (lengths distances : Code) :
    Nat → Bits → ByteArray → Option (ByteArray × Bits)
  | 0, _, _ => none
  | fuel + 1, b, out => do
    let (symbol, b) ← lengths.symbol? b
    if symbol < 256 then symbols? lengths distances fuel b (out.push (UInt8.ofNat symbol))
    else if symbol = 256 then return (out, b)
    else
      let (length, b) ← fromTable? lengthTable (symbol - 257) b
      let (row, b) ← distances.symbol? b
      let (distance, b) ← fromTable? distanceTable row b
      if out.size < distance then none
      else symbols? lengths distances fuel b (copyBack distance length out)

/-- Add a block of octets that are told as they are. -/
def plainBlock? (b : Bits) (out : ByteArray) : Option (ByteArray × Bits) := do
  let (length, b) ← b.align.number? 16
  let (complement, b) ← b.number? 16
  if length + complement ≠ 0xFFFF then none
  else
    let (octets, b) ← b.octets? length
    return (out ++ octets, b)

/-- The code of blocks that do not tell their own. -/
def usualCodes : Code × Code :=
  (.ofLengths (List.replicate 144 8 ++ List.replicate 112 9 ++ List.replicate 24 7 ++
    List.replicate 8 8), .ofLengths (List.replicate 30 5))

/-- The order in which the lengths of the code for lengths are told. -/
def tellingOrder : List Nat :=
  [16, 17, 18, 0, 8, 7, 9, 6, 10, 5, 11, 4, 12, 3, 13, 2, 14, 1, 15]

/-- So many lengths of symbols, the latest first. Three of the symbols stand for repetitions. -/
def lengths? (code : Code) (wanted : Nat) :
    Nat → Bits → List Nat → Option (List Nat × Bits)
  | 0, _, _ => none
  | fuel + 1, b, told =>
    if wanted ≤ told.length then some (told, b)
    else do
      let (symbol, b) ← code.symbol? b
      match symbol with
      | 16 =>
        let (more, b) ← b.number? 2
        let last ← told.head?
        lengths? code wanted fuel b (List.replicate (3 + more) last ++ told)
      | 17 =>
        let (more, b) ← b.number? 3
        lengths? code wanted fuel b (List.replicate (3 + more) 0 ++ told)
      | 18 =>
        let (more, b) ← b.number? 7
        lengths? code wanted fuel b (List.replicate (11 + more) 0 ++ told)
      | length => lengths? code wanted fuel b (length :: told)

/-- So many numbers of three bits. -/
def threes? : Nat → Bits → Option (List Nat × Bits)
  | 0, b => some ([], b)
  | count + 1, b => do
    let (n, b) ← b.number? 3
    let (rest, b) ← threes? count b
    return (n :: rest, b)

/-- The codes that a block tells. -/
def toldCodes? (b : Bits) : Option ((Code × Code) × Bits) := do
  let (moreLengths, b) ← b.number? 5
  let (moreDistances, b) ← b.number? 5
  let (moreTold, b) ← b.number? 4
  let (told, b) ← threes? (moreTold + 4) b
  let placed := tellingOrder.zip told
  let code := Code.ofLengths ((List.range 19).map fun n => (placed.lookup n).getD 0)
  let wanted := moreLengths + 257 + moreDistances + 1
  let (lengths, b) ← lengths? code wanted (wanted + 1) b []
  if wanted < lengths.length then none
  else
    let inOrder := lengths.reverse
    return ((.ofLengths (inOrder.take (moreLengths + 257)),
      .ofLengths (inOrder.drop (moreLengths + 257))), b)

/-- Add blocks up to the one that is marked as the last. -/
def blocks? : Nat → Bits → ByteArray → Option (ByteArray × Bits)
  | 0, _, _ => none
  | fuel + 1, b, out => do
    let (last, b) ← b.bit?
    let (method, b) ← b.number? 2
    let (out, b) ←
      match method with
      | 0 => plainBlock? b out
      | 1 => symbols? usualCodes.1 usualCodes.2 (b.data.size * 8 + 1) b out
      | 2 => do
        let ((lengths, distances), b) ← toldCodes? b
        symbols? lengths distances (b.data.size * 8 + 1) b out
      | _ => none
    if last = 1 then return (out, b) else blocks? fuel b out

/-- Unpack compressed octets. -/
def inflate? (b : Bits) : Option (ByteArray × Bits) :=
  blocks? (b.data.size * 8 + 1) b ByteArray.empty

end ReleaseBuilder.Compression
