/-
# Compressed files

The container of compressed octets: a front with a mark, the packed octets, and behind
them a checksum and the size of what was packed. A file may hold several containers, one
after the other, and then stands for all that they hold.

Packing puts the octets into blocks as they are, which every unpacker takes.
-/

import ReleaseBuilder.Compression.Inflate

namespace ReleaseBuilder.Compression

/-- The checksum of an octet, by eight divisions of polynomials over bits. -/
def checksumStep : Nat → UInt32 → UInt32
  | 0, c => c
  | n + 1, c => checksumStep n (if c &&& 1 = 1 then (c >>> 1) ^^^ 0xEDB88320 else c >>> 1)

/-- The checksums of all octets. -/
def checksumTable : Array UInt32 :=
  ((List.range 256).map fun n => checksumStep 8 (UInt32.ofNat n)).toArray

/-- The checksum of octets. -/
def checksum (data : ByteArray) : UInt32 :=
  let step (c : UInt32) (b : UInt8) : UInt32 :=
    (c >>> 8) ^^^ checksumTable[((c ^^^ b.toUInt32) &&& 0xFF).toNat]!
  data.foldl step 0xFFFFFFFF ^^^ 0xFFFFFFFF

/-- A number in so many octets, the lowest first. -/
def lowFirst : Nat → Nat → List UInt8
  | 0, _ => []
  | count + 1, n => UInt8.ofNat n :: lowFirst count (n / 256)

/-- The most octets of a block that is told as it is. -/
def blockRoom : Nat := 65535

/-- Octets in blocks as they are. -/
def plainBlocks (data : ByteArray) : Nat → Nat → ByteArray → ByteArray
  | 0, _, out => out
  | fuel + 1, start, out =>
    let length := min blockRoom (data.size - start)
    let last := data.size ≤ start + length
    let front := (if last then 1 else 0) :: (lowFirst 2 length ++ lowFirst 2 (0xFFFF - length))
    let out := out ++ ⟨front.toArray⟩ ++ data.extract start (start + length)
    if last then out else plainBlocks data fuel (start + length) out

/-- The mark of compressed files. -/
def mark : List UInt8 := [0x1F, 0x8B]

/-- Whether octets start with the mark of compressed files. -/
def isMarked (data : ByteArray) : Bool :=
  (data.extract 0 2).toList = mark

/-- The front of a container that is told to come from a system of some number. Neither a name nor
a time is told. -/
def front (system : UInt8) : ByteArray :=
  ⟨(mark ++ [8, 0, 0, 0, 0, 0, 0, system]).toArray⟩

/-- Octets in a container. -/
def pack (data : ByteArray) (system : UInt8 := 3) : ByteArray :=
  let back := lowFirst 4 (checksum data).toNat ++ lowFirst 4 data.size
  plainBlocks data (data.size / blockRoom + 1) 0 (front system) ++ ⟨back.toArray⟩

/-- Go behind the next octet that is zero. -/
def skipText : Nat → Bits → Option Bits
  | 0, _ => none
  | fuel + 1, b => do
    let (octet, b) ← b.number? 8
    if octet = 0 then return b else skipText fuel b

/-- Go behind the front of a container: the mark, the only method there is, and the parts that
a set of flags tells of. -/
def skipFront (b : Bits) : Option Bits := do
  let (front, b) ← b.octets? 10
  let flags := (front.get! 3).toNat
  let has (bit : Nat) : Bool := (flags >>> bit) &&& 1 = 1
  if !isMarked front || front.get! 2 ≠ 8 || 32 ≤ flags then none
  else
    let b ← if has 2 then do
        let (length, b) ← b.number? 16
        let (_, b) ← b.octets? length
        pure b
      else pure b
    let b ← if has 3 then skipText (b.data.size + 1) b else pure b
    let b ← if has 4 then skipText (b.data.size + 1) b else pure b
    if has 1 then do
      let (_, b) ← b.octets? 2
      return b
    else return b

/-- What the container that starts here holds, and what follows it. The checksum and the size
must be right. -/
def container? (b : Bits) : Option (ByteArray × Bits) := do
  let b ← skipFront b
  let (held, b) ← inflate? b
  let (sum, b) ← b.align.number? 32
  let (size, b) ← b.number? 32
  if sum = (checksum held).toNat && size = held.size % 4294967296 then return (held, b) else none

/-- What the containers from here on hold. -/
def containers? : Nat → Bits → ByteArray → Option ByteArray
  | 0, _, _ => none
  | fuel + 1, b, out =>
    if b.data.size * 8 ≤ b.position then some out
    else do
      let (held, b) ← container? b
      containers? fuel b (out ++ held)

/-- What a compressed file holds. -/
def unpack? (data : ByteArray) : Option ByteArray :=
  containers? (data.size + 1) ⟨data, 0⟩ ByteArray.empty

end ReleaseBuilder.Compression
