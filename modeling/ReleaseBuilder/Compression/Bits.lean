/-
# Bits of octets

Octets read bit by bit, the lowest bit of each octet first. Numbers are written with
their lowest bit first too.
-/

namespace ReleaseBuilder.Compression

/-- Octets, and how many of their bits have been read. -/
structure Bits where
  data : ByteArray
  position : Nat := 0

namespace Bits

/-- The next bit, as a number. -/
def bit? (b : Bits) : Option (Nat × Bits) :=
  if b.position / 8 < b.data.size then
    let octet := (b.data.get! (b.position / 8)).toNat
    some ((octet >>> (b.position % 8)) &&& 1, { b with position := b.position + 1 })
  else none

/-- A number of so many bits. -/
def number? : Nat → Bits → Option (Nat × Bits)
  | 0, b => some (0, b)
  | count + 1, b => do
    let (low, b) ← b.bit?
    let (high, b) ← number? count b
    return (low + 2 * high, b)

/-- Go on to where the next octet starts. -/
def align (b : Bits) : Bits :=
  { b with position := (b.position + 7) / 8 * 8 }

/-- So many octets, from where an octet starts. -/
def octets? (count : Nat) (b : Bits) : Option (ByteArray × Bits) :=
  let start := b.position / 8
  if start + count ≤ b.data.size then
    some (b.data.extract start (start + count), { b with position := (start + count) * 8 })
  else none

end Bits

end ReleaseBuilder.Compression
