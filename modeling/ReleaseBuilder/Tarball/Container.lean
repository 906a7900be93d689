/-
# The container of an archive

How the entries of an archive are laid out in octets. Everything stands in blocks of 512
octets: a header for each entry, then what the entry holds. A name for which a header has
no room stands in an entry of its own before the one it names. Two empty blocks end the
archive, and it is filled up to a whole number of records of twenty blocks.

Names are narrow texts here.
-/

import ReleaseBuilder.Tarball.Entry
import ReleaseBuilder.Text.Narrow

namespace ReleaseBuilder.Tarball

/-- The octets of a block. -/
def blockSize : Nat := 512

/-- The octets of a record. -/
def recordSize : Nat := 20 * blockSize

/-- Zeros that fill something up to a whole number of units. -/
def filling (unit size : Nat) : ByteArray :=
  ⟨Array.replicate ((unit - size % unit) % unit) 0⟩

/-- A text in a field of a header: cut, or filled with zeros. -/
def field (room : Nat) (s : String) : ByteArray :=
  let octets := (Text.octetsOf s).extract 0 room
  octets ++ ⟨Array.replicate (room - octets.size) 0⟩

/-- A number in a field of a header: octal digits, and a zero octet behind them. -/
def numberField (room n : Nat) : ByteArray :=
  let digits := Nat.toDigits 8 n
  field room (String.ofList (List.replicate (room - 1 - digits.length) '0' ++ digits))

/-- What a header tells. -/
structure Header where
  name : String
  mode : Nat
  size : Nat
  kind : Char
  target : String

namespace Header

/-- What stands behind the checksum of a header. -/
def back (h : Header) : ByteArray :=
  let known := field 1 (String.singleton h.kind) ++ field 100 h.target ++ field 8 "ustar  "
  known ++ field (blockSize - 156 - known.size) ""

/-- What stands before the checksum of a header. Owner and time are not told. -/
def front (h : Header) : ByteArray :=
  field 100 h.name ++ numberField 8 h.mode ++ numberField 8 0 ++ numberField 8 0 ++
    numberField 12 h.size ++ numberField 12 0

/-- The sum of octets. -/
def sum (octets : ByteArray) : Nat :=
  octets.foldl (fun n b => n + b.toNat) 0

/-- The block of a header. Its checksum counts its own place as blanks. -/
def block (h : Header) : ByteArray :=
  let total := sum h.front + 8 * 32 + sum h.back
  h.front ++ numberField 7 total ++ field 1 " " ++ h.back

end Header

/-- The name of an entry that holds a name or a target for the one after it. -/
def longName : String := "././@LongLink"

/-- The blocks of a text for which a header has no room. -/
def longText (kind : Char) (s : String) : ByteArray :=
  if s.length < 100 then ByteArray.empty
  else
    let held := field (s.length + 1) s
    (Header.block ⟨longName, 0o644, held.size, kind, ""⟩) ++ held ++ filling blockSize held.size

/-- The blocks of an entry. -/
def blocksOf (e : Entry) : ByteArray :=
  let (name, kind, target, held) :=
    match e.kind with
    | .file data => (e.name, '0', "", data)
    | .directory => (e.name ++ "/", '5', "", ByteArray.empty)
    | .link target => (e.name, '2', target, ByteArray.empty)
    | .sameAs other => (e.name, '1', other, ByteArray.empty)
  longText 'K' target ++ longText 'L' name ++
    Header.block ⟨name, e.mode, held.size, kind, target⟩ ++ held ++ filling blockSize held.size

/-- What stands behind the last entry of an archive of a size. -/
def ending (size : Nat) : ByteArray :=
  let empty : ByteArray := ⟨Array.replicate (2 * blockSize) 0⟩
  empty ++ filling recordSize (size + empty.size)

/-- The octets of an archive. -/
def octetsOf (entries : List Entry) : ByteArray :=
  let blocks := entries.foldl (fun out e => out ++ blocksOf e) ByteArray.empty
  blocks ++ ending blocks.size

/-! ## Reading -/

/-- The text of a field: up to the first zero. -/
def textOf (octets : ByteArray) : String :=
  String.ofList ((Text.narrowOf octets).toList.takeWhile (· ≠ '\x00'))

/-- The number of a field: its octal digits, or octets with a mark at their front. -/
def numberOf (octets : ByteArray) : Nat :=
  if 0 < octets.size && 0x80 ≤ octets.get! 0 then
    (octets.toList.drop 1).foldl (fun n b => n * 256 + b.toNat) 0
  else
    let digits := ((textOf octets).toList.dropWhile (· = ' ')).takeWhile fun c =>
      '0' ≤ c && c ≤ '7'
    digits.foldl (fun n c => n * 8 + (c.toNat - '0'.toNat)) 0

/-- Texts that were told for the next entry in place of those in its header. -/
structure Told where
  name : Option String := none
  target : Option String := none

/-- The records of an entry that tells about the next one: each a length, a name and a value. -/
def recordsOf : Nat → List Char → List (String × String)
  | 0, _ | _, [] => []
  | fuel + 1, cs =>
    let digits := cs.takeWhile Char.isDigit
    let length := digits.foldl (fun n c => n * 10 + (c.toNat - '0'.toNat)) 0
    let record := (cs.take length).drop (digits.length + 1)
    let name := record.takeWhile (· ≠ '=')
    let value := (record.drop (name.length + 1)).dropLast
    if length = 0 then []
    else (String.ofList name, String.ofList value) :: recordsOf fuel (cs.drop length)

/-- A name without separators at its end. -/
def withoutSlash (name : String) : String :=
  String.ofList (name.toList.reverse.dropWhile (· = '/')).reverse

/-- What a header stands for, with what was told before it. -/
def entryOf (block held : ByteArray) (told : Told) : Entry :=
  let front := textOf (block.extract 345 500)
  let short := textOf (block.extract 0 100)
  let isPlain := (block.extract 257 263).toList = (Text.octetsOf "ustar\x00").toList
  let name := told.name.getD (if isPlain && !front.isEmpty then front ++ "/" ++ short else short)
  let target := told.target.getD (textOf (block.extract 157 257))
  let mode := numberOf (block.extract 100 108) % 4096
  match Char.ofNat (block.get! 156).toNat with
  | '5' => ⟨withoutSlash name, mode, .directory⟩
  | '2' => ⟨name, mode, .link target⟩
  | '1' => ⟨name, mode, .sameAs target⟩
  | _ =>
    if name.endsWith "/" then ⟨withoutSlash name, mode, .directory⟩ else ⟨name, mode, .file held⟩

/-- The entries from an octet on, as far as headers can be read, and whether that is all of the
archive. -/
def entriesFrom (data : ByteArray) : Nat → Nat → Told → List Entry × Bool
  | 0, _, _ => ([], true)
  | fuel + 1, start, told =>
    let block := data.extract start (start + blockSize)
    if block.size = 0 then ([], true)
    else if block.size < blockSize then ([], false)
    else if block.toList.all (· = 0) then ([], true)
    else
      let sum := Header.sum (block.extract 0 148) + 256 + Header.sum (block.extract 156 blockSize)
      if sum ≠ numberOf (block.extract 148 156) then ([], false)
      else
        let size := numberOf (block.extract 124 136)
        let kind := Char.ofNat (block.get! 156).toNat
        let held := data.extract (start + blockSize) (start + blockSize + size)
        let next := start + blockSize + (size + blockSize - 1) / blockSize * blockSize
        if kind = 'L' then entriesFrom data fuel next { told with name := some (textOf held) }
        else if kind = 'K' then
          entriesFrom data fuel next { told with target := some (textOf held) }
        else if kind = 'x' then
          let records := recordsOf (held.size + 1) (Text.narrowOf held).toList
          entriesFrom data fuel next
            { name := (records.lookup "path").or told.name
              target := (records.lookup "linkpath").or told.target }
        else if kind = 'g' then entriesFrom data fuel next told
        else
          let sized := kind ≠ '1' && kind ≠ '2' && kind ≠ '5'
          let (rest, whole) :=
            entriesFrom data fuel (if sized then next else start + blockSize) {}
          (entryOf block (if sized then held else ByteArray.empty) told :: rest, whole)

/-- The entries of an archive, as far as it can be read, and whether that is all of it. -/
def entriesOf (data : ByteArray) : List Entry × Bool :=
  entriesFrom data (data.size / blockSize + 1) 0 {}

end ReleaseBuilder.Tarball
