/-
# Texts as octets

UTF-8 read one octet at a time. An octet either completes a character, continues one
that is still open, or shows that the open part can never become a character; in the
last case that part is over, and the octet itself is looked at afresh. So a sequence of
octets reads as a list of characters with a gap for every longest part that is not
UTF-8. Strict reading refuses a gap, lenient reading puts the replacement character in
its place.
-/

namespace ReleaseBuilder.Text

/-- A character whose first octets have been seen: how many octets it still owes, between
which bounds the next one must lie, and the bits gathered so far. -/
structure OpenChar where
  owed : Nat
  least : Nat
  greatest : Nat
  bits : Nat
  deriving DecidableEq

/-- What a first octet tells. -/
inductive Lead where
  | whole (c : Char)
  | opening (state : OpenChar)
  | never
  deriving DecidableEq

/-- The table of first octets. The narrower bounds after `E0`, `ED`, `F0` and `F4` keep out
overlong forms, surrogates and numbers beyond the last character. -/
def Lead.ofOctet (b : Nat) : Lead :=
  if b ≤ 0x7F then .whole (Char.ofNat b)
  else if b < 0xC2 then .never
  else if b ≤ 0xDF then .opening ⟨1, 0x80, 0xBF, b - 0xC0⟩
  else if b = 0xE0 then .opening ⟨2, 0xA0, 0xBF, b - 0xE0⟩
  else if b = 0xED then .opening ⟨2, 0x80, 0x9F, b - 0xE0⟩
  else if b ≤ 0xEF then .opening ⟨2, 0x80, 0xBF, b - 0xE0⟩
  else if b = 0xF0 then .opening ⟨3, 0x90, 0xBF, b - 0xF0⟩
  else if b ≤ 0xF3 then .opening ⟨3, 0x80, 0xBF, b - 0xF0⟩
  else if b = 0xF4 then .opening ⟨3, 0x80, 0x8F, b - 0xF0⟩
  else .never

/-- The reading of the octets so far, last character first, and the character still open. -/
structure Reading where
  seen : List (Option Char) := []
  pending : Option OpenChar := none

namespace Reading

/-- An octet that begins a character. -/
def start (r : Reading) (b : Nat) : Reading :=
  match Lead.ofOctet b with
  | .whole c => { seen := some c :: r.seen }
  | .opening state => { seen := r.seen, pending := some state }
  | .never => { seen := none :: r.seen }

/-- One more octet. -/
def step (r : Reading) (octet : UInt8) : Reading :=
  let b := octet.toNat
  match r.pending with
  | none => r.start b
  | some state =>
    if state.least ≤ b ∧ b ≤ state.greatest then
      let bits := state.bits * 64 + (b - 0x80)
      if state.owed ≤ 1 then { seen := some (Char.ofNat bits) :: r.seen }
      else { r with pending := some ⟨state.owed - 1, 0x80, 0xBF, bits⟩ }
    else start { seen := none :: r.seen } b

/-- The characters and gaps in order; a character still open at the end is a gap. -/
def finish (r : Reading) : List (Option Char) :=
  match r.pending with
  | none => r.seen.reverse
  | some _ => (none :: r.seen).reverse

end Reading

/-- The characters of a sequence of octets, with a gap for every longest part that is not
UTF-8. -/
def readings (octets : List UInt8) : List (Option Char) :=
  (octets.foldl Reading.step {}).finish

/-- The text that the octets spell, if they are UTF-8 throughout. -/
def decode? (octets : ByteArray) : Option String :=
  let read := readings octets.toList
  if read.all Option.isSome then some (String.ofList (read.filterMap id)) else none

/-- The text that the octets spell, with the replacement character for every gap. -/
def decodeLenient (octets : ByteArray) : String :=
  String.ofList ((readings octets.toList).map fun c => c.getD '\uFFFD')

/-- The octets that spell a text. -/
def encode (s : String) : ByteArray :=
  s.toUTF8

example : (readings [0xE1, 0x80, 0xC3, 0x78, 0xE2]) = [none, none, some 'x', none] := by decide

example : (readings [0xED, 0xA0, 0x80]) = [none, none, none] := by decide

end ReleaseBuilder.Text
