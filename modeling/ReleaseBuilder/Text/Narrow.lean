/-
# Narrow texts

A text in which every character stands for one octet. File systems and the programs of a
machine look at texts in this form: they know octets, and nothing of the characters that
octets spell. So a name that is not UTF-8 is a narrow text like any other, and it is only
where it is shown that it cannot be told as it is.
-/

import ReleaseBuilder.Text.Utf8

namespace ReleaseBuilder.Text

/-- The character that stands for an octet. -/
def ofOctet (octet : UInt8) : Char := Char.ofNat octet.toNat

/-- The octet that a character of a narrow text stands for. Any other character is taken for an
octet that no text is spelled with. -/
def octetOf (c : Char) : UInt8 :=
  if c.toNat ≤ 0xFF then UInt8.ofNat c.toNat else 0xFF

/-- The narrow text of octets. -/
def narrowOf (octets : ByteArray) : String :=
  octets.foldl (fun s b => s.push (ofOctet b)) ""

/-- The octets of a narrow text. -/
def octetsOf (narrow : String) : ByteArray :=
  narrow.foldl (fun octets c => octets.push (octetOf c)) ByteArray.empty

/-- The narrow text of the octets that spell a text. It is irreducible, as to compare two paths
one would spell them out otherwise. -/
@[irreducible] def narrow (s : String) : String :=
  String.ofList ((s.toList.flatMap String.utf8EncodeChar).map ofOctet)

/-- The text that a narrow text shows as, with the replacement character for every part of
its octets that is not UTF-8. -/
def widen (s : String) : String :=
  String.ofList ((readings (s.toList.map octetOf)).map (·.getD '\uFFFD'))

example : narrow "é" = "Ã©" := by decide +kernel

example : widen "b\u00ffc" = "b\uFFFDc" := by decide

end ReleaseBuilder.Text
