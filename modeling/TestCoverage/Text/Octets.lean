/-
  TestCoverage.Text.Octets

  Bytes as the characters with the same numbers, so that text of which only the ASCII
  characters matter can be read character by character whatever its encoding.
-/
import TestCoverage.Text.Utf8

namespace TestCoverage.Text

/-- One character for each byte. -/
def octets (bytes : Bytes) : List Char :=
  bytes.map fun b => Char.ofNat b.toNat

/-- One byte for each character, which has a number below 256. -/
def ofOctets (text : List Char) : Bytes :=
  text.map fun c => UInt8.ofNat c.toNat

/-- The characters of a text, one for each byte of its UTF-8 form. -/
def octetsOf (text : String) : List Char :=
  octets (Utf8.ofString text)

end TestCoverage.Text
