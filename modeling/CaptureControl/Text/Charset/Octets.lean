import CaptureControl.Text.Charset.Basic

/-!
# Charsets of single octets

In a code page every octet stands for a character or for none. The pages are given by the characters
in which they differ; the replacement character marks an octet without character.
-/

namespace CaptureControl.Text.Charset

/-- The charset of a page of 256 characters. -/
def ofPage (char : Nat → Char) : Charset where
  read? octets := some (octets.map fun b => char b.toNat)

/-- The first 256 characters. -/
def latin1 : Charset := ofPage Char.ofNat

/-- The first 128 characters. -/
def ascii : Charset := ofPage fun b => if b < 0x80 then Char.ofNat b else replacement

/-- The page with other characters from some octet on. -/
def pageFrom (first : Nat) (cells : Array Char) (b : Nat) : Char :=
  if b < first then Char.ofNat b else cells.getD (b - first) replacement

/-- ASCII, and these characters in the upper half. -/
def upperHalf (text : String) : Charset :=
  ofPage (pageFrom 0x80 text.toList.toArray)

/-- The first rows of Latin-1, and these characters in the six last rows. -/
def upperRows (text : String) : Charset :=
  ofPage (pageFrom 0xA0 text.toList.toArray)

/-- The page of an upper half in which the percent sign is the Arabic one. -/
def withPercent (text : String) : Charset :=
  let cells := text.toList.toArray
  ofPage fun b => if b = 0x25 then '\u066A' else pageFrom 0x80 cells b

/-- The controls in the first four rows of EBCDIC. -/
def ebcdicControls : Array Char :=
  #[0x00, 0x01, 0x02, 0x03, 0x9C, 0x09, 0x86, 0x7F, 0x97, 0x8D, 0x8E, 0x0B, 0x0C, 0x0D, 0x0E, 0x0F,
    0x10, 0x11, 0x12, 0x13, 0x9D, 0x85, 0x08, 0x87, 0x18, 0x19, 0x92, 0x8F, 0x1C, 0x1D, 0x1E, 0x1F,
    0x80, 0x81, 0x82, 0x83, 0x84, 0x0A, 0x17, 0x1B, 0x88, 0x89, 0x8A, 0x8B, 0x8C, 0x05, 0x06, 0x07,
    0x90, 0x91, 0x16, 0x93, 0x94, 0x95, 0x96, 0x04, 0x98, 0x99, 0x9A, 0x9B, 0x14, 0x15, 0x9E,
    0x1A].map Char.ofNat

/-- The controls of EBCDIC, and these characters between them. -/
def ebcdic (text : String) : Charset :=
  let cells := ebcdicControls ++ text.toList.toArray ++ #['\x9f']
  ofPage fun b => cells.getD b replacement


end CaptureControl.Text.Charset
