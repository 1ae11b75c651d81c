import CaptureControl.Text.Printable

/-!
# Quoted text

The form in which messages and logs quote texts and octet strings. The quote is a single one unless
the content has a single quote and no double one. Inside, the backslash and the quote are escaped,
line breaks and tabs have short escapes, and what cannot be shown is written by its code. A form may
ask for more characters to be escaped: that of writable octet strings escapes every single quote.
-/

namespace CaptureControl.Text

/-- The quote around a content. -/
def quoteFor (cs : List Char) : Char :=
  if cs.contains '\'' && !cs.contains '"' then '"' else '\''

/-- A number in base sixteen, in lower case, filled with zeros to a width. -/
def hexDigits (width n : Nat) : List Char :=
  let digits := Nat.toDigits 16 n
  List.replicate (width - digits.length) '0' ++ digits

/-- The escape of a character by its code point: two, four or eight digits, whichever suffices. -/
def escapeByCode (c : Char) : List Char :=
  if c.toNat < 0x100 then '\\' :: 'x' :: hexDigits 2 c.toNat
  else if c.toNat < 0x10000 then '\\' :: 'u' :: hexDigits 4 c.toNat
  else '\\' :: 'U' :: hexDigits 8 c.toNat

/-- A character inside quotes; `marked` are the characters that a backslash goes before, and `plain`
the ones that stand for themselves. -/
def escape (plain marked : Char → Bool) (c : Char) : List Char :=
  if marked c || c = '\\' then ['\\', c]
  else if c = '\n' then ['\\', 'n']
  else if c = '\r' then ['\\', 'r']
  else if c = '\t' then ['\\', 't']
  else if plain c then [c]
  else escapeByCode c

/-- A content between quotes; besides the quote, `marked` characters are escaped too. -/
def quoteBy (plain marked : Char → Bool) (cs : List Char) : List Char :=
  let quote := quoteFor cs
  quote :: cs.flatMap (escape plain fun c => c = quote || marked c) ++ [quote]

/-- A text between quotes. -/
def quoted (s : String) : String :=
  String.ofList (quoteBy isPrintable (fun _ => false) s.toList)

/-- Octets between quotes: those outside printable ASCII are written by their codes. -/
def quoteOctets (marked : Char → Bool) (octets : List UInt8) : String :=
  String.ofList <| 'b' :: quoteBy (fun c => 0x20 ≤ c.toNat && c.toNat ≤ 0x7E) marked
    (octets.map fun b => Char.ofNat b.toNat)

/-- An octet string between quotes. -/
def quotedOctets (octets : List UInt8) : String :=
  quoteOctets (fun _ => false) octets

/-- A writable octet string between quotes, in which a single quote is escaped even where a double
one is the quote. -/
def quotedBuffer (octets : List UInt8) : String :=
  quoteOctets (· = '\'') octets

end CaptureControl.Text
