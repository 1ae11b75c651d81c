/-!
# Reading UTF-8

A reader of UTF-8 that never fails: each longest ill-formed stretch that could still have begun a
character is read as one replacement character. Lead octets fix how many octets follow and which
range the first of these has, which keeps out overlong forms, surrogates and codes past the last
code point.
-/

namespace CaptureControl.Text

/-- The replacement character, which stands for ill-formed input. -/
def replacement : Char := '\uFFFD'

/-- What a lead octet announces: how many octets follow, the payload of the lead itself, and the
least and greatest value of the octet that follows first. -/
structure Lead where
  /-- The number of octets that follow. -/
  owed : Nat
  /-- The bits of the character that the lead octet carries. -/
  payload : Nat
  /-- The least value of the next octet. -/
  least : Nat
  /-- The greatest value of the next octet. -/
  greatest : Nat
  deriving Repr, DecidableEq

/-- The reading of a lead octet of a longer form. -/
def Lead.ofOctet? (b : Nat) : Option Lead :=
  if 0xC2 ≤ b && b ≤ 0xDF then some ⟨1, b - 0xC0, 0x80, 0xBF⟩
  else if b = 0xE0 then some ⟨2, 0, 0xA0, 0xBF⟩
  else if b = 0xED then some ⟨2, 0xD, 0x80, 0x9F⟩
  else if 0xE1 ≤ b && b ≤ 0xEF then some ⟨2, b - 0xE0, 0x80, 0xBF⟩
  else if b = 0xF0 then some ⟨3, 0, 0x90, 0xBF⟩
  else if 0xF1 ≤ b && b ≤ 0xF3 then some ⟨3, b - 0xF0, 0x80, 0xBF⟩
  else if b = 0xF4 then some ⟨3, 4, 0x80, 0x8F⟩
  else none

/-- Reads octets from between characters (`none`) or inside a character that still owes some. -/
def readUtf8From : Option Lead → List UInt8 → List Char
  | none, [] => []
  | some _, [] => [replacement]
  | none, b :: bs =>
    if b.toNat < 0x80 then Char.ofNat b.toNat :: readUtf8From none bs
    else match Lead.ofOctet? b.toNat with
      | some lead => readUtf8From (some lead) bs
      | none => replacement :: readUtf8From none bs
  | some lead, b :: bs =>
    if lead.least ≤ b.toNat && b.toNat ≤ lead.greatest then
      let payload := lead.payload * 0x40 + (b.toNat - 0x80)
      if lead.owed ≤ 1 then Char.ofNat payload :: readUtf8From none bs
      else readUtf8From (some ⟨lead.owed - 1, payload, 0x80, 0xBF⟩) bs
    else if b.toNat < 0x80 then replacement :: Char.ofNat b.toNat :: readUtf8From none bs
    else match Lead.ofOctet? b.toNat with
      | some next => replacement :: readUtf8From (some next) bs
      | none => replacement :: replacement :: readUtf8From none bs

/-- Reads octets as UTF-8, with replacement characters for what is ill-formed. -/
def readUtf8 (octets : List UInt8) : String :=
  String.ofList (readUtf8From none octets)

end CaptureControl.Text
