import CaptureControl.Text.Charset.Basic
import CaptureControl.Text.Charset.Big5Table
import CaptureControl.Text.Charset.Gb2312
import CaptureControl.Text.Charset.GbExtensions
import CaptureControl.Text.Charset.Hkscs

/-!
# Chinese charsets

GB 2312 and the charsets that contain it, for simplified ideographs, and Big5 and the charsets that
contain it, for traditional ones.
-/

namespace CaptureControl.Text.Charset

/-! ### GB -/

/-- EUC with GB 2312. -/
def eucChinese : Charset :=
  overAscii (.pair fun b c => one (gb2312.at? 0xA0 b c))

/-- The ideographs of the first block that GB 2312 lacks, in order. -/
def furtherIdeographs : Array Char :=
  gb2312.lacking 0x4E00 0x51A6

/-- The place of two octets in the two areas for further ideographs. -/
def ideographIndex? (b c : Nat) : Option Nat :=
  let trail := if c < 0x7F then c - 0x40 else c - 0x41
  if c < 0x40 ∨ c = 0x7F ∨ 0xFE < c then none
  else if 0x81 ≤ b ∧ b ≤ 0xA0 then some (190 * (b - 0x81) + trail)
  else if 0xAA ≤ b ∧ b ≤ 0xFE ∧ c ≤ 0xA0 then some (190 * 32 + 96 * (b - 0xAA) + trail)
  else none

/-- The character of two octets in GBK. -/
def gbkPair? (b c : Nat) : Option Char :=
  charInRuns? gbkSymbols (0x100 * b + c) <|> gb2312.at? 0xA0 b c
    <|> (ideographIndex? b c).bind fun n => furtherIdeographs[n]?

/-- GBK. -/
def gbk : Charset :=
  overAscii (.pair fun b c => one (gbkPair? b c))

/-- The character of four octets in GB 18030. The first and the third go from 0x81 to 0xFE, and the
others are digits; the characters below U+10000 come first, and after a gap all others. -/
def gb18030Quad? (b c d e : Nat) : Option Char :=
  if b < 0x81 ∨ 0xFE < b ∨ d < 0x81 ∨ 0xFE < d ∨ e < 0x30 ∨ 0x39 < e then none
  else
    let number := ((10 * (b - 0x81) + (c - 0x30)) * 126 + (d - 0x81)) * 10 + (e - 0x30)
    if number < 189000 then charInRuns? gb18030Quads number
    else if number < 189000 + 0x100000 then some (Char.ofNat (0x10000 + (number - 189000)))
    else none

/-- The front of a text in GB 18030: a digit in the second place announces four octets. -/
def gb18030Front (b : UInt8) : List UInt8 → Front Unit
  | [] => .unfinished
  | c :: bs =>
    if 0x30 ≤ c ∧ c ≤ 0x39 then
      match bs with
      | d :: e :: _ => .found 4 (one (gb18030Quad? b.toNat c.toNat d.toNat e.toNat))
      | _ => .unfinished
    else
      .found 2 <| one <|
        gbkPair? b.toNat c.toNat <|> charInRuns? gb18030Pairs (0x100 * b.toNat + c.toNat)

/-- GB 18030. -/
def gb18030 : Charset :=
  overAscii gb18030Front

/-! ### Big5 -/

/-- The cell of a trail octet in Big5. -/
def big5Cell? (c : Nat) : Option Nat :=
  if 0x40 ≤ c ∧ c ≤ 0x7E then some (c - 0x40 + 1)
  else if 0xA1 ≤ c ∧ c ≤ 0xFE then some (c - 0xA1 + 64)
  else none

/-- The character of two octets in a set of the layout of Big5. -/
def big5At? (set : Grid) (b c : Nat) : Option Char :=
  (big5Cell? c).bind fun cell => set.get? b cell

/-- Big5. -/
def big5 : Charset :=
  overAscii (.pair fun b c => one (big5At? big5Table b c))

/-- The symbols and ideographs that code page 950 has otherwise than Big5, or beside it. -/
def windows950Own : Grid where
  stretches := [
    ⟨0xA1, 6, "‧"⟩,
    ⟨0xA1, 15, "﹑"⟩,
    ⟨0xA1, 97, "¯"⟩,
    ⟨0xA1, 130, "～"⟩,
    ⟨0xA1, 145, "⊕⊙"⟩,
    ⟨0xA2, 2, "∕﹨"⟩,
    ⟨0xA2, 5, "￥"⟩,
    ⟨0xA2, 7, "￠￡"⟩,
    ⟨0xA3, 128, "€"⟩,
    ⟨0xF9, 117, "碁銹裏墻恒粧嫺╔╦╗╠╬╣╚╩╝╒╤╕╞╪╡╘╧╛╓╥╖╟╫╢╙╨╜║═╭╮╰╯▓"⟩]

/-- Code page 950: traditional Chinese. -/
def windows950 : Charset :=
  overAscii (.pair fun b c => one (big5At? windows950Own b c <|> big5At? big5Table b c))

/-- The characters of two octets in Big5 with the Hong Kong supplement, which replaces Big5 from
0xC6A1 to 0xC8FE. -/
def big5HongKongPair? (b c : Nat) : Option (List Char) :=
  let code := 0x100 * b + c
  (if 0xC6A1 ≤ code ∧ code ≤ 0xC8FE then none else one (big5At? big5Table b c))
    <|> one (big5At? hkscs b c) <|> (hkscsPairs.lookup code).map String.toList

/-- Big5 with the Hong Kong supplement. -/
def big5HongKong : Charset :=
  overAscii (.pair big5HongKongPair?)

end CaptureControl.Text.Charset
