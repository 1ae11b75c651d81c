import CaptureControl.Text.Charset.Basic
import CaptureControl.Text.Charset.Jisx0208
import CaptureControl.Text.Charset.Jisx0212
import CaptureControl.Text.Charset.Jisx0213
import CaptureControl.Text.Charset.VendorKanji

/-!
# Japanese charsets

Two ways to write the Japanese sets. In EUC the octets of a row and a cell have the high bit, and
lead octets of their own announce half-width kana and the supplementary set. In the shifted form two
rows share a lead octet, which makes room for half-width kana in single octets.
-/

namespace CaptureControl.Text.Charset

/-- The half-width kana of an octet. -/
def kana? (b : Nat) : Option Char :=
  if 0xA1 ≤ b ∧ b ≤ 0xDF then some (Char.ofNat (0xFEC0 + b)) else none

/-! ### JIS X 0213 -/

/-- The editions of JIS X 0213. -/
inductive Edition where
  /-- The first edition. -/
  | of2000
  /-- The second edition, with ten ideographs more in the first plane. -/
  | of2004
  deriving Repr, DecidableEq

/-- Whether the second edition has added the character in a cell of the first plane. -/
def isLate (row cell : Nat) : Bool :=
  [(14, 1), (15, 94), (47, 52), (47, 94), (84, 7), (94, 90), (94, 91), (94, 92), (94, 93),
    (94, 94)].contains (row, cell)

/-- The characters in a cell of the first plane. Where the first edition lacks one, the cell as a
whole is ill-formed. -/
def firstPlane? (edition : Edition) (row cell : Nat) : Option (List Char) :=
  if edition = .of2000 ∧ isLate row cell then some [replacement]
  else
    one (jisx0208.get? row cell) <|> one (jisx0213First.get? row cell)
      <|> (jisx0213Pairs.lookup (0x100 * (row + 0x20) + (cell + 0x20))).map String.toList

/-- The character in a cell of the second plane, one of which the second edition has changed. -/
def secondPlane? (edition : Edition) (row cell : Nat) : Option Char :=
  if edition = .of2000 ∧ row = 93 ∧ cell = 27 then some '\u9B1D' else jisx0213Second.get? row cell

/-! ### EUC -/

/-- The front of a text in EUC, given how three octets and two are looked up by row and cell. -/
def eucFront (triple : Nat → Nat → Option Char) (pair : Nat → Nat → Option (List Char)) (b : UInt8)
    (bs : List UInt8) : Front Unit :=
  if b = 0x8E then .pair (fun _ c => one (kana? c)) b bs
  else if b = 0x8F then
    match bs with
    | c :: d :: _ => .found 3 (one (triple (c.toNat - 0xA0) (d.toNat - 0xA0)))
    | _ => .unfinished
  else .pair (fun b c => pair (b - 0xA0) (c - 0xA0)) b bs

/-- EUC with JIS X 0208 and JIS X 0212. -/
def eucJapanese : Charset :=
  overAscii (eucFront jisx0212.get? fun row cell => one (jisx0208.get? row cell))

/-- EUC with JIS X 0213, and JIS X 0212 where the second plane is free. -/
def eucPlanes (edition : Edition) : Charset :=
  overAscii <| eucFront
    (fun row cell => secondPlane? edition row cell <|> jisx0212.get? row cell)
    (firstPlane? edition)

/-! ### Shifted form -/

/-- The row and the cell of two octets in the shifted form. -/
def shifted? (b c : Nat) : Option (Nat × Nat) :=
  if c < 0x40 ∨ c = 0x7F ∨ 0xFC < c then none
  else
    let lead := if b < 0xE0 then b - 0x81 else b - 0xC1
    let trail := if c < 0x80 then c - 0x40 else c - 0x41
    some (2 * lead + trail / 94 + 1, trail % 94 + 1)

/-- The front of a text in the shifted form, given how single octets are read and how two octets are
looked up by row and cell. -/
def shiftedFront (single : Nat → Option Char) (pair : Nat → Nat → Option (List Char)) (b : UInt8)
    (bs : List UInt8) : Front Unit :=
  match single b.toNat with
  | some c => .chars [c] 1 ()
  | none =>
    if (0x81 ≤ b ∧ b ≤ 0x9F) ∨ (0xE0 ≤ b ∧ b ≤ 0xFC) then
      .pair (fun b c => (shifted? b c).bind fun (row, cell) => pair row cell) b bs
    else .illFormed 1

/-- The characters of single octets: ASCII and half-width kana. -/
def shiftedSingle (b : Nat) : Option Char :=
  if b < 0x80 then some (Char.ofNat b) else kana? b

/-- Shift JIS. -/
def shiftJis : Charset :=
  ofFront (shiftedFront shiftedSingle fun row cell => one (jisx0208.get? row cell))

/-- The characters of single octets in the vendor page, which uses every octet. -/
def vendorSingle (b : Nat) : Option Char :=
  if b = 0x80 then some '\x80'
  else if b = 0xA0 then some '\uF8F0'
  else if 0xFD ≤ b then some (Char.ofNat (0xF8F1 + (b - 0xFD)))
  else shiftedSingle b

/-- The characters of the vendor page: its own, those of JIS X 0208, and twenty rows for private
use. -/
def vendorPair (row cell : Nat) : Option Char :=
  vendorKanji.get? row cell <|> jisx0208.get? row cell
    <|> if 95 ≤ row ∧ row ≤ 114 then some (Char.ofNat (0xE000 + 94 * (row - 95) + (cell - 1)))
      else none

/-- Code page 932: Japanese. -/
def windows932 : Charset :=
  ofFront (shiftedFront vendorSingle fun row cell => one (vendorPair row cell))

/-- The characters of single octets with the Roman letters of JIS X 0201. -/
def romanSingle (b : Nat) : Option Char :=
  if b = 0x5C then some '¥' else if b = 0x7E then some '‾' else shiftedSingle b

/-- The rows of the second plane, in the order in which the shifted form appends them to the
first. -/
def appendedRows : List Nat :=
  [1, 8, 3, 4, 5, 12, 13, 14, 15] ++ List.range' 78 17

/-- Shift JIS with JIS X 0213. The backslash and the tilde, which have no single octets, are the
usual ones. -/
def shiftPlanes (edition : Edition) : Charset :=
  ofFront <| shiftedFront romanSingle fun row cell =>
    if row ≤ 94 then
      if row = 1 ∧ cell = 32 then some ['\\']
      else if row = 2 ∧ cell = 18 then some ['~']
      else firstPlane? edition row cell
    else (appendedRows[row - 95]?).bind fun row => one (secondPlane? edition row cell)

end CaptureControl.Text.Charset
