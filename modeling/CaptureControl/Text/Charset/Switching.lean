import CaptureControl.Text.Charset.CodePage.Iso8859
import CaptureControl.Text.Charset.Gb2312
import CaptureControl.Text.Charset.Japanese
import CaptureControl.Text.Charset.Ksx1001

/-!
# Charsets that switch between sets

In seven bits, octets mean one set or another by what went before. HZ switches between ASCII and
GB 2312 with a tilde. The charsets of ISO 2022 designate sets by escape sequences; some switch
between two designated sets by shift controls, and one takes a single character from a third.
-/

namespace CaptureControl.Text.Charset

/-! ### HZ -/

/-- The front of a text in HZ; the state tells whether octets mean GB 2312. -/
def hzFront (gb : Bool) (b : UInt8) (bs : List UInt8) : Front Bool :=
  if b = 0x7E then
    match bs with
    | [] => .unfinished
    | c :: _ =>
      match gb, Char.ofNat c.toNat with
      | false, '~' => .chars ['~'] 2 false
      | false, '\n' => .chars [] 2 false
      | false, '\x7b' => .chars [] 2 true
      | true, '\x7d' => .chars [] 2 false
      | _, _ => .illFormed 1
  else if 0x80 ≤ b then .illFormed 1
  else if gb then
    match bs with
    | [] => .unfinished
    | c :: _ =>
      match gb2312.at? 0x20 b.toNat c.toNat with
      | some char => .chars [char] 2 true
      | none => .illFormed 1
  else .chars [Char.ofNat b.toNat] 1 false

/-- HZ. -/
def hz : Charset :=
  ofReader { start := false, front := hzFront }

/-! ### Sets of ISO 2022 -/

/-- A set that an escape sequence designates. -/
structure Designated where
  /-- Whether two octets stand for a character. -/
  double : Bool
  /-- The last character of its escape sequences. -/
  mark : Char
  /-- The characters of one octet or two. -/
  get? : Nat → Nat → Option (List Char)

namespace Designated

/-- A set of single octets. -/
def single (mark : Char) (get? : Nat → Option Char) : Designated :=
  ⟨false, mark, fun b _ => one (get? b)⟩

/-- A set of two octets. -/
def grid (mark : Char) (set : Grid) : Designated :=
  ⟨true, mark, fun b c => one (set.at? 0x20 b c)⟩

/-- A set of two octets, given how characters are looked up by row and cell. -/
def plane (mark : Char) (get? : Nat → Nat → Option (List Char)) : Designated :=
  ⟨true, mark, fun b c => get? (b - 0x20) (c - 0x20)⟩

/-- The Roman letters of JIS X 0201. -/
def roman : Designated := single 'J' romanSingle

/-- The kana of JIS X 0201. -/
def kana : Designated := single 'I' fun b => kana? (b + 0x80)

/-- JIS X 0208, and its first edition, which is read alike. -/
def kanji : List Designated := [grid 'B' jisx0208, grid '@' jisx0208]

/-- JIS X 0212. -/
def supplement : Designated := grid 'D' jisx0212

/-- JIS X 0213. -/
def planes (edition : Edition) : List Designated :=
  [grid 'B' jisx0208,
    plane (match edition with
      | .of2000 => 'O'
      | .of2004 => 'Q') (firstPlane? edition),
    plane 'P' fun row cell => one (secondPlane? edition row cell)]

/-- The right half of Latin-1, read with the high bit. -/
def latin : Designated := single 'A' fun b =>
  if b < 0x80 then some (Char.ofNat (b + 0x80)) else none

/-- The right half of the Greek part of ISO 8859 as of 1987. -/
def greek : Designated := single 'F' fun b =>
  if [0x24, 0x25, 0x2A].contains b then none
  else ((iso8859Part7.read? [UInt8.ofNat ((b + 0x80) % 0x100)]).bind List.head?).filter
    fun c => c ≠ replacement

end Designated

/-! ### ISO 2022 -/

/-- A charset of ISO 2022. -/
structure Iso2022 where
  /-- The sets that can be designated. -/
  sets : List Designated
  /-- Whether the shift controls switch between two sets. -/
  shifts : Bool
  /-- Whether a third set is there for single characters. -/
  third : Bool
  /-- Whether an announcement may stand before the escape sequence of JIS X 0208. -/
  announces : Bool

/-- The sets in force; no set means ASCII. -/
structure Designations where
  /-- The set that is used. -/
  g0 : Option Designated
  /-- The set that is used after a shift. -/
  g1 : Option Designated
  /-- The set for single characters. -/
  g2 : Option Designated
  /-- Whether the second set is used. -/
  shifted : Bool
  /-- Whether an unknown escape sequence is being passed on. -/
  passing : Bool

/-- Whether an octet ends an escape sequence. -/
def endsEscape (b : UInt8) : Bool :=
  0x40 ≤ b && b ≤ 0x5A

/-- How far an escape sequence goes. -/
inductive Extent where
  /-- It has so many octets. -/
  | octets (n : Nat)
  /-- The text ends before it. -/
  | unfinished
  /-- It is too long. -/
  | endless
  deriving Repr, DecidableEq

/-- The most octets that an escape sequence can have. -/
def escapeLimit : Nat := 16

/-- How far an escape sequence goes of which some octets have been seen. An announcement, of which
some octets may be left to skip, is part of it. -/
def extent (announces : Bool) (seen skip : Nat) : List UInt8 → Extent
  | [] => if seen + skip < escapeLimit then .unfinished else .endless
  | b :: bs =>
    match skip with
    | n + 1 => extent announces (seen + 1) n bs
    | 0 =>
      if escapeLimit ≤ seen then .endless
      else if endsEscape b then .octets (seen + 1)
      else if announces && b == 0x26 && bs.head? == some 0x40 then
        extent announces (seen + 1) 2 bs
      else extent announces (seen + 1) 0 bs

/-- The most octets of an unfinished escape sequence that are kept. -/
def keptLimit : Nat := 8

namespace Iso2022

/-- The set with a mark; the mark of ASCII is that of no set. -/
def set? (config : Iso2022) (double : Bool) (mark : Char) : Option (Option Designated) :=
  if double = false ∧ mark = 'B' then some none
  else (config.sets.find? fun s => s.double = double ∧ s.mark = mark).map some

/-- What a complete escape sequence designates, given its octets after the first. -/
def designate? (config : Iso2022) (s : Designations) (octets : List UInt8) : Option Designations :=
  match octets.map fun b => Char.ofNat b.toNat with
  | ['$', mark] => (config.set? true mark).map fun set => { s with g0 := set }
  | ['(', mark] => (config.set? false mark).map fun set => { s with g0 := set }
  | [')', mark] => (config.set? false mark).map fun set => { s with g1 := set }
  | ['.', mark] =>
    if config.third then (config.set? false mark).map fun set => { s with g2 := set } else none
  | ['$', '(', mark] => (config.set? true mark).map fun set => { s with g0 := set }
  | ['$', ')', mark] => (config.set? true mark).map fun set => { s with g1 := set }
  | [_, _, '\x1b', '$', 'B'] =>
    if config.announces then (config.set? true 'B').map fun set => { s with g0 := set } else none
  | _ => none

/-- The front of an escape sequence, given the octets after the first. -/
def escapeFront (config : Iso2022) (s : Designations) (bs : List UInt8) : Front Designations :=
  match extent config.announces 1 0 bs with
  | .endless => .illFormed 1
  | .unfinished => if keptLimit < bs.length + 1 then .refused else .unfinished
  | .octets n =>
    match config.designate? s (bs.take (n - 1)) with
    | some s => .chars [] n s
    | none => .illFormed n

/-- The front of a single character of the third set, after the two octets that announce it. -/
def thirdFront (s : Designations) : List UInt8 → Front Designations
  | [] => .unfinished
  | b :: _ =>
    match s.g2 with
    | none => if b < 0x80 then .chars [Char.ofNat b.toNat] 3 s else .illFormed 3
    | some set =>
      match set.get? b.toNat 0 with
      | some cs => .chars cs 3 s
      | none => .illFormed 3

/-- The front of a character of a set. -/
def setFront (s : Designations) (set : Designated) (b : UInt8) (bs : List UInt8) :
    Front Designations :=
  let width := if set.double then 2 else 1
  if set.double && bs.isEmpty then .unfinished
  else match set.get? b.toNat (bs.headD 0).toNat with
    | some cs => .chars cs width s
    | none => .illFormed width

/-- The front of a text. -/
def front (config : Iso2022) (s : Designations) (b : UInt8) (bs : List UInt8) :
    Front Designations :=
  let itself := Front.chars [Char.ofNat b.toNat] 1
  if s.passing then itself { s with passing := !endsEscape b }
  else if b = 0x1B then
    match bs with
    | [] => .unfinished
    | c :: rest =>
      if "()$.&".toList.contains (Char.ofNat c.toNat) then config.escapeFront s bs
      else if config.third && c == 0x4E then thirdFront s rest
      else itself { s with passing := true }
  else if b = 0x0F && config.shifts then .chars [] 1 { s with shifted := false }
  else if b = 0x0E && config.shifts then .chars [] 1 { s with shifted := true }
  else if b = 0x0A then itself { s with shifted := false }
  else if b < 0x20 then itself s
  else if 0x80 ≤ b then .illFormed 1
  else match if s.shifted then s.g1 else s.g0 with
    | some set => setFront s set b bs
    | none => itself s

/-- The charset. -/
def charset (config : Iso2022) : Charset :=
  ofReader { start := ⟨none, none, none, false, false⟩, front := config.front }

/-- A Japanese charset. -/
def japanese (sets : List Designated) : Charset :=
  charset ⟨sets, false, false, true⟩

end Iso2022

open Designated in
/-- ISO-2022-JP. -/
def iso2022Jp : Charset := Iso2022.japanese (kanji ++ [roman])

open Designated in
/-- ISO-2022-JP-1, with JIS X 0212. -/
def iso2022Jp1 : Charset := Iso2022.japanese (kanji ++ [supplement, roman])

open Designated in
/-- ISO-2022-JP-2, with the sets of other languages. -/
def iso2022Jp2 : Charset :=
  Iso2022.charset {
    sets := kanji ++ [supplement, grid 'C' ksx1001, grid 'A' gb2312, roman, latin, greek]
    shifts := false
    third := true
    announces := true }

/-- ISO-2022-JP-3 and its second edition, with JIS X 0213. -/
def iso2022Planes (edition : Edition) : Charset := Iso2022.japanese (Designated.planes edition)

open Designated in
/-- ISO-2022-JP with JIS X 0212 and half-width kana. -/
def iso2022JpExtended : Charset := Iso2022.japanese (kanji ++ [supplement, roman, kana])

/-- ISO-2022-KR. -/
def iso2022Kr : Charset :=
  Iso2022.charset {
    sets := [.grid 'C' ksx1001]
    shifts := true
    third := false
    announces := false }

end CaptureControl.Text.Charset
