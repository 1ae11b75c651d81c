import CaptureControl.Text.Charset.Basic
import CaptureControl.Text.Charset.Ksx1001

/-!
# Korean charsets

The syllables of Hangul are composed of an initial, a medial and perhaps a final letter. KS X 1001
has 2350 of the 11172 syllables. EUC spells the others out, code page 949 appends them in order, and
the combining charset writes every syllable by its letters.
-/

namespace CaptureControl.Text.Charset

/-- The syllable of an initial, a medial and a final letter, each by its number; the final letter
zero is none. -/
def syllable (initial medial final : Nat) : Char :=
  Char.ofNat (0xAC00 + 588 * initial + 28 * medial + final)

/-! ### EUC -/

/-- The numbers of the consonants from 0xA1 on as initial letters. -/
def initialOf : List (Option Nat) :=
  [some 0, some 1, none, some 2, none, none, some 3, some 4, some 5, none, none, none, none, none,
    none, none, some 6, some 7, some 8, none, some 9, some 10, some 11, some 12, some 13, some 14,
    some 15, some 16, some 17, some 18]

/-- The numbers of the consonants from 0xA1 on as final letters. -/
def finalOf : List (Option Nat) :=
  [some 1, some 2, some 3, some 4, some 5, some 6, some 7, none, some 8, some 9, some 10, some 11,
    some 12, some 13, some 14, some 15, some 16, some 17, none, some 18, some 19, some 20, some 21,
    some 22, none, some 23, some 24, some 25, some 26, some 27]

/-- The entry of a list at an octet that counts from a base on. -/
def entry? (list : List (Option Nat)) (base c : Nat) : Option Nat :=
  if base ≤ c then (list[c - base]?).join else none

/-- The syllable that three letters spell; the filler 0xD4 stands for no final letter. -/
def spelled? (initial medial final : Nat) : Option Char := do
  let i ← entry? initialOf 0xA1 initial
  let m ← if 0xBF ≤ medial ∧ medial ≤ 0xD3 then some (medial - 0xBF) else none
  let f ← if final = 0xD4 then some 0 else entry? finalOf 0xA1 final
  return syllable i m f

/-- The front of a text in EUC. A filler announces a syllable that is spelled out. -/
def eucKoreanFront (b : UInt8) : List UInt8 → Front Unit
  | [] => .unfinished
  | c :: bs =>
    if b = 0xA4 ∧ c = 0xD4 then
      match bs with
      | i :: initial :: m :: medial :: f :: final :: _ =>
        .found 8 <|
          if i = 0xA4 ∧ m = 0xA4 ∧ f = 0xA4 then
            one (spelled? initial.toNat medial.toNat final.toNat)
          else none
      | _ => .unfinished
    else .found 2 (one (ksx1001.at? 0xA0 b.toNat c.toNat))

/-- EUC with KS X 1001. -/
def eucKorean : Charset :=
  overAscii eucKoreanFront

/-! ### Code page 949 -/

/-- The syllables that KS X 1001 lacks, in order. -/
def furtherSyllables : Array Char :=
  ksx1001.lacking 0xAC00 11172

/-- The place of two octets in the two areas for further syllables. -/
def syllableIndex? (b c : Nat) : Option Nat := do
  let trail ←
    if 0x41 ≤ c ∧ c ≤ 0x5A then some (c - 0x41)
    else if 0x61 ≤ c ∧ c ≤ 0x7A then some (c - 0x61 + 26)
    else if 0x81 ≤ c ∧ c ≤ 0xFE then some (c - 0x81 + 52)
    else none
  if 0x81 ≤ b ∧ b ≤ 0xA0 then some (178 * (b - 0x81) + trail)
  else if 0xA1 ≤ b ∧ b ≤ 0xC6 ∧ c ≤ 0xA0 then some (178 * 32 + 84 * (b - 0xA1) + trail)
  else none

/-- Code page 949: Korean. -/
def windows949 : Charset :=
  overAscii <| .pair fun b c =>
    one (ksx1001.at? 0xA0 b c <|> (syllableIndex? b c).bind fun n => furtherSyllables[n]?)

/-! ### Combining charset -/

/-- What five bits stand for in a syllable. -/
inductive Part where
  /-- Nothing in the place of the letter. -/
  | filler
  /-- A letter, by its number in its place and by its own character. -/
  | letter (number char : Nat)
  deriving Repr, DecidableEq

/-- The part of five bits, given the bits of the filler and the letters with their bits. -/
def part? (filler : Nat) (letters : List (Nat × Nat)) (bits : Nat) : Option Part :=
  if bits = filler then some .filler
  else ((letters.zipIdx).find? fun ((b, _), _) => b = bits).map fun ((_, char), n) => .letter n char

/-- The initial letters: bits and characters. -/
def initials : List (Nat × Nat) :=
  (List.range' 2 19).zip
    ([0x3131, 0x3132, 0x3134, 0x3137, 0x3138, 0x3139, 0x3141, 0x3142, 0x3143]
      ++ List.range' 0x3145 10)

/-- The medial letters: bits and characters. -/
def medials : List (Nat × Nat) :=
  (List.range' 3 5 ++ List.range' 10 6 ++ List.range' 18 6 ++ List.range' 26 4).zip
    (List.range' 0x314F 21)

/-- The final letters: bits and characters. -/
def finals : List (Nat × Nat) :=
  (List.range' 2 16 ++ List.range' 19 11).zip
    (List.range' 0x3131 7 ++ List.range' 0x3139 10 ++ List.range' 0x3144 5 ++ List.range' 0x314A 5)

/-- The character of three parts: a syllable, or a letter that stands alone. -/
def composed? : Part → Part → Part → Option Char
  | .filler, .filler, .filler => some '\u3000'
  | .filler, .filler, .letter _ char => some (Char.ofNat char)
  | .filler, .letter _ char, .filler => some (Char.ofNat char)
  | .letter _ char, .filler, .filler => some (Char.ofNat char)
  | .letter i _, .letter m _, .filler => some (syllable i m 0)
  | .letter i _, .letter m _, .letter f _ => some (syllable i m (f + 1))
  | _, _, _ => none

/-- The character of two octets that hold three parts in fifteen bits. -/
def combined? (b c : Nat) : Option Char := do
  let bits := 0x100 * b + c
  let initial ← part? 1 initials (bits / 0x400 % 0x20)
  let medial ← part? 2 medials (bits / 0x20 % 0x20)
  let final ← part? 1 finals (bits % 0x20)
  composed? initial medial final

/-- The character of two octets from 0xD9 on: what KS X 1001 has besides letters and syllables, two
rows to a lead octet. -/
def appended? (b c : Nat) : Option Char :=
  if b < 0xD9 ∨ b = 0xDF ∨ 0xF9 < b ∨ c < 0x31 ∨ (0x80 ≤ c ∧ c < 0x91)
      ∨ c % 0x80 = 0x7F ∨ (b = 0xDA ∧ 0xA1 ≤ c ∧ c ≤ 0xD3) then none
  else
    let lead := if b < 0xE0 then 2 * (b - 0xD9) else 2 * b - 0x197
    let trail := if c < 0x91 then c - 0x31 else c - 0x43
    ksx1001.get? (lead + trail / 94 + 1) (trail % 94 + 1)

/-- The combining charset of KS X 1001. -/
def combiningKorean : Charset :=
  overAscii <| .pair fun b c => one (if b < 0xD8 then combined? b c else appended? b c)

end CaptureControl.Text.Charset
