import CaptureControl.Text.Charset.Basic

/-!
# Punycode

The ASCII characters of a text come first, up to the last hyphen; then numbers in base 36 tell which
characters to insert and where. A digit below its threshold ends a number, and thresholds adapt to
the numbers before. Where no number can be read, the reading ends with what it has; of octets that
are there as a whole the numbers must be well-formed to the end.
-/

namespace CaptureControl.Text.Charset

/-- The value of a digit: letters first, in any letter case, and then figures. -/
def punycodeDigit? (b : UInt8) : Option Nat :=
  let c := Char.ofNat b.toNat
  if c.isUpper then some (c.toNat - 'A'.toNat)
  else if c.isLower then some (c.toNat - 'a'.toNat)
  else if c.isDigit then some (c.toNat - '0'.toNat + 26)
  else none

/-- The threshold of the digit with a number, under a bias. -/
def threshold (digits bias : Nat) : Nat :=
  min 26 (max 1 (36 * (digits + 1) - bias))

/-- Divides a number until it is small, and tells how often, in steps of 36. -/
def reduce (fuel delta divisions : Nat) : Nat × Nat :=
  match fuel with
  | 0 => (delta, divisions)
  | n + 1 => if 455 < delta then reduce n (delta / 35) (divisions + 36) else (delta, divisions)

/-- The bias after a number, for a text of some length. -/
def adapt (delta : Nat) (first : Bool) (length : Nat) : Nat :=
  let delta := if first then delta / 700 else delta / 2
  let delta := delta + delta / length
  let (delta, divisions) := reduce delta delta 0
  divisions + 36 * delta / (delta + 38)

/-- A text into which characters are inserted. -/
structure Insertion where
  /-- The text so far. -/
  text : List Char
  /-- The code point of the last character. -/
  char : Nat
  /-- The place after the last character. -/
  place : Nat
  /-- The bias of thresholds. -/
  bias : Nat
  /-- The number that is being read. -/
  number : Nat
  /-- The weight of its next digit. -/
  weight : Nat
  /-- How many digits it has. -/
  digits : Nat

namespace Insertion

/-- Before the first number. -/
def start (text : List Char) : Insertion :=
  ⟨text, 0x80, 0, 72, 0, 1, 0⟩

/-- The character of a code point; beyond the last one there are question marks, and surrogates are
no characters. -/
def charOf (code : Nat) : Char :=
  if code < 0x110000 then if code.isValidChar then Char.ofNat code else replacement else '?'

/-- The code point of the character that a number inserts. -/
def code (s : Insertion) (number : Nat) : Nat :=
  s.char + (s.place + number) / (s.text.length + 1)

/-- Inserts a character after the last digit of a number. -/
def insert (s : Insertion) (first : Bool) (number : Nat) : Insertion :=
  let length := s.text.length + 1
  let place := (s.place + number) % length
  let code := s.code number
  { text := s.text.take place ++ charOf code :: s.text.drop place
    char := if code < 0x110000 then code else '?'.toNat
    place := place + 1
    bias := adapt number first length
    number := 0
    weight := 1
    digits := 0 }

/-- Reads numbers, and may refuse those that are ill-formed. -/
def read (strict first : Bool) (s : Insertion) : List UInt8 → Option (List Char)
  | [] => if strict && s.digits != 0 then none else some s.text
  | b :: bs =>
    match punycodeDigit? b with
    | none => if strict then none else some s.text
    | some digit =>
      let number := s.number + digit * s.weight
      let t := threshold s.digits s.bias
      if t ≤ digit then
        let s := { s with number, weight := s.weight * (36 - t), digits := s.digits + 1 }
        read strict first s bs
      else if strict && 0x110000 ≤ s.code number then none
      else read strict false (s.insert first number) bs

end Insertion

/-- The octets before and after the last hyphen. Without hyphen there are only the latter. -/
def atLastHyphen (octets : List UInt8) : List UInt8 × List UInt8 :=
  let after := (octets.reverse.takeWhile fun b => b != 0x2D).reverse
  (octets.take (octets.length - after.length - 1), after)

/-- Punycode. The numbers must be in ASCII. -/
def punycode : Charset where
  read? octets :=
    let (text, numbers) := atLastHyphen octets
    if numbers.all fun b => b < 0x80 then
      let text := text.map fun b => if b < 0x80 then Char.ofNat b.toNat else replacement
      Insertion.read false true (.start text) numbers
    else none
  readWhole? octets :=
    if octets.all fun b => b < 0x80 then
      let (text, numbers) := atLastHyphen octets
      Insertion.read true true (.start (text.map fun b => Char.ofNat b.toNat)) numbers
    else none

end CaptureControl.Text.Charset
