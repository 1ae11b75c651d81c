import CaptureControl.Text.Blank
import CaptureControl.Text.Digit

/-!
# Reading numerals

The numerals that settings and metric samples are written in. Blank space around a numeral is
ignored, digits may be of any script, and a single underscore may stand between two digits.

* An integer is an optional sign and digits.
* A real is an optional sign and either digits with an optional point and an optional exponent, or a
  name of infinity or of the undefined number in any letter case.
-/

namespace CaptureControl.Decimal

open Text

/-- The blank characters that may stand around a numeral: all but the four information
separators. -/
def isNumeralBlank (c : Char) : Bool :=
  isBlank c && !(0x1C ≤ c.toNat && c.toNat ≤ 0x1F)

/-- The longest run of digits at the start of a text, with single underscores between digits passed
over, and the rest of the text. -/
def digitRun (afterDigit : Bool) : List Char → List Nat × List Char
  | [] => ([], [])
  | c :: cs =>
    match digitValue? c with
    | some d =>
      let (digits, rest) := digitRun true cs
      (d :: digits, rest)
    | none =>
      if afterDigit && c = '_' && (cs.head?.bind digitValue?).isSome then digitRun false cs
      else ([], c :: cs)

/-- The natural number with the given digits. -/
def ofDigits (digits : List Nat) : Nat :=
  digits.foldl (fun n d => 10 * n + d) 0

/-- An optional sign, and the rest of a text. -/
def signed : List Char → Bool × List Char
  | '+' :: cs => (false, cs)
  | '-' :: cs => (true, cs)
  | cs => (false, cs)

/-- Why a text is not read as an integer. -/
inductive IntegerFault where
  /-- The text is no integer numeral. -/
  | malformed
  /-- The numeral has more digits than are read. -/
  | tooLong (digits : Nat)
  deriving Repr, DecidableEq

/-- The greatest number of digits of an integer that is read. -/
def digitLimit : Nat := 4300

/-- Reads an integer. -/
def readInteger (text : List Char) : Except IntegerFault Int :=
  let (negative, body) := signed (trimBy isNumeralBlank text)
  let (digits, rest) := digitRun false body
  if digits.isEmpty || rest.head? == some '_' then .error .malformed
  else if digitLimit < digits.length then .error (.tooLong digits.length)
  else if !rest.isEmpty then .error .malformed
  else .ok (if negative then -(ofDigits digits : Int) else ofDigits digits)

/-- The value `m * 10 ^ e`, correctly rounded. -/
def scaledReal (m : Nat) (e : Int) : Float :=
  Float.ofScientific m (e < 0) e.natAbs

/-- A word in lower case, if it is one of ASCII letters. -/
def asciiLower (cs : List Char) : List Char :=
  cs.map Char.toLower

/-- The infinite and the undefined number, by name. -/
def namedReal? (cs : List Char) : Option Float :=
  let name := String.ofList (asciiLower cs)
  if name = "inf" ∨ name = "infinity" then some (1.0 / 0.0)
  else if name = "nan" then some (0.0 / 0.0)
  else none

/-- The exponent after the digits of a real; an absent one is zero. -/
def exponentPart? : List Char → Option Int
  | [] => some 0
  | c :: cs =>
    if c = 'e' ∨ c = 'E' then
      let (negative, body) := signed cs
      match digitRun false body with
      | ([], _) => none
      | (digits, []) => some (if negative then -(ofDigits digits : Int) else ofDigits digits)
      | _ => none
    else none

/-- A real given by its digits. -/
def digitReal? (cs : List Char) : Option Float :=
  let (whole, rest) := digitRun false cs
  let (fraction, rest) := match rest with
    | '.' :: rest => digitRun false rest
    | rest => ([], rest)
  if whole.isEmpty && fraction.isEmpty then none
  else
    (exponentPart? rest).map fun e =>
      scaledReal (ofDigits (whole ++ fraction)) (e - fraction.length)

/-- Reads a real number, correctly rounded to a double. -/
def readReal? (text : List Char) : Option Float :=
  let (negative, body) := signed (trimBy isNumeralBlank text)
  ((namedReal? body).or (digitReal? body)).map fun x => if negative then -x else x

end CaptureControl.Decimal
