import CaptureControl.Decimal.Shortest

/-!
# Written forms of real numbers

Two written forms of a double: in full, with the fewest digits that read back, and rounded to a
fixed number of places.
-/

namespace CaptureControl.Decimal

/-- How numbers are written in full. -/
structure RealNotation where
  /-- The least exponent of the leading digit that is written without an exponent. -/
  positionalFrom : Int
  /-- The exponent of the leading digit from which on an exponent is written. -/
  scientificFrom : Int
  /-- The least number of digits of a written exponent. -/
  exponentDigits : Nat

/-- Numbers are positional from a ten-thousandth to below ten to the sixteenth, with at least one
place; written exponents have a sign and at least two digits. -/
def RealNotation.full : RealNotation := ⟨-4, 16, 2⟩

/-- The sign of a number, written only if it is negative. -/
def signText : Float.Model.UnpackedFloat.Sign → String
  | .negative => "-"
  | .positive => ""

/-- Zeros before a number up to a width. -/
def padded (width n : Nat) : List Char :=
  let digits := Nat.toDigits 10 n
  List.replicate (width - digits.length) '0' ++ digits

/-- The positional form of `0.d₁d₂… * 10 ^ point`, with at least one digit on either side. -/
def positional (digits : List Char) (point : Int) : List Char :=
  let whole := digits.take point.toNat
  let fraction := List.replicate (-point).toNat '0' ++ digits.drop point.toNat
  (if whole.isEmpty then ['0'] else whole ++ List.replicate (point.toNat - whole.length) '0')
    ++ '.' :: (if fraction.isEmpty then ['0'] else fraction)

/-- The form of `d₁.d₂… * 10 ^ leading`. -/
def scientific (width : Nat) (digits : List Char) (leading : Int) : List Char :=
  digits.take 1 ++ (if digits.length ≤ 1 then [] else '.' :: digits.drop 1)
    ++ 'e' :: (if leading < 0 then '-' else '+') :: padded width leading.natAbs

/-- A positive decimal in a notation. -/
def RealNotation.write (form : RealNotation) (x : Scaled) : String :=
  let all := Nat.toDigits 10 x.digits
  let leading : Int := x.exponent + all.length - 1
  let digits := (all.reverse.dropWhile (· == '0')).reverse
  String.ofList <|
    if form.positionalFrom ≤ leading ∧ leading < form.scientificFrom then
      positional digits (leading + 1)
    else scientific form.exponentDigits digits leading

/-- A double in full: the fewest digits that read back as the same double. -/
def realText (x : Float) : String :=
  match x.toModel.unpack with
  | .notANumber => "nan"
  | .infinity sign => signText sign ++ "inf"
  | .zero sign => signText sign ++ "0.0"
  | .finite sign mantissa exponent _ =>
    signText sign ++ RealNotation.full.write (shortest mantissa exponent)

/-- The natural number nearest to a ratio, the even one if two are equally near. -/
def roundHalfEven (num den : Nat) : Nat :=
  let q := num / den
  let twice := 2 * (num % den)
  if twice < den then q else if den < twice then q + 1 else q + q % 2

/-- A natural number of units of the last place, written with that many places. -/
def placesText (places units : Nat) : String :=
  let digits := padded (places + 1) units
  let whole := digits.length - places
  String.ofList (digits.take whole ++ (if places = 0 then [] else '.' :: digits.drop whole))

/-- A double rounded to a number of places; the exact value decides, and a half goes to the even
neighbour. -/
def fixedText (places : Nat) (x : Float) : String :=
  match x.toModel.unpack with
  | .notANumber => "nan"
  | .infinity sign => signText sign ++ "inf"
  | .zero sign => signText sign ++ placesText places 0
  | .finite sign mantissa exponent _ =>
    signText sign ++ placesText places
      (roundHalfEven (mantissa * Nat.pow 2 exponent.toNat * Nat.pow 10 places)
        (Nat.pow 2 (-exponent).toNat))

end CaptureControl.Decimal
