/-!
# The shortest decimal that reads back

A positive binary number `mantissa * 2 ^ exponent` of 53 bits is identified by every real that
rounds to it. Among the decimals that do, the fewest digits are chosen, and of several with that
many digits the one nearest to the number. All arithmetic is exact: the reals that round to the
number form an interval, which includes its ends exactly if the mantissa is even, and on the grid
of decimals with `n` digits only the two neighbours of the number need to be tried.
-/

namespace CaptureControl.Decimal

/-- The interval of reals that are read back as one binary number, with the number inside, as
numerators over a common denominator. -/
structure Rounding where
  /-- The lower end. -/
  least : Nat
  /-- The number itself. -/
  value : Nat
  /-- The upper end. -/
  greatest : Nat
  /-- The common denominator. -/
  denominator : Nat
  /-- Whether the ends belong to the interval. -/
  closed : Bool
  deriving Repr

/-- The interval of `mantissa * 2 ^ exponent`. Its upper end is half a unit away; so is its lower
end, except at a power of two, where the numbers below lie twice as dense. -/
def Rounding.ofBinary (mantissa : Nat) (exponent : Int) : Rounding :=
  let below := if mantissa = Nat.pow 2 52 ∧ -1074 < exponent then 1 else 2
  let scale := Nat.pow 2 (exponent - 2).toNat
  { least := (4 * mantissa - below) * scale
    value := 4 * mantissa * scale
    greatest := (4 * mantissa + 2) * scale
    denominator := Nat.pow 2 (2 - exponent).toNat
    closed := mantissa % 2 == 0 }

/-- The number of digits of a natural number in base ten. -/
def digitCount (n : Nat) : Nat :=
  (Nat.toDigits 10 n).length

/-- The exponent of the leading digit of the positive ratio `num / den`. -/
def leadingExponent (num den : Nat) : Int :=
  let guess : Int := (digitCount num : Int) - digitCount den
  if den * Nat.pow 10 guess.toNat ≤ num * Nat.pow 10 (-guess).toNat then guess else guess - 1

/-- The multiple of `10 ^ unit` next to the number that lies in its interval, the nearer one if both
neighbours do, and the even one if both are equally near. -/
def Rounding.onGrid? (r : Rounding) (unit : Int) : Option Nat :=
  let step := r.denominator * Nat.pow 10 unit.toNat
  let scale := Nat.pow 10 (-unit).toNat
  let below := r.value * scale / step
  let inside (a b : Nat) : Bool := if r.closed then a ≤ b else a < b
  let down := inside (r.least * scale) (below * step)
  let up := inside ((below + 1) * step) (r.greatest * scale)
  let twice := 2 * (r.value * scale)
  let middle := (2 * below + 1) * step
  if down && up then
    some (if twice < middle then below else if middle < twice then below + 1
      else below + below % 2)
  else if down then some below
  else if up then some (below + 1)
  else none

/-- A number `digits * 10 ^ exponent`. -/
structure Scaled where
  /-- The digits, as a natural number. -/
  digits : Nat
  /-- The power of ten of the last digit. -/
  exponent : Int
  deriving Repr, DecidableEq

/-- The shortest decimal that reads back as the positive number `mantissa * 2 ^ exponent`. Seventeen
digits always suffice. -/
def shortest (mantissa : Nat) (exponent : Int) : Scaled :=
  let r := Rounding.ofBinary mantissa exponent
  let leading := leadingExponent r.value r.denominator
  let tryDigits (more : Nat) : Option Scaled :=
    (r.onGrid? (leading - more)).map fun d => ⟨d, leading - more⟩
  ((List.range 17).findSome? tryDigits).getD ⟨r.value / r.denominator, 0⟩

end CaptureControl.Decimal
