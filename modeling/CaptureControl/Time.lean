/-!
# Time

Clock readings and durations are values of one type with zero, sum, difference and order. Nothing
else is asked of it: the library runs on doubles, whose sum and order obey few laws, and its laws on
deadlines are stated for exact numbers. Where a duration is cut off at a bound, the comparison that
decides is spelt out, so that it is fixed also for undefined numbers.
-/

namespace CaptureControl

/-- A type of clock readings and durations. -/
class Time (τ : Type) extends Zero τ, NatCast τ, Add τ, Sub τ, LT τ, LE τ where
  /-- The strict order is decidable. -/
  decidableLT : DecidableLT τ
  /-- The order is decidable. -/
  decidableLE : DecidableLE τ

namespace Time

attribute [reducible, instance] Time.decidableLT Time.decidableLE

variable {τ : Type} [Time τ]

/-- A duration, or zero if it is not positive. -/
def clamp (d : τ) : τ :=
  if 0 < d then d else 0

/-- The first of two durations, unless the second is shorter. -/
def shorter (a b : τ) : τ :=
  if b < a then b else a

end Time

instance : Time Float where
  zero := 0.0
  natCast := Float.ofNat
  decidableLT := inferInstance
  decidableLE := inferInstance

instance : Time Rat where
  zero := Rat.ofInt 0
  decidableLT := inferInstance
  decidableLE := inferInstance

end CaptureControl
