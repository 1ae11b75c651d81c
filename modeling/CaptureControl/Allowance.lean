import CaptureControl.Fault

/-!
# Allowances

How long a wait may go on: a limit on the number of evaluations, on the time since the wait began,
or on both. An allowance also holds what of it has been used.
-/

namespace CaptureControl

/-- An allowance of evaluations and time, and what of it has been used. -/
structure Allowance (τ : Type) where
  /-- The greatest number of evaluations, if it is limited. -/
  maxAttempts : Option Nat
  /-- The longest time, if it is limited. -/
  maxDuration : Option τ
  /-- The evaluations used. -/
  attempts : Nat
  /-- The clock reading at the start. -/
  startedAt : τ

namespace Allowance

variable {τ : Type} [Time τ]

/-- An unused allowance. One of its limits is given, an attempt limit is at least one, and a time
limit is positive. -/
def make? (maxAttempts : Option Int) (maxDuration : Option τ) :
    Except Misconfiguration (Allowance τ) :=
  if maxAttempts.isNone && maxDuration.isNone then .error .unbounded
  else if maxAttempts.any (· < 1) then .error .attemptLimit
  else if maxDuration.any fun d => decide (d ≤ 0) then .error .timeLimit
  else .ok ⟨maxAttempts.map Int.toNat, maxDuration, 0, 0⟩

/-- The allowance at the start of a wait. -/
def start (now : τ) (a : Allowance τ) : Allowance τ :=
  { a with attempts := 0, startedAt := now }

/-- The allowance after one more evaluation. -/
def consume (a : Allowance τ) : Allowance τ :=
  { a with attempts := a.attempts + 1 }

/-- The time since the start; none on a clock that went backwards. -/
def elapsed (now : τ) (a : Allowance τ) : τ :=
  Time.clamp (now - a.startedAt)

/-- The time that is left, if time is limited. -/
def remaining (now : τ) (a : Allowance τ) : Option τ :=
  a.maxDuration.map fun d => Time.clamp (d - a.elapsed now)

/-- Whether a limit has been reached. -/
def exhausted (now : τ) (a : Allowance τ) : Bool :=
  a.maxAttempts.any (· ≤ a.attempts) || a.maxDuration.any fun d => decide (d ≤ a.elapsed now)

end Allowance

end CaptureControl
