import CaptureControl.Allowance
import CaptureControl.Session

/-!
# Waiting

Two ways to wait for a change to take hold. A *poll* evaluates a condition again and again, with a
pause between evaluations, until it holds, cannot be evaluated, or the allowance is used up. A
*delay* is one pause, for changes whose completion cannot be observed. Both end early when waiting
is cancelled, and both fail with a pause that is too long to be timed.

## Implementation notes

A poll goes round at most as often as its attempt limit says, so the limit bounds the recursion. A
poll without attempt limit is bounded by a *horizon*, past which its outcome is left open.
-/

namespace CaptureControl

/-- How a wait ended that did not fail. -/
inductive Outcome where
  /-- The condition holds. -/
  | converged
  /-- The delay is over. -/
  | elapsed
  /-- The wait was cancelled. -/
  | interrupted
  deriving Repr, DecidableEq

/-- The word for an outcome. -/
def Outcome.word : Outcome → String
  | converged => "converged"
  | elapsed => "elapsed"
  | interrupted => "interrupted"

/-- What a poll that did not fail came to. -/
structure WaitResult (τ : Type) where
  /-- How it ended. -/
  outcome : Outcome
  /-- The number of evaluations. -/
  attempts : Nat
  /-- The time since it began. -/
  elapsed : τ

/-- Whether the condition came to hold. -/
def WaitResult.converged {τ : Type} (r : WaitResult τ) : Bool :=
  r.outcome = .converged

/-! ### Polls -/

/-- A way of polling. -/
structure Poll (τ : Type) where
  /-- The pause between two evaluations. -/
  interval : τ
  /-- How long to go on. -/
  allowance : Allowance τ
  /-- The kinds of faults that only mean that the condition does not hold yet. -/
  transient : List Fault.Kind
  /-- What is waited for. -/
  description : String
  /-- The number of evaluations after which a poll without attempt limit is left open. -/
  horizon : Nat

namespace Poll

variable {σ τ : Type} [Time τ]

/-- The faults that a poll takes for "not yet", unless it is told otherwise. -/
def defaultTransient : List Fault.Kind := [.absent]

/-- What a poll waits for, unless it is told otherwise. -/
def defaultDescription : String := "condition"

/-- The horizon of polls, unless it is set otherwise: longer than any wait lasts. -/
def defaultHorizon : Nat := Nat.pow 10 12

/-- A way of polling, unless its interval is negative. -/
def make? (interval : τ) (allowance : Allowance τ) (transient : List Fault.Kind)
    (description : String) : Except Misconfiguration (Poll τ) :=
  if interval < 0 then .error .interval
  else .ok ⟨interval, allowance, transient, description, defaultHorizon⟩

/-- The outcome of a wait: its result, or the fault that it failed with. -/
abbrev Verdict (τ : Type) := Except (Fault τ) (WaitResult τ)

/-- Evaluates a condition once. A transient fault counts as "not yet"; any other exception aborts
the wait, and what is no exception is passed on. -/
def evaluate (p : Poll τ) (label : String) (a : Allowance τ) (condition : Act σ τ Bool) :
    Act σ τ (Except (Fault τ) Bool) := do
  Act.modify fun s => s.record (.evaluating s.clock)
  match ← condition.attempt with
  | .ok holds => return .ok holds
  | .error e =>
    if p.transient.any e.isA then
      Act.note (.unobservable label a.attempts e)
      return .ok false
    else if e.isA .exception then
      let now ← Act.now
      return .error (.because (.wait .aborted ⟨label, a.attempts, a.elapsed now⟩) e)
    else return .error e

/-- The result of a wait that is cancelled. -/
def interruption (label : String) (started : τ) (a : Allowance τ) : Act σ τ (Verdict τ) := do
  Act.note (.interrupted label)
  let now ← Act.now
  return .ok ⟨.interrupted, a.attempts, Time.clamp (now - started)⟩

/-- The pause before the next evaluation: the interval, or the time that is left if that is
shorter. -/
def nextPause (p : Poll τ) (a : Allowance τ) (now : τ) : τ :=
  match a.remaining now with
  | some left => Time.shorter p.interval left
  | none => p.interval

/-- Goes round at most the given number of times. -/
def rounds (p : Poll τ) (label : String) (started : τ) (condition : Act σ τ Bool) :
    Nat → Allowance τ → Act σ τ (Verdict τ × Allowance τ)
  | 0, a => return (.error (.unsettled label a.attempts), a)
  | n + 1, a => do
    if ← Act.cancelled then
      return (← interruption label started a, a)
    let a := a.consume
    match ← p.evaluate label a condition with
    | .error e => return (.error e, a)
    | .ok holds =>
      let now ← Act.now
      if holds then
        Act.note (.converged label a.attempts)
        return (.ok ⟨.converged, a.attempts, a.elapsed now⟩, a)
      else if a.exhausted now then
        Act.note (.exhausted label a.attempts)
        return (.error (.wait .timedOut ⟨label, a.attempts, a.elapsed now⟩), a)
      else match ← (Act.pause (p.nextPause a now)).attempt with
        | .error e => return (.error e, a)
        | .ok true => p.rounds label started condition n a
        | .ok false => return (← interruption label started a, a)

/-- What a wait is called in reports: the given description, unless it is empty. -/
def label (p : Poll τ) (description : Option String) : String :=
  match description with
  | some d => if d.isEmpty then p.description else d
  | none => p.description

/-- Waits for a condition. Gives the outcome, and the allowance as it was used. -/
def run (p : Poll τ) (condition : Act σ τ Bool) (description : Option String) :
    Act σ τ (Verdict τ × Allowance τ) := do
  let started ← Act.now
  p.rounds (p.label description) started condition (p.allowance.maxAttempts.getD p.horizon)
    (p.allowance.start started)

/-- Waits for a condition; a wait that fails is a fault. -/
def wait (p : Poll τ) (condition : Act σ τ Bool) (description : Option String) :
    Act σ τ (WaitResult τ) := do
  let (verdict, _) ← p.run condition description
  Act.ofExcept verdict

end Poll

/-! ### Delays -/

/-- A delay of a fixed length. -/
structure Delay (τ : Type) where
  /-- The length. -/
  seconds : τ

namespace Delay

variable {σ τ : Type} [Time τ]

/-- A delay, unless its length is negative. -/
def make? (seconds : τ) : Except Misconfiguration (Delay τ) :=
  if seconds < 0 then .error .delay else .ok ⟨seconds⟩

/-- Lets a delay pass. -/
def wait (d : Delay τ) : Act σ τ Outcome := do
  Act.note (.delaying d.seconds)
  if ← Act.pause d.seconds then
    return .elapsed
  else
    Act.note .delayInterrupted
    return .interrupted

end Delay

end CaptureControl
