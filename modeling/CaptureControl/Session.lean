import CaptureControl.Exposition.Sample
import CaptureControl.Log
import CaptureControl.Rows
import CaptureControl.Tally

/-!
# Actions in a world

Everything outside the library is a *world*: it answers requests, lets time pass, and may set the
cancel flag. It may do the last while it answers, while time passes, and on its own whenever the flag
is looked at; nothing else is known of a world, so what is proved of an action holds of every
database, every metrics server and every moment of cancellation.

An *action* runs against a world from a *session*: the world's own state, the clock, the cancel
flag, the connection that is held, the counters, and the record of what was asked so far. It ends
with an answer or a fault, and with the session it leaves.

## Implementation notes

Records are kept with the newest entry first, so that recording is a `cons`. Connections have
numbers, given in the order in which they were opened, so that the record tells them apart.
-/

namespace CaptureControl

/-! ### Requests -/

/-- A page as a server sent it. -/
structure Page where
  /-- The status code of the answer. -/
  status : Nat
  /-- The media type of the page, with its parameters. -/
  mediaType : Option String
  /-- The octets of the page. -/
  octets : List UInt8
  deriving Repr, DecidableEq

/-- What the library asks of the outside world. -/
inductive Request where
  /-- To open a database connection, by a driver if its connection string is given. -/
  | connect (dsn : Option String)
  /-- To open a cursor on a connection. -/
  | cursor (connection : Nat)
  /-- To run a statement on the cursor of a connection. -/
  | execute (connection : Nat) (statement : String) (params : Option (List Value))
  /-- To deliver the rows of the statement that was run. -/
  | fetch (connection : Nat)
  /-- To close the cursor of a connection. -/
  | closeCursor (connection : Nat)
  /-- To commit what was done on a connection. -/
  | commit (connection : Nat)
  /-- To close a connection. -/
  | close (connection : Nat)
  /-- To look up a truth value among the metrics. -/
  | lookup (object name : String)
  /-- To collect the samples of a registry. -/
  | collect
  /-- To send a metrics page. -/
  | page (address : String)
  /-- To close the source of the metrics. -/
  | closeMetrics

/-- What a request is answered with. -/
abbrev Request.Answer : Request → Type
  | fetch _ => Option (List Rows.Row)
  | lookup _ _ => Bool
  | collect => List Family
  | page _ => Page
  | _ => Unit

/-! ### Worlds -/

/-- What the passing of time leaves behind. -/
structure Moment (σ τ : Type) where
  /-- The state of the world. -/
  world : σ
  /-- The clock. -/
  clock : τ
  /-- Whether the cancel flag is set from now on. -/
  cancels : Bool

/-- A world with states in `σ` and times in `τ`. A cancellation by a handler that interrupts the
thread inside its own pause is not described: such a handler may wait for that very thread, and the
program then hangs. -/
structure World (σ τ : Type) where
  /-- Answers a request or fails, from a state of the world and a clock reading. -/
  serve : (r : Request) → σ → τ → Except (Fault τ) r.Answer × Moment σ τ
  /-- The longest pause that can be timed, if there is one. -/
  longest : Option τ
  /-- Lets a pause pass. The pause is cut short exactly if the cancel flag is set meanwhile. -/
  sleep : τ → σ → τ → Moment σ τ
  /-- Tells, when the cancel flag is looked at, whether it was set of late by somebody else. -/
  signal : σ → τ → Bool × σ

/-- Whether a pause can be timed: it is of no length, or no longer than the longest one. -/
def World.Times {σ τ : Type} [Time τ] (w : World σ τ) (seconds : τ) : Prop :=
  seconds ≤ 0 ∨ ∀ longest ∈ w.longest, ¬ longest < seconds

instance {σ τ : Type} [Time τ] (w : World σ τ) (seconds : τ) : Decidable (w.Times seconds) :=
  inferInstanceAs (Decidable (_ ∨ ∀ longest ∈ w.longest, ¬ _))

/-! ### Sessions -/

/-- An event of a session. -/
inductive Event (τ : Type) where
  /-- The world was asked for something, and delivered it or not. -/
  | asked (request : Request) (delivered : Bool)
  /-- The condition of a wait is about to be evaluated. -/
  | evaluating (clock : τ)
  /-- A pause of some length was asked for, and was completed or not. -/
  | paused (seconds : τ) (completed : Bool)

/-- The state that actions work on. -/
structure Session (σ τ : Type) where
  /-- The state of the world. -/
  world : σ
  /-- The clock. -/
  clock : τ
  /-- Whether waiting has been cancelled. -/
  cancelled : Bool
  /-- The connection that is held between calls, if one is. -/
  held : Option Nat
  /-- The number of connections opened so far. -/
  opened : Nat
  /-- Whether the source of the metrics was closed. -/
  metricsClosed : Bool
  /-- The counters. -/
  tally : Tally τ
  /-- The events so far, the newest first. -/
  trace : List (Event τ)
  /-- The log so far, the newest entry first. -/
  log : List (LogEntry τ)
  /-- The lines written for the user so far, the newest first. -/
  output : List String

namespace Session

variable {σ τ : Type}

/-- A session in which nothing has happened, with counters under a scope. -/
def start [Time τ] (world : σ) (clock : τ) (scope : String) : Session σ τ where
  world := world
  clock := clock
  cancelled := false
  held := none
  opened := 0
  metricsClosed := false
  tally := .empty scope
  trace := []
  log := []
  output := []

/-- The session after time has passed. -/
def after (s : Session σ τ) (m : Moment σ τ) : Session σ τ :=
  { s with world := m.world, clock := m.clock, cancelled := s.cancelled || m.cancels }

/-- The session after a look at the cancel flag. -/
def glance (w : World σ τ) (s : Session σ τ) : Session σ τ :=
  let (set, world) := w.signal s.world s.clock
  { s with world, cancelled := s.cancelled || set }

/-- The session with one more event. -/
def record (s : Session σ τ) (e : Event τ) : Session σ τ :=
  { s with trace := e :: s.trace }

end Session

/-! ### Actions -/

/-- An action: run against a world from a session, it ends with an answer or a fault, and with the
session it leaves. -/
def Act (σ τ α : Type) : Type :=
  World σ τ → Session σ τ → Except (Fault τ) α × Session σ τ

namespace Act

variable {σ τ α β : Type}

/-- Answers without doing anything. -/
protected def pure (a : α) : Act σ τ α := fun _ s => (.ok a, s)

/-- One action after another; a fault of the first ends both. -/
protected def bind (x : Act σ τ α) (f : α → Act σ τ β) : Act σ τ β := fun w s =>
  match x w s with
  | (.ok a, s) => f a w s
  | (.error e, s) => (.error e, s)

instance : Monad (Act σ τ) where
  pure := Act.pure
  bind := Act.bind

/-- Fails. -/
def fail (e : Fault τ) : Act σ τ α := fun _ s => (.error e, s)

/-- An action whose faults are handled. -/
def handle (x : Act σ τ α) (h : Fault τ → Act σ τ α) : Act σ τ α := fun w s =>
  match x w s with
  | (.ok a, s) => (.ok a, s)
  | (.error e, s) => h e w s

instance : MonadExceptOf (Fault τ) (Act σ τ) where
  throw := fail
  tryCatch := handle

/-- An action with a last step that is taken however the action ends. A fault of the last step takes
the place of a fault of the action. -/
def ensuring (x : Act σ τ α) (last : Act σ τ Unit) : Act σ τ α := fun w s =>
  match x w s with
  | (r, s) =>
    match last w s with
    | (.ok _, s) => (r, s)
    | (.error e, s) => (.error e, s)

/-- An action whose fault is part of its answer. -/
def attempt (x : Act σ τ α) : Act σ τ (Except (Fault τ) α) := fun w s =>
  match x w s with
  | (r, s) => (.ok r, s)

/-- The outcome of a computation outside the world. -/
def ofExcept (r : Except (Fault τ) α) : Act σ τ α := fun _ s => (r, s)

/-- The session at hand. -/
def session : Act σ τ (Session σ τ) := fun _ s => (.ok s, s)

/-- Changes the session. -/
def modify (f : Session σ τ → Session σ τ) : Act σ τ Unit := fun _ s => (.ok (), f s)

/-- Asks the world. -/
def ask (r : Request) : Act σ τ r.Answer := fun w s =>
  match w.serve r s.world s.clock with
  | (.ok a, m) => (.ok a, (s.after m).record (.asked r true))
  | (.error e, m) => (.error e, (s.after m).record (.asked r false))

/-- Writes a log entry. -/
def note (e : LogEntry τ) : Act σ τ Unit :=
  modify fun s => { s with log := e :: s.log }

/-- Writes a line for the user. -/
def say (line : String) : Act σ τ Unit :=
  modify fun s => { s with output := line :: s.output }

/-- Changes the counters. -/
def count (f : Tally τ → Tally τ) : Act σ τ Unit :=
  modify fun s => { s with tally := f s.tally }

/-! ### The clock and the cancel flag -/

/-- The clock reading. -/
def now : Act σ τ τ := do return (← session).clock

/-- Looks at the cancel flag: whether waiting has been cancelled. -/
def cancelled : Act σ τ Bool := fun w s => (.ok (s.glance w).cancelled, s.glance w)

/-- Sets the cancel flag: no pause lasts until the flag is cleared. -/
def cancel : Act σ τ Unit :=
  modify fun s => { s with cancelled := true }

/-- Clears the cancel flag. -/
def reset : Act σ τ Unit :=
  modify fun s => { s with cancelled := false }

/-- Whether a pause lets any time pass: it does unless it is of no length. -/
def Lasts [Time τ] (seconds : τ) : Prop := ¬ seconds ≤ 0

instance [Time τ] (seconds : τ) : Decidable (Lasts seconds) :=
  inferInstanceAs (Decidable (¬ _))

/-- Pauses, and tells whether the pause was completed. Under the cancel flag no time passes; a pause
of no length only looks at the flag. A pause that is too long to be timed looks at the flag as well,
and fails if the flag is clear. -/
def pause [Time τ] (seconds : τ) : Act σ τ Bool := fun w s =>
  if Lasts seconds then
    if s.cancelled then (.ok false, s.record (.paused seconds false))
    else if w.Times seconds then
      let m := w.sleep seconds s.world s.clock
      (.ok (!m.cancels), (s.after m).record (.paused seconds (!m.cancels)))
    else
      let s := s.glance w
      (if s.cancelled then .ok false else .error .overlongPause, s.record (.paused seconds false))
  else
    let s := s.glance w
    (.ok (!s.cancelled), s.record (.paused seconds (!s.cancelled)))

end Act

end CaptureControl
