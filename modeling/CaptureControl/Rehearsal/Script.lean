import CaptureControl.Session

/-!
# Scripts

A rehearsal runs actions against a world whose answers are written down beforehand. A script says
what is answered, how often, how long it takes, and when waiting is cancelled; a script that is
played is also the state of the rehearsed world, from which what was used up has been taken.

Cues may be used more than once, and are tried in their order: the first cue that fits and has uses
left is taken.
-/

namespace CaptureControl.Rehearsal

/-! ### Cues -/

/-- Something scripted for a number of uses, or for any number of them. -/
structure Cue (α : Type) where
  /-- What is scripted. -/
  item : α
  /-- The uses that are left, if they are limited. -/
  uses : Option Nat
  deriving Repr

namespace Cue

variable {α : Type}

/-- Whether a use is left. -/
def isLive (c : Cue α) : Bool :=
  c.uses ≠ some 0

/-- The cue after one more use. -/
def spend (c : Cue α) : Cue α :=
  { c with uses := c.uses.map (· - 1) }

/-- Takes the first cue that fits and has a use left; gives what it says and the cues after that. -/
def take (fits : α → Bool) : List (Cue α) → Option (α × List (Cue α))
  | [] => none
  | c :: cs =>
    if fits c.item && c.isLive then some (c.item, c.spend :: cs)
    else (take fits cs).map fun (item, cs) => (item, c :: cs)

end Cue

/-! ### Lines of a script -/

/-- What an answer brings with it. -/
structure Effects (τ : Type) where
  /-- The time that it takes, if it takes any. -/
  cost : Option τ
  /-- Whether it sets the cancel flag. -/
  cancels : Bool

/-- An answer or a fault, with its effects. -/
structure Turn (τ α : Type) where
  /-- The answer or the fault. -/
  answer : Except (Fault τ) α
  /-- The effects. -/
  effects : Effects τ

/-- A step of a statement at which it may fail. -/
inductive Step where
  /-- The statement is run. -/
  | execute
  /-- Its rows are delivered. -/
  | fetch
  /-- Its cursor is closed. -/
  | closeCursor
  /-- Its effect is committed. -/
  | commit
  deriving Repr, DecidableEq

/-- How the database replies to a statement. -/
structure Reply (τ : Type) where
  /-- What the statement has to contain. -/
  phrase : String
  /-- The rows of the result. -/
  rows : Option (List Rows.Row)
  /-- The step that fails, and its fault. -/
  failure : Option (Step × Fault τ)
  /-- The effects of running the statement. -/
  effects : Effects τ

namespace Reply

variable {τ : Type}

/-- A reply without rows, faults and effects. -/
def empty : Reply τ := ⟨"", some [], none, ⟨none, false⟩⟩

/-- The outcome of a step of the statement. -/
def outcome (r : Reply τ) (step : Step) : Except (Fault τ) Unit :=
  match r.failure with
  | some (failing, fault) => if failing = step then .error fault else .ok ()
  | none => .ok ()

end Reply

/-! ### Scripts -/

/-- The script of a rehearsal. -/
structure Script (τ : Type) where
  /-- What becomes of connections when they are opened: a fault, or nothing special. -/
  connects : List (Option (Fault τ))
  /-- What becomes of cursors when they are opened. -/
  cursors : List (Option (Fault τ))
  /-- The fault in closing a connection, if closing fails. -/
  closing : Option (Fault τ)
  /-- The replies of the database. -/
  replies : List (Cue (Reply τ))
  /-- The reply to the statement at hand. -/
  current : Reply τ
  /-- The answers to look-ups. -/
  lookups : List (Cue (Turn τ Bool))
  /-- The samples of the registry. -/
  families : List Family
  /-- The metrics pages, each sent once. -/
  pages : List (Turn τ Page)
  /-- The number of completed pauses after which waiting is cancelled, if it is. -/
  cancelAfter : Option Nat
  /-- The clock reading at which a pause is cut short, if there is one. -/
  cancelAt : Option τ
  /-- The number of completed pauses. -/
  pauses : Nat

/-- The script that scripts nothing. -/
def Script.empty {τ : Type} : Script τ where
  connects := []
  cursors := []
  closing := none
  replies := []
  current := .empty
  lookups := []
  families := []
  pages := []
  cancelAfter := none
  cancelAt := none
  pauses := 0

end CaptureControl.Rehearsal
