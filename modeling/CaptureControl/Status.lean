import CaptureControl.Text.Blank
import CaptureControl.Text.LetterCase
import CaptureControl.Text.Split

/-!
# Status of the capture program

The state of the capture program as read from its status text. The text is free prose, so it is
searched for phrases, in any letter case: first for the configured marks of a running program, then
for the phrases of a stopped one, then for those of one that is starting. A program that says
nothing yet is starting.
-/

namespace CaptureControl

/-- The state of the capture program. -/
inductive Status where
  /-- It does not run. -/
  | stopped
  /-- It is on its way to run. -/
  | starting
  /-- It runs. -/
  | running
  /-- Its status text tells nothing. -/
  | unknown
  deriving Repr, DecidableEq

namespace Status

/-- The word for a state. -/
def word : Status → String
  | stopped => "stopped"
  | starting => "starting"
  | running => "running"
  | unknown => "unknown"

/-- The phrases of a stopped program. -/
def stoppedHints : List String :=
  ["not running", "not started", "stopped", "is not active"]

/-- The phrases of a starting program. -/
def startingHints : List String :=
  ["start", "initializ"]

/-- Whether a text holds one of some phrases. -/
def mentions (text : List Char) (phrases : List (List Char)) : Bool :=
  phrases.any fun phrase => Text.occursIn phrase text

/-- The state that a status text tells, given the marks of a running program. -/
def classify (text : Option String) (markers : List String) : Status :=
  match text with
  | none => starting
  | some text =>
    let lowered := Text.lower text.toList
    if Text.isBlankText text then starting
    else if mentions lowered (markers.map fun m => Text.lower m.toList) then running
    else if mentions lowered (stoppedHints.map String.toList) then stopped
    else if mentions lowered (startingHints.map String.toList) then starting
    else unknown

end Status

end CaptureControl
