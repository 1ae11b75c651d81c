import CaptureControl.Rehearsal.Script
import CaptureControl.Text.Split

/-!
# The rehearsed world

The world that plays a script. Where the script says nothing, connections and cursors open, the
database replies with an empty result, look-ups fail, the registry holds no sample, and the server of
the metrics page does not answer. Pauses of any length take their time unless the script cancels
them; a real clock times no pause beyond a longest one.
-/

namespace CaptureControl.Rehearsal

variable {τ : Type} [Time τ]

/-- The moment after an answer with effects. -/
def Effects.moment (e : Effects τ) (s : Script τ) (clock : τ) : Moment (Script τ) τ :=
  ⟨s, e.cost.elim clock (clock + ·), e.cancels⟩

/-- An answer that takes no time. -/
def atOnce {α : Type} (answer : α) (s : Script τ) (clock : τ) : α × Moment (Script τ) τ :=
  (answer, ⟨s, clock, false⟩)

/-- What becomes of something that is opened: the first item of a list says so. -/
def opening (faults : List (Option (Fault τ))) : Except (Fault τ) Unit :=
  match faults with
  | some fault :: _ => .error fault
  | _ => .ok ()

/-- A page as it arrives. Its media type is sent in ASCII, and with another one it does not
arrive. -/
def arriving (page : Page) : Except (Fault τ) Page :=
  let isAscii (c : Char) : Bool := c.toNat < 0x80
  let written := (page.mediaType.getD "").toList
  match written.dropWhile isAscii with
  | [] => .ok page
  | c :: cs =>
    .error (.beyondAscii (written.takeWhile isAscii).length
      (c :: cs.takeWhile fun d => !isAscii d))

namespace Script

/-- Runs a statement: the first reply that fits becomes the current one. -/
def execute (statement : String) (s : Script τ) (clock : τ) :
    Except (Fault τ) Unit × Moment (Script τ) τ :=
  let fits (r : Reply τ) : Bool := Text.occursIn r.phrase.toList statement.toList
  let (reply, replies) := (Cue.take fits s.replies).getD (.empty, s.replies)
  (reply.outcome .execute, reply.effects.moment { s with current := reply, replies } clock)

/-- Delivers the rows of the current reply. -/
def fetch (s : Script τ) : Except (Fault τ) (Option (List Rows.Row)) :=
  (s.current.outcome .fetch).map fun _ => s.current.rows

/-- Answers a look-up. -/
def lookup (s : Script τ) (clock : τ) : Except (Fault τ) Bool × Moment (Script τ) τ :=
  match Cue.take (fun _ => true) s.lookups with
  | some (turn, lookups) => (turn.answer, turn.effects.moment { s with lookups } clock)
  | none => atOnce (.error (.external .runtime "script exhausted")) s clock

/-- Sends the next metrics page. -/
def page (s : Script τ) (clock : τ) : Except (Fault τ) Page × Moment (Script τ) τ :=
  match s.pages with
  | turn :: pages => (turn.answer.bind arriving, turn.effects.moment { s with pages } clock)
  | [] => atOnce (.error (.external .refused "no page is left")) s clock

/-- Answers a request. -/
def serve (r : Request) (s : Script τ) (clock : τ) :
    Except (Fault τ) r.Answer × Moment (Script τ) τ :=
  match r with
  | .connect _ => atOnce (opening s.connects) { s with connects := s.connects.drop 1 } clock
  | .cursor _ =>
    atOnce (opening s.cursors) { s with cursors := s.cursors.drop 1, current := .empty } clock
  | .execute _ statement _ => s.execute statement clock
  | .fetch _ => atOnce s.fetch s clock
  | .closeCursor _ => atOnce (s.current.outcome .closeCursor) s clock
  | .commit _ => atOnce (s.current.outcome .commit) s clock
  | .close _ => atOnce (opening [s.closing]) s clock
  | .lookup _ _ => s.lookup clock
  | .collect => atOnce (.ok s.families) s clock
  | .page _ => s.page clock
  | .closeMetrics => atOnce (.ok ()) s clock

/-- Lets a pause pass. The number of completed pauses is looked at first, and then whether the pause
reaches the clock reading at which it is cut short. Each limit cancels once. -/
def sleep (seconds : τ) (s : Script τ) (clock : τ) : Moment (Script τ) τ :=
  if s.cancelAfter.any (· ≤ s.pauses) then ⟨{ s with cancelAfter := none }, clock, true⟩
  else
    let later := clock + seconds
    match s.cancelAt with
    | some limit =>
      if limit ≤ later then
        ⟨{ s with cancelAt := none }, if clock < limit then limit else clock, true⟩
      else ⟨{ s with pauses := s.pauses + 1 }, later, false⟩
    | none => ⟨{ s with pauses := s.pauses + 1 }, later, false⟩

end Script

/-- The rehearsed world. Nobody but the script sets the cancel flag. -/
def world : World (Script τ) τ := ⟨Script.serve, none, Script.sleep, fun s _ => (false, s)⟩

/-- The rehearsed world with a longest pause. -/
def worldUpTo (longest : τ) : World (Script τ) τ := { world with longest }

/-- The longest pause, in seconds, that the clocks of real programs time: the greatest double up to
which a number of nanoseconds has 63 binary digits. -/
def longestPause : Float := 9223372036.854774

/-- The longest pause that the clocks of real programs time, in whole seconds. -/
def longestWholePause : Rat := 9223372036

/-- The rehearsed world with exact times and a longest pause. -/
def boundedWorld : World (Script Rat) Rat := worldUpTo longestWholePause

end CaptureControl.Rehearsal
