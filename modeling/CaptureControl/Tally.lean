import CaptureControl.KeyedList
import CaptureControl.Time

/-!
# Tallies

What was done and how waits ended, counted. A tally counts control commands by name, waits by kind
and outcome, and the durations of waits by kind in buckets. Labels keep the order of their first
use. Several tallies may share a registry; each reads the counters of the whole registry, and takes
as many characters off the front of every name as its own names have there.
-/

namespace CaptureControl

/-- Counts under labels. -/
abbrev Counts (κ : Type) := KeyedList κ Nat

namespace Counts

variable {κ : Type} [DecidableEq κ]

/-- Adds one to the count of a label, which starts at none. -/
def add (label : κ) (counts : Counts κ) : Counts κ :=
  KeyedList.update label (fun n => n.getD 0 + 1) counts

/-- The count of a label. -/
def of (label : κ) (counts : Counts κ) : Nat :=
  (counts.get? label).getD 0

/-- Adding to the count of a label changes no other count. -/
theorem of_add (label label' : κ) (counts : Counts κ) :
    of label' (add label counts) = of label' counts + if label = label' then 1 else 0 := by
  simp only [of, add, KeyedList.get?_update]
  split
  next h => simp [h]
  next => rfl

end Counts

/-- Durations in buckets. -/
structure Histogram (τ : Type) where
  /-- For each bound, the observations up to it and above the bound before. -/
  counts : List Nat
  /-- The observations above all bounds. -/
  beyond : Nat
  /-- The sum of all observations. -/
  sum : τ
  deriving Repr

namespace Histogram

variable {τ : Type} [Time τ]

/-- The bounds of the buckets, in seconds. -/
def bounds : List Nat := [1, 5, 15, 30, 60, 120]

/-- No observation. -/
def empty : Histogram τ := ⟨bounds.map fun _ => 0, 0, 0⟩

/-- Counts an observation in the first bucket whose bound it does not exceed; the remainder tells
the observations that exceed all bounds. -/
def place (x : τ) : List Nat → List Nat → Nat → List Nat × Nat
  | bound :: bounds, count :: counts, beyond =>
    if x ≤ (bound : τ) then ((count + 1) :: counts, beyond)
    else
      let (counts, beyond) := place x bounds counts beyond
      (count :: counts, beyond)
  | _, counts, beyond => (counts, if x ≤ x then beyond + 1 else beyond)

/-- Adds an observation. One that compares with nothing is in no bucket, but in the sum. -/
def observe (x : τ) (h : Histogram τ) : Histogram τ :=
  let (counts, beyond) := place x bounds h.counts h.beyond
  { counts, beyond, sum := h.sum + x }

/-- The number of observations in all buckets. -/
def count (h : Histogram τ) : Nat :=
  h.counts.foldl (· + ·) h.beyond

end Histogram

/-- Counters of control commands and waits under a common first part of their names. -/
structure Tally (τ : Type) where
  /-- The first part of the names of the counters. -/
  scope : String
  /-- Commands, by name. -/
  commands : Counts String
  /-- Waits, by kind and outcome. -/
  waits : Counts (String × String)
  /-- Durations of waits, by kind. -/
  durations : KeyedList String (Histogram τ)
  deriving Repr

namespace Tally

variable {τ : Type} [Time τ]

/-- A tally that has counted nothing. -/
def empty (scope : String) : Tally τ := ⟨scope, [], [], []⟩

/-- Counts a command. -/
def countCommand (command : String) (t : Tally τ) : Tally τ :=
  { t with commands := t.commands.add command }

/-- Adds an observation to the histogram of a kind of waits. -/
def observe (kind : String) (x : τ) (durations : KeyedList String (Histogram τ)) :
    KeyedList String (Histogram τ) :=
  KeyedList.update kind (fun h => (h.getD .empty).observe x) durations

/-- Counts a wait, and its duration if it is known. -/
def recordWait (kind outcome : String) (elapsed : Option τ) (t : Tally τ) : Tally τ :=
  { t with
    waits := t.waits.add (kind, outcome)
    durations := match elapsed with
      | some x => observe kind x t.durations
      | none => t.durations }

/-- How often a command was counted. -/
def commandCount (command : String) (t : Tally τ) : Nat :=
  t.commands.of command

/-- How often a wait of a kind ended with an outcome. -/
def waitCount (kind outcome : String) (t : Tally τ) : Nat :=
  t.waits.of (kind, outcome)

/-- The durations of a kind of waits, if any was observed. -/
def histogram? (kind : String) (t : Tally τ) : Option (Histogram τ) :=
  t.durations.get? kind

/-- The counters of a tally: the full name of each, its label values joined by dots, and its
count. -/
def counters (t : Tally τ) : List (String × String × Nat) :=
  t.commands.map (fun (command, n) => (t.scope ++ "_commands_total", command, n))
    ++ t.waits.map fun ((kind, outcome), n) =>
      (t.scope ++ "_waits_total", kind ++ "." ++ outcome, n)

/-- The key under which a tally reports a counter of its registry: the name without the tally's own
first part, and the label values. -/
def reportKey (scope name labels : String) : String :=
  let short := String.ofList (name.toList.drop (scope.toList.length + 1))
  if labels.isEmpty then short else short ++ "." ++ labels

/-- All counters of a registry as a tally of the given scope reports them; of equal keys the later
counter counts. -/
def snapshot (scope : String) (registry : List (Tally τ)) : KeyedList String Nat :=
  (registry.flatMap counters).foldl
    (fun entries (name, labels, n) => KeyedList.put (reportKey scope name labels) n entries) []

end Tally

end CaptureControl
