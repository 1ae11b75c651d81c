import CaptureControl.Station
import CaptureControl.Proofs.Actions
import Mathlib

/-!
# What a tally shows

A tally keeps its counts in lists under labels, and durations in buckets. Here is what is read off
it: how often a command was counted, how many waits of a kind were counted in all, whatever their
outcome, and how many durations of a kind were observed; and how each of these changes when something
is counted.

A duration is in a bucket only if it can be compared with the bounds, or at least with itself. The
durations that waits report were cut off at zero, which no undefined number survives.

## Main definitions

* `Tally.waitTotal` — the waits of a kind, whatever their outcome
* `Tally.observed` — the durations of a kind that were observed
* `Time.Measured` — durations that were cut off at zero compare with themselves

## Main results

* `Tally.waitTotal_recordWait`, `Tally.waitCount_recordWait`, `Tally.observed_recordWait` — what
  counting a wait changes
-/

namespace CaptureControl

/-! ### Counts -/

namespace Counts

variable {κ : Type} [DecidableEq κ]

/-- The sum of the counts of all labels with a property. -/
def total (p : κ → Bool) (counts : Counts κ) : Nat :=
  ((counts.filter fun c => p c.1).map Prod.snd).sum

omit [DecidableEq κ] in
theorem total_cons (p : κ → Bool) (label : κ) (n : Nat) (counts : Counts κ) :
    total p ((label, n) :: counts) = (if p label then n else 0) + total p counts := by
  rw [total, List.filter_cons]
  split <;> simp_all [total]

/-- Adding to the count of a label adds to all sums that it is part of. -/
theorem total_add (p : κ → Bool) (label : κ) (counts : Counts κ) :
    total p (add label counts) = total p counts + if p label then 1 else 0 := by
  induction counts with
  | nil =>
    rw [add, KeyedList.update, total_cons]
    exact Nat.add_comm _ _
  | cons c counts ih =>
    obtain ⟨label', n⟩ := c
    rw [add, KeyedList.update]
    split
    next h =>
      subst h
      rw [total_cons, total_cons, Option.getD_some]
      split <;> omega
    next h =>
      have hrest := ih
      rw [add] at hrest
      rw [total_cons, hrest, total_cons, Nat.add_assoc]

end Counts

/-! ### Durations -/

/-- A type of durations in which every duration that was cut off at zero compares with itself. -/
class Time.Measured (τ : Type) [Time τ] : Prop where
  /-- The cut-off duration does. -/
  clamp_le_self : ∀ d : τ, Time.clamp d ≤ Time.clamp d

/-- A type of durations in which zero and whatever is greater compare with themselves. -/
theorem Time.Measured.of_le_self {τ : Type} [Time τ] (hzero : (0 : τ) ≤ 0)
    (hpos : ∀ d : τ, 0 < d → d ≤ d) : Time.Measured τ where
  clamp_le_self d := by
    unfold Time.clamp
    split
    next h => exact hpos d h
    next => exact hzero

instance : Time.Measured Rat := .of_le_self (le_refl (0 : Rat)) fun d _ => le_refl d

section Doubles

open Float.Model (UnpackedFloat)

/-- Every double but the undefined one compares with itself. -/
theorem UnpackedFloat.le_self {u : UnpackedFloat} (h : u ≠ .notANumber) : u.le u = true := by
  cases u with
  | notANumber => exact absurd rfl h
  | infinity s => cases s <;> rfl
  | zero s => rfl
  | finite s m e hm =>
    cases s <;> simp [UnpackedFloat.le, UnpackedFloat.compare, Std.ReflCmp.compare_self]

instance : Time.Measured Float := by
  refine .of_le_self (decide_eq_true ?_) fun d hd => decide_eq_true ?_
  · have hle : (0.0 : Float).toModel.unpack.le (0.0 : Float).toModel.unpack = true := by decide
    exact hle
  · have hlt : (0.0 : Float).toModel.unpack.lt d.toModel.unpack = true := of_decide_eq_true hd
    have hle : d.toModel.unpack.le d.toModel.unpack = true := by
      refine UnpackedFloat.le_self fun hu => ?_
      rw [hu] at hlt
      cases hz : (0.0 : Float).toModel.unpack <;> rw [hz] at hlt <;> cases hlt
    exact hle

end Doubles

namespace Histogram

variable {τ : Type} [Time τ] {x : τ}

/-- An observation that compares with itself is placed in one bucket. -/
theorem count_place (hx : x ≤ x) (bounds counts : List Nat) (beyond : Nat) :
    (place x bounds counts beyond).1.sum + (place x bounds counts beyond).2 =
      counts.sum + beyond + 1 := by
  fun_induction place x bounds counts beyond with
  | case1 bound bounds count counts beyond h =>
    simp only [List.sum_cons]
    omega
  | case2 bound bounds count counts beyond h counts' beyond' heq ih =>
    rw [heq] at ih
    rw [List.sum_cons, List.sum_cons]
    dsimp only at ih ⊢
    omega
  | case3 bounds counts beyond h =>
    dsimp only
    rw [if_pos hx, Nat.add_assoc]

omit [Time τ] in
theorem count_eq_sum (h : Histogram τ) : h.count = h.counts.sum + h.beyond := by
  rw [count, List.sum_eq_foldl, Nat.add_comm]
  have hfoldl (l : List Nat) : ∀ n, l.foldl (· + ·) n = n + l.foldl (· + ·) 0 := by
    induction l with
    | nil => simp
    | cons m l ih =>
      intro n
      rw [List.foldl_cons, List.foldl_cons, ih (n + m), ih (0 + m)]
      omega
  exact hfoldl _ _

/-- An observation that compares with itself counts as one. -/
theorem count_observe (hx : x ≤ x) (h : Histogram τ) : (h.observe x).count = h.count + 1 := by
  rw [count_eq_sum, count_eq_sum]
  exact count_place hx bounds h.counts h.beyond

end Histogram

/-! ### Tallies -/

namespace Tally

variable {τ : Type} [Time τ]

/-- How many waits of a kind were counted, whatever their outcome. -/
def waitTotal (kind : String) (t : Tally τ) : Nat :=
  t.waits.total fun label => label.1 = kind

/-- How many durations of waits of a kind are in the buckets. -/
def observed (kind : String) (t : Tally τ) : Nat :=
  ((t.histogram? kind).map Histogram.count).getD 0

section Record

variable (command kind outcome : String) (elapsed : Option τ) (t : Tally τ)

omit [Time τ] in
theorem commandCount_countCommand (command' : String) :
    (t.countCommand command).commandCount command' =
      t.commandCount command' + if command = command' then 1 else 0 :=
  Counts.of_add command command' t.commands

theorem waitTotal_recordWait (kind' : String) :
    (t.recordWait kind outcome elapsed).waitTotal kind' =
      t.waitTotal kind' + if kind = kind' then 1 else 0 := by
  have h := Counts.total_add (fun label : String × String => label.1 = kind') (kind, outcome) t.waits
  simp only [decide_eq_true_eq] at h
  exact h

theorem waitCount_recordWait (kind' outcome' : String) :
    (t.recordWait kind outcome elapsed).waitCount kind' outcome' =
      t.waitCount kind' outcome' + if kind = kind' ∧ outcome = outcome' then 1 else 0 := by
  have h := Counts.of_add (kind, outcome) (kind', outcome') t.waits
  simp only [Prod.mk.injEq] at h
  exact h

/-- A duration that is observed is not in the histogram of another kind. -/
theorem histogram?_recordWait_some (x : τ) {kind' : String} (hkind : kind ≠ kind') :
    (t.recordWait kind outcome (some x)).histogram? kind' = t.histogram? kind' := by
  simp only [histogram?, recordWait, observe, KeyedList.get?_update, if_neg hkind]

/-- A duration that is observed is in the buckets of its kind, and nowhere else. -/
theorem observed_recordWait {x : τ} (hx : x ≤ x) (kind' : String) :
    (t.recordWait kind outcome (some x)).observed kind' =
      t.observed kind' + if kind = kind' then 1 else 0 := by
  simp only [observed, histogram?, recordWait, observe, KeyedList.get?_update]
  split
  next h =>
    subst h
    rw [Option.map_some, Option.getD_some, Histogram.count_observe hx]
    cases t.durations.get? kind <;> rfl
  next => rfl

end Record

end Tally

theorem WaitKind.word_injective : Function.Injective WaitKind.word := by
  intro k k' h
  cases k <;> cases k' <;> first | rfl | exact absurd h (by decide)

end CaptureControl
