import CaptureControl.Proofs.Deadlines
import Mathlib.Data.List.Induction

/-!
# What an allowance tells

A poll asks its allowance for three things, each at some clock reading: how long the wait has gone
on, how much time is left, and whether a limit is reached. They are computed apart from one another,
with comparisons of their own. Here they are shown to agree, for whatever clock readings, also for
those of a clock that went back to before the start. Times are exact numbers.

What an allowance holds of its uses is the number of evaluations since it was last started, and when
that was; so its uses matter only from the last start on.

## Main definitions

* `Allowance.Use`, `Allowance.after` — the uses of an allowance, and the allowance after them
* `Allowance.consumed`, `Allowance.startedLast` — what counts of the uses of an allowance

## Main results

* `Allowance.after_eq` — an allowance holds what counts of its uses, and nothing else
* `Allowance.exhausted_iff` — a limit is reached if no evaluation or no time is left
* `Allowance.exhausted_of_le` — it stays reached until the next start
* `Allowance.views_agree` — all of this together, for every allowance that is accepted
-/

namespace CaptureControl

namespace Allowance

/-! ### Uses -/

section Uses

variable {τ : Type}

/-- A use of an allowance. -/
inductive Use (τ : Type) where
  /-- A wait starts. -/
  | start (now : τ)
  /-- There is one more evaluation. -/
  | consume

/-- The allowance after a use. -/
def Use.apply (u : Use τ) (a : Allowance τ) : Allowance τ :=
  match u with
  | start now => a.start now
  | consume => a.consume

/-- The allowance after some uses, one after another. -/
def after (a : Allowance τ) (uses : List (Use τ)) : Allowance τ :=
  uses.foldl (fun a u => u.apply a) a

theorem after_concat (a : Allowance τ) (uses : List (Use τ)) (u : Use τ) :
    a.after (uses ++ [u]) = u.apply (a.after uses) :=
  List.foldl_concat ..

/-- The clock reading of a start. -/
def Use.start? : Use τ → Option τ
  | start now => some now
  | consume => none

/-- The number of evaluations since the last start, or since the beginning. -/
def consumed (uses : List (Use τ)) : Nat :=
  (uses.reverse.takeWhile fun u => u.start?.isNone).length

theorem consumed_concat (uses : List (Use τ)) (u : Use τ) :
    consumed (uses ++ [u]) = if u.start?.isNone then consumed uses + 1 else 0 := by
  rw [consumed, List.reverse_append, List.reverse_singleton, List.singleton_append,
    List.takeWhile_cons]
  split <;> rfl

/-- Evaluations are counted one by one. -/
theorem consumed_append_replicate (uses : List (Use τ)) (n : Nat) :
    consumed (uses ++ List.replicate n .consume) = consumed uses + n := by
  induction n with
  | zero => simp
  | succ n ih =>
    rw [List.replicate_succ', ← List.append_assoc, consumed_concat, ih]
    rfl

variable [Time τ] {a : Allowance τ}

/-- The clock reading at the last start; zero if there was none. -/
def startedLast (uses : List (Use τ)) : τ :=
  (uses.reverse.findSome? Use.start?).getD 0

theorem startedLast_concat (uses : List (Use τ)) (u : Use τ) :
    startedLast (uses ++ [u]) = u.start?.getD (startedLast uses) := by
  rw [startedLast, List.reverse_append, List.reverse_singleton, List.singleton_append,
    List.findSome?_cons]
  cases u <;> rfl

/-- Evaluations start nothing. -/
theorem startedLast_append_replicate (uses : List (Use τ)) (n : Nat) :
    startedLast (uses ++ List.replicate n .consume) = startedLast uses := by
  induction n with
  | zero => simp
  | succ n ih =>
    rw [List.replicate_succ', ← List.append_assoc, startedLast_concat, ih]
    rfl

/-- **An allowance holds what counts of its uses**: its limits are the same, the evaluations are
those since the last start, and it knows when that was. -/
theorem after_eq (hattempts : a.attempts = 0) (hstarted : a.startedAt = 0) (uses : List (Use τ)) :
    a.after uses = ⟨a.maxAttempts, a.maxDuration, consumed uses, startedLast uses⟩ := by
  induction uses using List.reverseRecOn with
  | nil =>
    obtain ⟨maxAttempts, maxDuration, attempts, startedAt⟩ := a
    cases hattempts
    cases hstarted
    rfl
  | append_singleton uses u ih =>
    rw [after_concat, ih, consumed_concat, startedLast_concat]
    cases u <;> rfl

end Uses

/-! ### The three views -/

section Views

variable {a b : Allowance Rat} {now later d : Rat}

theorem elapsed_eq (a : Allowance Rat) (now : Rat) : a.elapsed now = max 0 (now - a.startedAt) :=
  Time.clamp_eq_max _

theorem elapsed_nonneg (a : Allowance Rat) (now : Rat) : 0 ≤ a.elapsed now := by
  rw [elapsed_eq]
  exact le_max_left 0 _

theorem elapsed_mono (a : Allowance Rat) (h : now ≤ later) : a.elapsed now ≤ a.elapsed later := by
  rw [elapsed_eq, elapsed_eq]
  exact max_le_max_left 0 (sub_le_sub_right h _)

theorem remaining_eq (hd : a.maxDuration = some d) (now : Rat) :
    a.remaining now = some (max 0 (d - a.elapsed now)) := by
  rw [remaining, hd, Option.map_some, Time.clamp_eq_max]

theorem remaining_eq_none_iff : a.remaining now = none ↔ a.maxDuration = none :=
  Option.map_eq_none_iff

/-- No time is left exactly if the time limit has passed. -/
theorem remaining_eq_zero_iff (hd : a.maxDuration = some d) :
    a.remaining now = some 0 ↔ d ≤ a.elapsed now := by
  rw [remaining_eq hd, Option.some.injEq, max_eq_left_iff, sub_nonpos]

/-- The time that passed and the time that is left make up the limit, until it is exceeded. -/
theorem elapsed_add_remaining (a : Allowance Rat) (d now : Rat) :
    a.elapsed now + max 0 (d - a.elapsed now) = max d (a.elapsed now) := by
  rw [← max_add_add_left, add_zero, add_sub_cancel, max_comm]

/-- **A limit is reached** if as many evaluations were made as allowed, or if no time is left. -/
theorem exhausted_iff :
    a.exhausted now = true ↔ (∃ n ∈ a.maxAttempts, n ≤ a.attempts) ∨ a.remaining now = some 0 := by
  rw [exhausted, Bool.or_eq_true, Option.any_eq_true, Option.any_eq_true]
  refine or_congr (by simp) ?_
  cases hd : a.maxDuration with
  | none => simp [remaining, hd]
  | some d => simp [remaining_eq_zero_iff hd]

/-- **A limit stays reached**, as long as the wait goes on: with the same limits and the same start,
after more evaluations, and later on. -/
theorem exhausted_of_le (hattempts : b.maxAttempts = a.maxAttempts)
    (hduration : b.maxDuration = a.maxDuration) (hstarted : b.startedAt = a.startedAt)
    (hmore : a.attempts ≤ b.attempts) (hle : now ≤ later) (ha : a.exhausted now = true) :
    b.exhausted later = true := by
  rw [exhausted_iff] at ha ⊢
  rcases ha with ⟨n, hn, hreached⟩ | hover
  · exact .inl ⟨n, hattempts ▸ hn, hreached.trans hmore⟩
  · cases hd : a.maxDuration with
    | none => cases (remaining_eq_none_iff.mpr hd).symm.trans hover
    | some d =>
      have hsame : b.elapsed later = a.elapsed later := by rw [elapsed_eq, elapsed_eq, hstarted]
      refine .inr ((remaining_eq_zero_iff (hduration.trans hd)).mpr ?_)
      rw [hsame]
      exact ((remaining_eq_zero_iff hd).mp hover).trans (a.elapsed_mono hle)

end Views

/-! ### Accepted allowances -/

/-- An allowance that is accepted is unused, and has the limits that were given. A time limit is
positive. -/
theorem eq_of_make? {τ : Type} [Time τ] {maxAttempts : Option Int} {maxDuration : Option τ}
    {a : Allowance τ} (h : make? maxAttempts maxDuration = .ok a) :
    a = ⟨maxAttempts.map Int.toNat, maxDuration, 0, 0⟩ ∧ ∀ d ∈ maxDuration, ¬ d ≤ 0 := by
  unfold make? at h
  split at h
  · cases h
  · split at h
    · cases h
    · split at h
      · cases h
      next hduration =>
        refine ⟨(Except.ok.inj h).symm, ?_⟩
        rintro d rfl
        simpa using hduration

/-- **The views of an allowance agree.** Take any allowance that is accepted, and start and use it
in any way. At every clock reading, one before the start included: the time that passed is counted
from the last start; a limit is reached exactly if the evaluations since then are as many as allowed
or no time is left; the time left is told exactly if there is a time limit, it is not negative, not
more than the limit, it never grows, and with the time that passed it makes up the limit until that
is exceeded. A limit that is reached stays so, however many evaluations follow, until the next
start. -/
theorem views_agree {maxAttempts : Option Int} {maxDuration : Option Rat} {a : Allowance Rat}
    (h : make? maxAttempts maxDuration = .ok a) (uses : List (Use Rat)) :
    let used := a.after uses
    (∀ now, used.elapsed now = max 0 (now - startedLast uses)) ∧
      (∀ now, used.exhausted now = true ↔
        (∃ n ∈ maxAttempts, n ≤ consumed uses) ∨ used.remaining now = some 0) ∧
      (∀ now, used.remaining now = none ↔ maxDuration = none) ∧
      (∀ d ∈ maxDuration, ∀ now later, now ≤ later →
        ∃ left left', used.remaining now = some left ∧ used.remaining later = some left' ∧
          0 ≤ left' ∧ left' ≤ left ∧ left ≤ d ∧
          used.elapsed now + left = max d (used.elapsed now)) ∧
      ∀ now later, now ≤ later → used.exhausted now = true →
        ∀ n, (a.after (uses ++ List.replicate n .consume)).exhausted later = true := by
  intro used
  obtain ⟨rfl, hpositive⟩ := eq_of_make? h
  have hused : used = ⟨maxAttempts.map Int.toNat, maxDuration, consumed uses, startedLast uses⟩ :=
    after_eq rfl rfl uses
  have hduration : used.maxDuration = maxDuration := by rw [hused]
  refine ⟨fun now => ?_, fun now => ?_, fun now => ?_, ?_, fun now later hle hex n => ?_⟩
  · rw [elapsed_eq, hused]
  · have hlimits : (∃ n ∈ used.maxAttempts, n ≤ used.attempts) ↔
        ∃ n ∈ maxAttempts, n ≤ consumed uses := by
      rw [hused]
      cases maxAttempts with
      | none => simp
      | some n => simp
    rw [exhausted_iff, hlimits]
  · rw [remaining_eq_none_iff, hduration]
  · rintro d rfl now later hle
    refine ⟨_, _, remaining_eq hduration now, remaining_eq hduration later, le_max_left 0 _, ?_, ?_,
      used.elapsed_add_remaining d now⟩
    · exact max_le_max_left 0 (sub_le_sub_left (used.elapsed_mono hle) d)
    · exact max_le (not_le.mp (hpositive d rfl)).le (sub_le_self d (used.elapsed_nonneg now))
  · refine exhausted_of_le ?_ ?_ ?_ ?_ hle hex
    all_goals rw [hused, after_eq rfl rfl]
    · rw [startedLast_append_replicate]
    · rw [consumed_append_replicate]
      exact Nat.le_add_right _ n

/-- An allowance of three evaluations or five seconds. -/
def threeOrFive : Allowance Rat := ⟨some 3, some 5, 0, 0⟩

/-- A wait that starts at ten, after an evaluation of an earlier one. -/
def restarted : List (Use Rat) := [.consume, .start 10, .consume, .consume]

/-- Two evaluations were made since the start. At seven, before the start, no time has passed; at
fifteen none is left, and so it stays after more evaluations. -/
theorem views_agree_restarted :
    make? (some 3) (some 5) = .ok threeOrFive ∧ consumed restarted = 2 ∧
      (threeOrFive.after restarted).elapsed 7 = 0 ∧
      (threeOrFive.after restarted).remaining 15 = some 0 ∧
      (threeOrFive.after restarted).exhausted 15 = true ∧
      (threeOrFive.after (restarted ++ List.replicate 4 .consume)).exhausted 20 = true := by
  have hmake : make? (some 3) (some (5 : Rat)) = .ok threeOrFive := by with_unfolding_all rfl
  obtain ⟨helapsed, hexhausted, -, -, hstays⟩ := views_agree hmake restarted
  have hstart : startedLast restarted = 10 := rfl
  have hover : (threeOrFive.after restarted).remaining 15 = some 0 := by decide +kernel
  have hreached := (hexhausted 15).mpr (.inr hover)
  refine ⟨hmake, rfl, ?_, hover, hreached, hstays 15 20 (by norm_num) hreached 4⟩
  rw [helapsed, hstart]
  norm_num

end Allowance

end CaptureControl
