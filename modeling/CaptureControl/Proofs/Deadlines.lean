import CaptureControl.Proofs.Pacing
import Mathlib.Data.Rat.Floor
import Mathlib.Tactic.Linarith

/-!
# Deadlines

A wait whose time is limited pauses for its interval, or for the time that is left if that is
shorter, so that a last evaluation takes place at the deadline and none after it. Times are exact
numbers here: of doubles, whose sums are rounded, none of this is true to the last digit.

Two things are asked of the outside: a pause that is not cut short takes exactly as long as it was
asked to, and an evaluation takes no negative time. How long it takes is left open.

## Implementation notes

The one invariant is `Proceeds.clock_mem`. After `k` rounds that decided nothing, at least `k`
intervals have passed, or else the deadline is reached; and in no case is it exceeded. The lower
bound counts the rounds, the upper one places the evaluations.

## Main definitions

* `World.Punctual` — pauses take exactly as long as they were asked to
* `Act.Forward` — an action takes no negative time

## Main results

* `Poll.Proceeds.clock_mem` — where the clock is after some rounds
* `Poll.wait_until_deadline` — evaluations and pauses of a wait keep to its deadline
* `Poll.wait_within_duration` — a wait whose time is limited ends
-/

namespace CaptureControl

/-! ### Exact times -/

theorem Time.clamp_eq_max (d : Rat) : Time.clamp d = max 0 d := by
  unfold Time.clamp
  split
  next h => exact (max_eq_right (le_of_lt h)).symm
  next h => exact (max_eq_left (not_lt.mp h)).symm

theorem Time.shorter_eq_min (a b : Rat) : Time.shorter a b = min a b := by
  unfold Time.shorter
  split
  next h => exact (min_eq_right (le_of_lt h)).symm
  next h => exact (min_eq_left (not_lt.mp h)).symm

variable {σ : Type}

/-- A pause that is not cut short takes exactly as long as it was asked to. -/
def World.Punctual (w : World σ Rat) : Prop :=
  ∀ seconds world clock, (w.sleep seconds world clock).cancels = false →
    (w.sleep seconds world clock).clock = clock + seconds

/-- However an action ends, it took no negative time. -/
def Act.Forward (w : World σ Rat) (x : Act σ Rat Bool) : Prop :=
  ∀ s, s.clock ≤ (x w s).2.clock

theorem World.Punctual.pause {w : World σ Rat} (hw : w.Punctual) {s s' : Session σ Rat}
    {seconds : Rat} (hseconds : 0 ≤ seconds) (hp : Act.Pauses seconds w s (.ok true) s') :
    s'.clock = s.clock + seconds := by
  cases hp with
  | slept _ _ hset => exact hw seconds s.world s.clock hset
  | looked hlasts _ =>
    have hzero : seconds = 0 :=
      le_antisymm (not_not.mp fun h => Bool.false_ne_true (hlasts h).symm) hseconds
    rw [hzero, add_zero]
    rfl

/-- What is shorter than a pause that can be timed can be timed. -/
theorem World.Times.of_le {w : World σ Rat} {a b : Rat} (hb : w.Times b) (hle : a ≤ b) :
    w.Times a := by
  rcases hb with hzero | hlongest
  · exact Or.inl (hle.trans hzero)
  · exact Or.inr fun longest hl hlt => hlongest longest hl (lt_of_lt_of_le hlt hle)

namespace Poll

variable {w : World σ Rat} {p : Poll Rat} {c : Act σ Rat Bool} {label : String} {D : Rat}
  {s s₁ s' h : Session σ Rat} {answer : Except (Fault Rat) Bool} {steps : List (Step Rat)}
  {v : Verdict Rat} {k : Nat} {time : Rat}

theorem lasted_eq (started now : Rat) : lasted started now = max 0 (now - started) :=
  Time.clamp_eq_max _

theorem pauseAfter_eq (hD : p.allowance.maxDuration = some D) (time : Rat) :
    p.pauseAfter time = min p.interval (max 0 (D - time)) := by
  rw [pauseAfter, hD]
  dsimp only
  rw [Time.shorter_eq_min, Time.clamp_eq_max]

theorem Evaluates.clock_le (hc : c.Forward w) (he : Evaluates w c h answer s₁) :
    h.clock ≤ s₁.clock := by
  have hforward := hc ((h.glance w).record (.evaluating h.clock))
  rwa [he.result] at hforward

/-- Where a poll goes on, the deadline is not reached. -/
theorem lt_of_decision_eq_none (hD : p.allowance.maxDuration = some D)
    (hd : p.decision label k time answer = none) : time < D := by
  refine lt_of_not_ge fun hle => ?_
  exact not_atLimit_of_decision_eq_none hd (Or.inr ⟨D, hD, hle⟩)

/-! ### Where the clock is -/

section Timed

variable (hp : p.Accepted) (hD : p.allowance.maxDuration = some D) (hw : w.Punctual)
  (hc : c.Forward w)

include hp hD

theorem Accepted.duration_pos : 0 < D :=
  not_le.mp (hp.duration D hD)

omit hD in
theorem Accepted.interval_nonneg : 0 ≤ p.interval :=
  not_lt.mp hp.interval

/-- **A pause is not negative, and not longer than the interval.** -/
theorem pauseAfter_mem (time : Rat) : 0 ≤ p.pauseAfter time ∧ p.pauseAfter time ≤ p.interval := by
  rw [pauseAfter_eq hD]
  exact ⟨le_min hp.interval_nonneg (le_max_left 0 _), min_le_left _ _⟩

include hw hc

/-- A round that decides nothing ends its evaluation before the deadline, so that its pause is the
interval or the time that is left. -/
theorem Defers.clock_eq {started : Rat} (hstarted : started ≤ h.clock)
    (hr : Defers w p c label started k h answer s₁ (.ok true) s') :
    h.clock ≤ s₁.clock ∧ s₁.clock < started + D ∧
      s'.clock = s₁.clock + min p.interval (started + D - s₁.clock) := by
  have hforward := hr.evaluates.clock_le hc
  have hlasted : lasted started s₁.clock = s₁.clock - started := by
    rw [lasted_eq]
    exact max_eq_right (by linarith)
  have hbefore := lt_of_decision_eq_none hD hr.undecided
  rw [hlasted] at hbefore
  have hleft : p.pauseAfter (lasted started s₁.clock) =
      min p.interval (started + D - s₁.clock) := by
    rw [hlasted, pauseAfter_eq hD, max_eq_right (by linarith)]
    congr 1
    linarith
  have hclock := hw.pause (pauseAfter_mem hp hD _).1 (Act.pauses_of_eq hr.pause)
  rw [Session.clock_noted, hleft] at hclock
  exact ⟨hforward, by linarith, hclock⟩

/-- **Where the clock is after some rounds.** As many intervals have passed, or else the deadline is
reached; it is not exceeded. -/
theorem Proceeds.clock_mem (hs : Proceeds w p c label s steps h) :
    s.clock + min (evaluations steps * p.interval) D ≤ h.clock ∧ h.clock ≤ s.clock + D := by
  have hD₀ : 0 < D := hp.duration_pos hD
  have hI : 0 ≤ p.interval := hp.interval_nonneg
  induction hs with
  | start => simp [hD₀.le]
  | @round steps h answer s₁ h' _ hr ih =>
    obtain ⟨hlower, -⟩ := ih
    have hpassed : 0 ≤ min (evaluations steps * p.interval) D := by positivity
    obtain ⟨hforward, hbefore, hclock⟩ := hr.clock_eq hp hD hw hc (by linarith)
    have hreached : evaluations steps * p.interval ≤ s₁.clock - s.clock := by
      have hmin : min (evaluations steps * p.interval) D ≤ s₁.clock - s.clock := by linarith
      exact (min_le_iff.mp hmin).resolve_right (by linarith)
    rw [evaluations_round, hclock]
    constructor
    -- A whole interval is one more of them; the time that is left leads to the deadline.
    · rcases min_cases p.interval (s.clock + D - s₁.clock) with ⟨hwhole, -⟩ | ⟨hleft, -⟩
      · have hnext := min_le_left (((evaluations steps + 1 : Nat) : Rat) * p.interval) D
        push_cast at hnext ⊢
        linarith
      · have hnext := min_le_right (((evaluations steps + 1 : Nat) : Rat) * p.interval) D
        linarith
    · have hleft := min_le_right p.interval (s.clock + D - s₁.clock)
      linarith

/-- Rounds that decided nothing are not more than the intervals that fit into the time, the last one
of them in part. -/
theorem Proceeds.evaluations_le (hI : 0 < p.interval)
    (hs : Proceeds w p c label s steps h) : evaluations steps ≤ ⌈D / p.interval⌉₊ := by
  cases hs with
  | start => exact Nat.zero_le _
  | @round steps h answer s₁ h' hs hr =>
    have hlower := (hs.clock_mem hp hD hw hc).1
    have hD₀ : 0 < D := hp.duration_pos hD
    have hpassed : 0 ≤ min (evaluations steps * p.interval) D := by positivity
    obtain ⟨hforward, hbefore, -⟩ := hr.clock_eq hp hD hw hc (by linarith)
    have hmin : min (evaluations steps * p.interval) D < D := by linarith
    have hreached : evaluations steps * p.interval < D :=
      (min_lt_iff.mp hmin).resolve_right (lt_irrefl D)
    rw [evaluations_round]
    exact Nat.lt_ceil.mpr ((lt_div_iff₀ hI).mpr hreached)

/-! ### Deadlines -/

omit hw hc in
/-- A wait is at its deadline when that is the limit it has reached. -/
theorem le_sub_of_le_lasted {now : Rat} (hle : D ≤ lasted s.clock now) : D ≤ now - s.clock := by
  rw [lasted_eq] at hle
  exact (le_max_iff.mp hle).resolve_left (not_le.mpr (hp.duration_pos hD))

omit hw hc in
/-- A wait times out after all evaluations that it is allowed, or when its time is over. -/
theorem Concludes.used_up_of_timeout {e : Fault Rat}
    (hconcludes : Concludes w p c label s steps (.error e) s') (he : e.isA .timeout = true) :
    p.allowance.maxAttempts = some (evaluations steps) ∨ D ≤ s'.clock - s.clock := by
  rcases hconcludes.atLimit_of_timeout he with ⟨n, hn, hle⟩ | ⟨D', hD', hle⟩
  · have hmost := (hconcludes.steps_le hp hn).1
    exact Or.inl (hn.trans (congrArg some (Nat.le_antisymm hle hmost)))
  · cases hD.symm.trans hD'
    exact Or.inr (le_sub_of_le_lasted hp hD hle)

/-- A wait that nothing but its deadline ends has its last evaluation there, if evaluations take no
time. -/
theorem Fruitless.exists_evaluated_deadline (hf : Fruitless w p c label s)
    (ht : w.Times p.interval) (hn : p.allowance.maxAttempts = none)
    (htimeless : ∀ h, (c w h).2.clock = h.clock)
    (hconcludes : Concludes w p c label s steps v s') :
    ∃ before answer, steps = before ++ [.evaluated (s.clock + D) answer] := by
  obtain ⟨before, h, answer, s₁, hs, he, rfl, -, hlimit, -⟩ :=
    (hf.of_concludes hconcludes).resolve_right fun ⟨_, _, _, _, _, hr, _⟩ =>
      hr.not_times (ht.of_le (pauseAfter_mem hp hD _).2)
  have hclock : s₁.clock = h.clock := by
    have hrun := htimeless ((h.glance w).record (.evaluating h.clock))
    rwa [he.result] at hrun
  have hover : D ≤ h.clock - s.clock := by
    rcases hlimit with ⟨n, hn', -⟩ | ⟨D', hD', hle⟩
    · cases hn.symm.trans hn'
    · cases hD.symm.trans hD'
      rw [hclock] at hle
      exact le_sub_of_le_lasted hp hD hle
  have hupper := (hs.clock_mem hp hD hw hc).2
  have hdeadline : h.clock = s.clock + D := by linarith
  exact ⟨before, answer, by rw [hdeadline]⟩

/-- **A wait keeps to its deadline.** Take a poll with a time limit `D`, in a world whose pauses
take as long as they were asked to, and a condition whose evaluations take no negative time. Every
evaluation starts within `D` of the start of the wait; every pause is neither negative nor longer
than the interval; and the wait times out only after all evaluations that it is allowed, or when `D`
is over. If evaluations take no time, the interval is positive and can be timed, and nothing but the
time limit ends the wait, then it ends with an evaluation exactly at `D`. -/
theorem wait_until_deadline (d : Option String) (s : Session σ Rat) :
    (∃ steps v s', p.wait c d w s = (v, s') ∧ Goes w p c d s steps v s' ∧
      (∀ time answer, .evaluated time answer ∈ steps → time ≤ s.clock + D) ∧
      (∀ seconds completed, .paused seconds completed ∈ steps →
        0 ≤ seconds ∧ seconds ≤ p.interval) ∧
      ∀ e, v = .error e → e.isA .timeout = true →
        p.allowance.maxAttempts = some (evaluations steps) ∨ D ≤ s'.clock - s.clock) ∧
    (p.allowance.maxAttempts = none → 0 < p.interval → w.Times p.interval →
      (∀ h, (c w h).2.clock = h.clock) → Fruitless w p c (p.label d) s →
      ∃ before answer v s',
        Concludes w p c (p.label d) s (before ++ [.evaluated (s.clock + D) answer]) v s' ∧
          (⌈D / p.interval⌉₊ < p.horizon → p.wait c d w s = (v, s'))) := by
  refine ⟨?_, fun hn hI ht htimeless hf => ?_⟩
  · obtain ⟨steps, v, s', hwait, hg⟩ := exists_goes hp w c d s
    refine ⟨steps, v, s', hwait, hg, fun time answer hi => ?_, fun seconds completed hi => ?_,
      fun e hv he => ?_⟩
    · cases hg.occurs _ hi with
      | evaluated _ hs => exact (hs.clock_mem hp hD hw hc).2
    · cases hg.occurs _ hi with
      | paused time _ => exact pauseAfter_mem hp hD time
    · subst hv
      cases hg with
      | leftOpen => exact absurd he Bool.false_ne_true
      | ended hconcludes => exact hconcludes.used_up_of_timeout hp hD he
  · obtain ⟨steps, v, s', hconcludes, -, hwait⟩ := exists_concludes_of_evaluations_le hp
      fun hs => hs.evaluations_le hp hD hw hc hI
    obtain ⟨before, answer, rfl⟩ :=
      hf.exists_evaluated_deadline hp hD hw hc ht hn htimeless hconcludes
    exact ⟨before, answer, v, s', hconcludes, hwait⟩

end Timed

/-- A poll every other second, for five seconds. -/
def fiveSeconds : Poll Rat where
  interval := 2
  allowance := ⟨none, some 5, 0, 0⟩
  transient := defaultTransient
  description := defaultDescription
  horizon := defaultHorizon

theorem accepted_fiveSeconds : fiveSeconds.Accepted where
  interval := by decide
  limited := Or.inr rfl
  attempts := nofun
  duration := by
    rintro D ⟨⟩
    decide

theorem punctual_barrenWorld (cost : Rat) : (barrenWorld cost).Punctual :=
  fun _ _ _ _ => rfl

theorem forward_looking {cost : Rat} (hcost : 0 ≤ cost) : looking.Forward (barrenWorld cost) :=
  fun s => le_add_of_nonneg_right (a := s.clock) hcost

theorem ceil_fiveSeconds : ⌈(5 : Rat) / fiveSeconds.interval⌉₊ ≤ 3 :=
  Nat.ceil_le.mpr (by norm_num [fiveSeconds])

/-- A poll that starts at ten has its last evaluation at fifteen, although the interval does not
divide the time. -/
theorem wait_until_deadline_fiveSeconds :
    fiveSeconds.Accepted ∧ fiveSeconds.allowance.maxDuration = some 5 ∧
      (barrenWorld 0).Punctual ∧ looking.Forward (barrenWorld 0) ∧
      ∃ before answer v s',
        Concludes (barrenWorld 0) fiveSeconds looking "condition" (.start () 10 "")
          (before ++ [.evaluated 15 answer]) v s' ∧
        fiveSeconds.wait looking none (barrenWorld 0) (.start () 10 "") = (v, s') := by
  have hw := punctual_barrenWorld 0
  have hc := forward_looking (le_refl 0)
  obtain ⟨before, answer, v, s', hconcludes, hwait⟩ :=
    (wait_until_deadline accepted_fiveSeconds rfl hw hc none (.start () 10 "")).2 rfl (by decide)
      (Or.inr nofun) (fun h => add_zero h.clock) (fruitless_barrenWorld 0 none _ _ rfl)
  have hdeadline : (Session.start () 10 "" : Session Unit Rat).clock + 5 = 15 := by
    norm_num [Session.start]
  rw [hdeadline] at hconcludes
  exact ⟨accepted_fiveSeconds, rfl, hw, hc, before, answer, v, s', hconcludes,
    hwait (lt_of_le_of_lt ceil_fiveSeconds (by decide))⟩

/-- **A time limit ends a wait.** If pauses take as long as they were asked to, evaluations take no
negative time, and the interval is positive, then a wait whose time is limited ends, after as many
evaluations at most as intervals fit into the time, the last one of them in part, and one more. -/
theorem wait_within_duration (hp : p.Accepted) (hD : p.allowance.maxDuration = some D)
    (hw : w.Punctual) (hc : c.Forward w) (hI : 0 < p.interval) (d : Option String)
    (s : Session σ Rat) :
    ∃ steps v s', Concludes w p c (p.label d) s steps v s' ∧
      evaluations steps ≤ ⌈D / p.interval⌉₊ + 1 ∧
      (⌈D / p.interval⌉₊ < p.horizon → p.wait c d w s = (v, s')) :=
  exists_concludes_of_evaluations_le hp fun hs => hs.evaluations_le hp hD hw hc hI

/-- Four evaluations are enough, however long each of them takes. -/
theorem wait_within_duration_fiveSeconds :
    fiveSeconds.Accepted ∧ fiveSeconds.allowance.maxDuration = some 5 ∧
      (barrenWorld 1).Punctual ∧ looking.Forward (barrenWorld 1) ∧ 0 < fiveSeconds.interval ∧
      ∃ steps v s',
        Concludes (barrenWorld 1) fiveSeconds looking "condition" (.start () 10 "") steps v s' ∧
        evaluations steps ≤ 4 ∧
        fiveSeconds.wait looking none (barrenWorld 1) (.start () 10 "") = (v, s') := by
  have hw := punctual_barrenWorld 1
  have hc := forward_looking zero_le_one
  have hI : 0 < fiveSeconds.interval := by decide
  obtain ⟨steps, v, s', hconcludes, hle, hwait⟩ :=
    wait_within_duration accepted_fiveSeconds rfl hw hc hI none (.start () 10 "")
  exact ⟨accepted_fiveSeconds, rfl, hw, hc, hI, steps, v, s', hconcludes,
    hle.trans (Nat.succ_le_succ ceil_fiveSeconds),
    hwait (lt_of_le_of_lt ceil_fiveSeconds (by decide))⟩

end Poll

end CaptureControl
