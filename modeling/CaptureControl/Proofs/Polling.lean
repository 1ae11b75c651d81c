import CaptureControl.Rehearsal.World
import CaptureControl.Waiting
import CaptureControl.Proofs.Actions

/-!
# The course of a poll

What a poll does, told without its loop and without the allowance that it uses up. A poll goes in
rounds: the cancel flag is looked at, the condition is evaluated, and if that decides nothing, one
pause follows. The poll is told by the number `k` of undecided rounds and by the last round, which
settles it: before its evaluation, by it, or in a pause that is cut short or too long to be timed.

## Implementation notes

A round starts from the session `h` that the round before left, so a course is a chain of sessions
and not a list of events: a condition may do anything to the session, and the chain still says what
the poll itself does between two evaluations, namely one pause and its log entries.

The loop counts in an allowance; here the number of evaluations and the time since the start are
passed around as plain values. `spent` is the bridge: the allowance of a poll that started at some
time and has made `k` evaluations.

## Main definitions

* `Poll.decision` — what the `k`-th evaluation decides, by the first rule that applies
* `Poll.Undecided` — `k` rounds that decided nothing
* `Poll.Settles` — the last round
* `Poll.Ends` — a whole poll

## Main results

* `Poll.rounds_cases` — the loop follows a course
* `Poll.Ends.unique` — there is only one
* `Poll.wait_eq_iff` — a wait gives exactly what its course says
-/

namespace CaptureControl

namespace Poll

variable {σ τ : Type} [Time τ]

/-! ### What an evaluation decides -/

/-- The time since the start of a wait; none on a clock that went backwards. -/
def lasted (started now : τ) : τ := Time.clamp (now - started)

/-- One of the limits is reached, after `k` evaluations and some time. -/
def AtLimit (p : Poll τ) (k : Nat) (time : τ) : Prop :=
  (∃ n ∈ p.allowance.maxAttempts, n ≤ k) ∨ ∃ d ∈ p.allowance.maxDuration, d ≤ time

instance (p : Poll τ) (k : Nat) (time : τ) : Decidable (p.AtLimit k time) :=
  inferInstanceAs (Decidable (_ ∨ _))

/-- The pause after an evaluation that decided nothing: the interval, or the time that is left if
that is shorter. -/
def pauseAfter (p : Poll τ) (time : τ) : τ :=
  match p.allowance.maxDuration with
  | some d => Time.shorter p.interval (Time.clamp (d - time))
  | none => p.interval

theorem pauseAfter_eq_interval {p : Poll τ} (hd : p.allowance.maxDuration = none) (time : τ) :
    p.pauseAfter time = p.interval := by
  rw [pauseAfter, hd]

/-- What the `k`-th evaluation is taken for: a transient fault for "not yet", any other exception
for a wait that is aborted because of it, and what is no exception for itself. -/
def reading (p : Poll τ) (label : String) (k : Nat) (time : τ) :
    Except (Fault τ) Bool → Except (Fault τ) Bool
  | .ok holds => .ok holds
  | .error e =>
    if p.transient.any e.isA then .ok false
    else if e.isA .exception then .error (.because (.wait .aborted ⟨label, k, time⟩) e)
    else .error e

/-- What the `k`-th evaluation decides. A condition that holds is a success, also at the limit; a
fault that is not transient ends the wait; and what is left is "not yet", which is a time-out at the
limit and decides nothing before it. -/
def decision (p : Poll τ) (label : String) (k : Nat) (time : τ)
    (answer : Except (Fault τ) Bool) : Option (Verdict τ) :=
  match p.reading label k time answer with
  | .ok true => some (.ok ⟨.converged, k, time⟩)
  | .ok false =>
    if p.AtLimit k time then some (.error (.wait .timedOut ⟨label, k, time⟩)) else none
  | .error e => some (.error e)

/-- The log entry of an evaluation that met with a transient fault. -/
def misses (p : Poll τ) (label : String) (k : Nat) : Except (Fault τ) Bool → List (LogEntry τ)
  | .ok _ => []
  | .error e => if p.transient.any e.isA then [.unobservable label k e] else []

/-- The log entry of an evaluation that ends a wait. -/
def closing (p : Poll τ) (label : String) (k : Nat) (time : τ) :
    Except (Fault τ) Bool → List (LogEntry τ)
  | .ok true => [.converged label k]
  | .ok false => if p.AtLimit k time then [.exhausted label k] else []
  | .error _ => []

/-- The log entries of the `k`-th evaluation, the newest first. -/
def remarks (p : Poll τ) (label : String) (k : Nat) (time : τ)
    (answer : Except (Fault τ) Bool) : List (LogEntry τ) :=
  p.closing label k time (p.reading label k time answer) ++ p.misses label k answer

/-! ### Courses -/

/-- From the session `h`, the cancel flag is found clear, and then the condition is evaluated. -/
structure Evaluates (w : World σ τ) (c : Act σ τ Bool) (h : Session σ τ)
    (answer : Except (Fault τ) Bool) (s : Session σ τ) : Prop where
  /-- The flag is clear when the evaluation starts. -/
  clear : (h.glance w).cancelled = false
  /-- The evaluation is recorded with its time, and runs. -/
  result : c w ((h.glance w).record (.evaluating h.clock)) = (answer, s)

/-- Round `k + 1` decides nothing: the evaluation leaves it open, and one pause follows that is
completed. -/
def Continues (w : World σ τ) (p : Poll τ) (c : Act σ τ Bool) (label : String) (started : τ)
    (k : Nat) (h h' : Session σ τ) : Prop :=
  ∃ answer s, Evaluates w c h answer s ∧
    p.decision label (k + 1) (lasted started s.clock) answer = none ∧
    Act.pause (p.pauseAfter (lasted started s.clock)) w
      (s.noted (p.remarks label (k + 1) (lasted started s.clock) answer)) = (.ok true, h')

/-- The first `k` rounds of a wait that starts in the session `s` decide nothing, and the next round
starts in the session `h`. -/
inductive Undecided (w : World σ τ) (p : Poll τ) (c : Act σ τ Bool) (label : String)
    (s : Session σ τ) : Nat → Session σ τ → Prop where
  | start : Undecided w p c label s 0 s
  | round {k h h'} : Undecided w p c label s k h → Continues w p c label s.clock k h h' →
      Undecided w p c label s (k + 1) h'

/-- Round `k + 1` settles a wait: with a verdict, and in a session. -/
inductive Settles (w : World σ τ) (p : Poll τ) (c : Act σ τ Bool) (label : String) (started : τ)
    (k : Nat) (h : Session σ τ) : Verdict τ → Session σ τ → Prop where
  /-- The flag is found set: there is no further evaluation. -/
  | cancelled : (h.glance w).cancelled = true →
      Settles w p c label started k h (.ok ⟨.interrupted, k, lasted started h.clock⟩)
        ((h.glance w).noted [.interrupted label])
  /-- The evaluation decides: there is no further pause. -/
  | decided {answer s v} : Evaluates w c h answer s →
      p.decision label (k + 1) (lasted started s.clock) answer = some v →
      Settles w p c label started k h v
        (s.noted (p.remarks label (k + 1) (lasted started s.clock) answer))
  /-- The evaluation decides nothing, and the pause after it is not completed. -/
  | cutShort {answer s s'} : Evaluates w c h answer s →
      p.decision label (k + 1) (lasted started s.clock) answer = none →
      Act.pause (p.pauseAfter (lasted started s.clock)) w
        (s.noted (p.remarks label (k + 1) (lasted started s.clock) answer)) = (.ok false, s') →
      Settles w p c label started k h (.ok ⟨.interrupted, k + 1, lasted started s'.clock⟩)
        (s'.noted [.interrupted label])
  /-- The evaluation decides nothing, and the pause after it is too long to be timed. -/
  | overlong {answer s s'} : Evaluates w c h answer s →
      p.decision label (k + 1) (lasted started s.clock) answer = none →
      Act.pause (p.pauseAfter (lasted started s.clock)) w
        (s.noted (p.remarks label (k + 1) (lasted started s.clock) answer)) =
          (.error .overlongPause, s') →
      Settles w p c label started k h (.error .overlongPause) s'

/-- A wait that starts in the session `s` is settled after `k` undecided rounds: with a verdict, and
in a session. -/
def Ends (w : World σ τ) (p : Poll τ) (c : Act σ τ Bool) (label : String) (s : Session σ τ)
    (k : Nat) (v : Verdict τ) (s' : Session σ τ) : Prop :=
  ∃ h, Undecided w p c label s k h ∧ Settles w p c label s.clock k h v s'

/-- The polls that may be built, whatever of their allowance was used before, and wherever their
horizon lies. -/
structure Accepted (p : Poll τ) : Prop where
  /-- The interval is not negative. -/
  interval : ¬ p.interval < 0
  /-- One of the limits is given. -/
  limited : p.allowance.maxAttempts.isSome ∨ p.allowance.maxDuration.isSome
  /-- An attempt limit is at least one. -/
  attempts : ∀ n ∈ p.allowance.maxAttempts, 1 ≤ n
  /-- A time limit is positive. -/
  duration : ∀ d ∈ p.allowance.maxDuration, ¬ d ≤ 0

theorem accepted_of_make? {maxAttempts : Option Int} {maxDuration : Option τ} {a : Allowance τ}
    {interval : τ} {transient : List Fault.Kind} {description : String} {p : Poll τ}
    (ha : Allowance.make? maxAttempts maxDuration = .ok a)
    (hp : make? interval a transient description = .ok p) : p.Accepted := by
  unfold make? at hp
  split at hp
  next => cases hp
  next hi =>
    cases hp
    unfold Allowance.make? at ha
    split at ha
    next => cases ha
    next hl =>
      split at ha
      next => cases ha
      next hn =>
        split at ha
        next => cases ha
        next hd =>
          cases ha
          refine ⟨hi, ?_, ?_, ?_⟩
          · cases maxAttempts <;> cases maxDuration <;> simp_all
          · intro n hmap
            obtain ⟨i, rfl, rfl⟩ := Option.map_eq_some_iff.mp hmap
            have hi : ¬ i < 1 := by simpa using hn
            omega
          · intro d hsome hle
            exact hd ((Option.any_eq_true _ _).mpr ⟨d, hsome, decide_eq_true hle⟩)

/-! ### What decides nothing -/

section Decisions

variable {p : Poll τ} {label : String} {k : Nat} {time : τ} {answer : Except (Fault τ) Bool}

omit [Time τ] in
/-- An evaluation is taken for its answer, or for "not yet", or it fails with a fault that is not
transient. -/
theorem reading_cases (p : Poll τ) (label : String) (k : Nat) (time : τ)
    (answer : Except (Fault τ) Bool) :
    (∃ holds, answer = .ok holds ∧ p.reading label k time answer = .ok holds) ∨
      (∃ e, answer = .error e ∧ p.transient.any e.isA = true ∧
        p.reading label k time answer = .ok false) ∨
      ∃ e, answer = .error e ∧ p.reading label k time answer =
        .error (if e.isA .exception then .because (.wait .aborted ⟨label, k, time⟩) e else e) := by
  unfold reading
  cases answer with
  | ok holds => exact Or.inl ⟨holds, rfl, rfl⟩
  | error e =>
    by_cases ht : p.transient.any e.isA = true
    · exact Or.inr (Or.inl ⟨e, rfl, ht, if_pos ht⟩)
    · refine Or.inr (Or.inr ⟨e, rfl, ?_⟩)
      dsimp only
      rw [if_neg ht]
      split <;> rfl

/-- An evaluation after which a poll goes on is taken for "not yet". -/
theorem reading_of_decision_eq_none (hd : p.decision label k time answer = none) :
    p.reading label k time answer = .ok false := by
  unfold decision at hd
  split at hd
  · cases hd
  next hr => exact hr
  · cases hd

/-- Where a poll goes on, none of its limits is reached. -/
theorem not_atLimit_of_decision_eq_none (hd : p.decision label k time answer = none) :
    ¬ p.AtLimit k time := by
  intro hl
  rw [decision, reading_of_decision_eq_none hd] at hd
  simp [if_pos hl] at hd

end Decisions

/-! ### The loop follows a course -/

section Loop

variable {p : Poll τ} {w : World σ τ} {c : Act σ τ Bool} {label : String} {started : τ}
  {k n : Nat} {h s s' : Session σ τ} {answer : Except (Fault τ) Bool} {v : Verdict τ}

/-- The allowance of a wait after `k` evaluations. -/
def spent (p : Poll τ) (started : τ) (k : Nat) : Allowance τ :=
  { p.allowance with attempts := k, startedAt := started }

omit [Time τ] in
theorem consume_spent : (p.spent started k).consume = p.spent started (k + 1) := rfl

omit [Time τ] in
theorem attempts_spent : (p.spent started k).attempts = k := rfl

theorem elapsed_spent (now : τ) : (p.spent started k).elapsed now = lasted started now := rfl

theorem exhausted_spent (now : τ) :
    (p.spent started k).exhausted now = decide (p.AtLimit k (lasted started now)) := by
  rw [Bool.eq_iff_iff, decide_eq_true_iff, Allowance.exhausted, Bool.or_eq_true,
    Option.any_eq_true, Option.any_eq_true]
  simp only [decide_eq_true_eq]
  rfl

theorem nextPause_spent (now : τ) :
    p.nextPause (p.spent started k) now = p.pauseAfter (lasted started now) := by
  rw [nextPause, pauseAfter, Allowance.remaining]
  cases h : p.allowance.maxDuration <;> simp [spent, h]
  rfl

theorem evaluate_spent (he : Evaluates w c h answer s) :
    p.evaluate label (p.spent started k) c w (h.glance w) =
      (.ok (p.reading label k (lasted started s.clock) answer),
        s.noted (p.misses label k answer)) := by
  simp only [evaluate, Act.bind_apply, Act.modify_apply, Act.attempt_apply, Session.clock_glance,
    he.result, attempts_spent, elapsed_spent]
  rcases answer with e | holds
  · simp only [reading, misses]
    split
    · rfl
    · split <;> rfl
  · rfl

theorem rounds_of_cancelled (hc : (h.glance w).cancelled = true) :
    p.rounds label started c (n + 1) (p.spent started k) w h =
      (.ok (.ok ⟨.interrupted, k, lasted started h.clock⟩, p.spent started k),
        (h.glance w).noted [.interrupted label]) := by
  simp [rounds, Act.bind_apply, hc, interruption, attempts_spent]
  rfl

/-- A round whose evaluation has been made goes by what the evaluation is taken for. -/
theorem rounds_of_evaluates (he : Evaluates w c h answer s) :
    p.rounds label started c (n + 1) (p.spent started k) w h =
      (match p.reading label (k + 1) (lasted started s.clock) answer with
        | .error e => pure (.error e, p.spent started (k + 1))
        | .ok true => do
          Act.note (.converged label (k + 1))
          pure (.ok ⟨.converged, k + 1, lasted started s.clock⟩, p.spent started (k + 1))
        | .ok false =>
          if p.AtLimit (k + 1) (lasted started s.clock) then do
            Act.note (.exhausted label (k + 1))
            pure (.error (.wait .timedOut ⟨label, (k + 1 : Nat), lasted started s.clock⟩),
              p.spent started (k + 1))
          else do
            match ← (Act.pause (p.pauseAfter (lasted started s.clock))).attempt with
            | .error e => return (.error e, p.spent started (k + 1))
            | .ok true => p.rounds label started c n (p.spent started (k + 1))
            | .ok false =>
              return (← interruption label started (p.spent started (k + 1)),
                p.spent started (k + 1)) : Act σ τ _) w
      (s.noted (p.misses label (k + 1) answer)) := by
  simp only [rounds, Act.bind_apply, Act.cancelled_apply, he.clear, Bool.false_eq_true, if_false,
    consume_spent, evaluate_spent he]
  rcases p.reading label (k + 1) (lasted started s.clock) answer with e | _ | _
  · rfl
  · simp only [Act.bind_apply, Act.now_apply, Bool.false_eq_true, if_false, exhausted_spent,
      decide_eq_true_iff, nextPause_spent, Session.clock_noted]
    split <;> rfl
  · rfl

theorem rounds_of_decided (he : Evaluates w c h answer s)
    (hv : p.decision label (k + 1) (lasted started s.clock) answer = some v) :
    p.rounds label started c (n + 1) (p.spent started k) w h =
      (.ok (v, p.spent started (k + 1)),
        s.noted (p.remarks label (k + 1) (lasted started s.clock) answer)) := by
  rw [rounds_of_evaluates he, remarks]
  rw [decision] at hv
  generalize p.reading label (k + 1) (lasted started s.clock) answer = reading at hv ⊢
  rcases reading with e | _ | _
  · cases hv
    rfl
  · by_cases hl : p.AtLimit (k + 1) (lasted started s.clock)
    · simp only [if_pos hl, Option.some.injEq] at hv
      subst hv
      simp [closing, hl, Act.bind_apply]
    · simp [if_neg hl] at hv
  · cases hv
    simp [closing, Act.bind_apply]

theorem rounds_of_undecided (he : Evaluates w c h answer s)
    (hv : p.decision label (k + 1) (lasted started s.clock) answer = none) :
    p.rounds label started c (n + 1) (p.spent started k) w h =
      (do
        match ← (Act.pause (p.pauseAfter (lasted started s.clock))).attempt with
        | .error e => return (.error e, p.spent started (k + 1))
        | .ok true => p.rounds label started c n (p.spent started (k + 1))
        | .ok false =>
          return (← interruption label started (p.spent started (k + 1)),
            p.spent started (k + 1)) : Act σ τ _) w
      (s.noted (p.remarks label (k + 1) (lasted started s.clock) answer)) := by
  rw [rounds_of_evaluates he, remarks]
  rw [decision] at hv
  generalize p.reading label (k + 1) (lasted started s.clock) answer = reading at hv ⊢
  rcases reading with e | _ | _
  · cases hv
  · by_cases hl : p.AtLimit (k + 1) (lasted started s.clock)
    · simp [if_pos hl] at hv
    · simp only [if_neg hl, closing, List.nil_append]
  · cases hv

/-- **The loop follows a course.** From a round that is reached, going round at most `n` times ends
the wait within so many rounds, or else leaves it open after them. -/
theorem rounds_cases (n : Nat) : ∀ {k : Nat} {h : Session σ τ}, Undecided w p c label s k h →
    ∃ v used s', p.rounds label s.clock c n (p.spent s.clock k) w h =
        (.ok (v, p.spent s.clock used), s') ∧
      ((∃ j < k + n, Ends w p c label s j v s') ∨
        (Undecided w p c label s (k + n) s' ∧ v = .error (.unsettled label (k + n)))) := by
  induction n with
  | zero =>
    intro k h hu
    exact ⟨_, _, _, rfl, Or.inr ⟨hu, rfl⟩⟩
  | succ n ih =>
    intro k h hu
    cases hc : (h.glance w).cancelled with
    | true =>
      exact ⟨_, _, _, rounds_of_cancelled hc, Or.inl ⟨k, by omega, h, hu, .cancelled hc⟩⟩
    | false =>
      have he : Evaluates w c h _ _ := ⟨hc, rfl⟩
      cases hd : p.decision label (k + 1) (lasted s.clock _) _ with
      | some v =>
        exact ⟨_, _, _, rounds_of_decided he hd, Or.inl ⟨k, by omega, h, hu, .decided he hd⟩⟩
      | none =>
        rw [rounds_of_undecided he hd, Act.bind_of_ok (Act.attempt_apply _)]
        rcases Act.pause_cases (p.pauseAfter (lasted s.clock _)) w _ with
          ⟨completed, s₂, hb, -⟩ | ⟨s₂, hb, -⟩
        · rw [hb]
          cases completed with
          | false =>
            exact ⟨_, _, _, rfl, Or.inl ⟨k, by omega, h, hu, .cutShort he hd hb⟩⟩
          | true =>
            obtain ⟨v, used, s', hr, hend⟩ := ih (hu.round ⟨_, _, he, hd, hb⟩)
            refine ⟨v, used, s', hr, ?_⟩
            rwa [show k + (n + 1) = k + 1 + n by omega]
        · rw [hb]
          exact ⟨_, _, _, rfl, Or.inl ⟨k, by omega, h, hu, .overlong he hd hb⟩⟩

end Loop

/-! ### There is only one course -/

section Unique

variable {p : Poll τ} {w : World σ τ} {c : Act σ τ Bool} {label : String} {started : τ}
  {k k' : Nat} {h h' s s₁ s₂ : Session σ τ} {answer answer' : Except (Fault τ) Bool}
  {v v' : Verdict τ}

omit [Time τ] in
theorem Evaluates.unique (h₁ : Evaluates w c h answer s₁) (h₂ : Evaluates w c h answer' s₂) :
    answer = answer' ∧ s₁ = s₂ :=
  Prod.mk.inj (h₁.result.symm.trans h₂.result)

theorem Continues.unique (h₁ : Continues w p c label started k h s₁)
    (h₂ : Continues w p c label started k h s₂) : s₁ = s₂ := by
  obtain ⟨_, _, he, -, hp⟩ := h₁
  obtain ⟨_, _, he', -, hp'⟩ := h₂
  obtain ⟨rfl, rfl⟩ := he.unique he'
  exact congrArg Prod.snd (hp.symm.trans hp')

theorem Continues.not_settles (hc : Continues w p c label started k h h') :
    ¬ Settles w p c label started k h v s := by
  obtain ⟨_, _, he, hd, hp⟩ := hc
  intro hs
  cases hs with
  | cancelled hc => simp [he.clear] at hc
  | decided he' hd' =>
    obtain ⟨rfl, rfl⟩ := he.unique he'
    simp [hd] at hd'
  | cutShort he' _ hp' | overlong he' _ hp' =>
    obtain ⟨rfl, rfl⟩ := he.unique he'
    simp [hp] at hp'

theorem Settles.unique (h₁ : Settles w p c label started k h v s₁)
    (h₂ : Settles w p c label started k h v' s₂) : v = v' ∧ s₁ = s₂ := by
  cases h₁ with
  | cancelled hc =>
    cases h₂ with
    | cancelled => exact ⟨rfl, rfl⟩
    | decided he => simp [he.clear] at hc
    | cutShort he | overlong he => simp [he.clear] at hc
  | decided he hd =>
    cases h₂ with
    | cancelled hc => simp [he.clear] at hc
    | decided he' hd' =>
      obtain ⟨rfl, rfl⟩ := he.unique he'
      exact ⟨Option.some.inj (hd.symm.trans hd'), rfl⟩
    | cutShort he' hd' | overlong he' hd' =>
      obtain ⟨rfl, rfl⟩ := he.unique he'
      simp [hd] at hd'
  | cutShort he hd hp =>
    cases h₂ with
    | cancelled hc => simp [he.clear] at hc
    | decided he' hd' =>
      obtain ⟨rfl, rfl⟩ := he.unique he'
      simp [hd] at hd'
    | cutShort he' _ hp' =>
      obtain ⟨rfl, rfl⟩ := he.unique he'
      obtain rfl : _ = _ := congrArg Prod.snd (hp.symm.trans hp')
      exact ⟨rfl, rfl⟩
    | overlong he' _ hp' =>
      obtain ⟨rfl, rfl⟩ := he.unique he'
      simp [hp] at hp'
  | overlong he hd hp =>
    cases h₂ with
    | cancelled hc => simp [he.clear] at hc
    | decided he' hd' =>
      obtain ⟨rfl, rfl⟩ := he.unique he'
      simp [hd] at hd'
    | cutShort he' _ hp' =>
      obtain ⟨rfl, rfl⟩ := he.unique he'
      simp [hp] at hp'
    | overlong he' _ hp' =>
      obtain ⟨rfl, rfl⟩ := he.unique he'
      exact ⟨rfl, congrArg Prod.snd (hp.symm.trans hp')⟩

theorem Undecided.unique (h₁ : Undecided w p c label s k h) (h₂ : Undecided w p c label s k h') :
    h = h' := by
  induction h₁ generalizing h' with
  | start => cases h₂; rfl
  | round _ hc ih =>
    cases h₂ with
    | round hu hc' =>
      cases ih hu
      exact hc.unique hc'

/-- Every round before an undecided one continued. -/
theorem Undecided.continues_of_lt (hu : Undecided w p c label s k h) {j : Nat} (hj : j < k) :
    ∃ h₁ h₂, Undecided w p c label s j h₁ ∧ Continues w p c label s.clock j h₁ h₂ := by
  induction hu with
  | start => omega
  | @round k h h' hu hc ih =>
    rcases Nat.lt_or_ge j k with hlt | hge
    · exact ih hlt
    · obtain rfl : j = k := by omega
      exact ⟨h, h', hu, hc⟩

/-- A wait that is settled is not undecided after that. -/
theorem Ends.le_of_undecided {j : Nat} (he : Ends w p c label s j v s₁)
    (hu : Undecided w p c label s k h) : k ≤ j := by
  refine Nat.le_of_not_lt fun hlt => ?_
  obtain ⟨h₁, h₂, hu₁, hc⟩ := hu.continues_of_lt hlt
  obtain ⟨h₃, hu₃, hs⟩ := he
  obtain rfl := hu₁.unique hu₃
  exact hc.not_settles hs

/-- **There is only one course.** -/
theorem Ends.unique (h₁ : Ends w p c label s k v s₁) (h₂ : Ends w p c label s k' v' s₂) :
    k = k' ∧ v = v' ∧ s₁ = s₂ := by
  have hle : k ≤ k' := h₂.le_of_undecided h₁.choose_spec.1
  have hge : k' ≤ k := h₁.le_of_undecided h₂.choose_spec.1
  obtain rfl : k = k' := by omega
  obtain ⟨_, hu, hs⟩ := h₁
  obtain ⟨_, hu', hs'⟩ := h₂
  obtain rfl := hu.unique hu'
  exact ⟨rfl, hs.unique hs'⟩

/-- An attempt limit ends a wait: the rounds before it are fewer. -/
theorem Undecided.lt_of_limit (hu : Undecided w p c label s k h) {n : Nat} (hn : 1 ≤ n)
    (hlim : p.allowance.maxAttempts = some n) : k < n := by
  cases hu with
  | start => omega
  | @round k h h' hu hc =>
    obtain ⟨answer, s₁, he, hd, hp⟩ := hc
    refine Nat.lt_of_not_le fun hge => ?_
    exact not_atLimit_of_decision_eq_none hd (Or.inl ⟨n, hlim, hge⟩)

end Unique

/-! ### Waits -/

section Wait

variable {p : Poll τ} {w : World σ τ} {c : Act σ τ Bool} {s s' : Session σ τ} {v : Verdict τ}

theorem wait_eq_of_rounds_eq {d : Option String} {a : Allowance τ}
    (hr : p.rounds (p.label d) s.clock c (p.allowance.maxAttempts.getD p.horizon)
      (p.spent s.clock 0) w s = (.ok (v, a), s')) : p.wait c d w s = (v, s') := by
  have hrun : p.run c d w s = (.ok (v, a), s') := by
    rw [run, Act.bind_of_ok Act.now_apply]
    exact hr
  rw [wait, Act.bind_of_ok hrun]
  rfl

/-- An accepted poll with an attempt limit is not undecided for so many rounds. -/
theorem Accepted.not_undecided {label : String} {n : Nat} (hp : p.Accepted)
    (hn : p.allowance.maxAttempts = some n) : ¬ Undecided w p c label s n s' :=
  fun hu => Nat.lt_irrefl n (hu.lt_of_limit (hp.attempts n hn) hn)

/-- A wait is settled, or else it is left open at its horizon. -/
theorem wait_cases (hp : p.Accepted) (w : World σ τ) (c : Act σ τ Bool) (d : Option String)
    (s : Session σ τ) :
    ∃ v s', p.wait c d w s = (v, s') ∧
      ((∃ k, Ends w p c (p.label d) s k v s' ∧
          (p.allowance.maxAttempts = none → k < p.horizon)) ∨
        (p.allowance.maxAttempts = none ∧ Undecided w p c (p.label d) s p.horizon s' ∧
          v = .error (.unsettled (p.label d) p.horizon))) := by
  have hstart : Undecided w p c (p.label d) s 0 s := .start
  obtain ⟨v, used, s', hr, hcase⟩ := rounds_cases (p.allowance.maxAttempts.getD p.horizon) hstart
  refine ⟨v, s', wait_eq_of_rounds_eq hr, ?_⟩
  rw [Nat.zero_add] at hcase
  cases hm : p.allowance.maxAttempts with
  | none =>
    rw [hm, Option.getD_none] at hcase
    rcases hcase with ⟨k, hk, he⟩ | ⟨hu, hv⟩
    · exact Or.inl ⟨k, he, fun _ => hk⟩
    · exact Or.inr ⟨rfl, hu, hv⟩
  | some n =>
    rw [hm, Option.getD_some] at hcase
    rcases hcase with ⟨k, -, he⟩ | ⟨hu, -⟩
    · exact Or.inl ⟨k, he, nofun⟩
    · exact absurd hu (hp.not_undecided hm)

theorem wait_eq_of_ends (hp : p.Accepted) {d : Option String} {k : Nat}
    (he : Ends w p c (p.label d) s k v s')
    (hk : p.allowance.maxAttempts = none → k < p.horizon) : p.wait c d w s = (v, s') := by
  obtain ⟨v₀, s₀, hw, ⟨j, he₀, -⟩ | ⟨hm, hu, -⟩⟩ := wait_cases hp w c d s
  · obtain ⟨-, rfl, rfl⟩ := he.unique he₀
    exact hw
  · exact absurd (hk hm) (Nat.not_lt.mpr (he.le_of_undecided hu))

theorem wait_eq_of_undecided (hp : p.Accepted) {d : Option String}
    (hm : p.allowance.maxAttempts = none) (hu : Undecided w p c (p.label d) s p.horizon s') :
    p.wait c d w s = (.error (.unsettled (p.label d) p.horizon), s') := by
  obtain ⟨v₀, s₀, hw, ⟨j, he₀, hj⟩ | ⟨-, hu₀, rfl⟩⟩ := wait_cases hp w c d s
  · exact absurd (hj hm) (Nat.not_lt.mpr (he₀.le_of_undecided hu))
  · obtain rfl := hu.unique hu₀
    exact hw

end Wait

/-! ### A rehearsed wait -/

/-- Three look-ups: one that meets with a transient fault, one that does not hold, and one that
holds after a second in which waiting is cancelled. -/
def threeLookups : Rehearsal.Script Rat :=
  { Rehearsal.Script.empty with
    lookups := [
      ⟨⟨.error (.external .absent "not there"), ⟨some 1, false⟩⟩, some 1⟩,
      ⟨⟨.ok false, ⟨none, false⟩⟩, some 1⟩,
      ⟨⟨.ok true, ⟨some 1, true⟩⟩, some 1⟩] }

/-- A poll every other second, three times at most and for five seconds at most. -/
def threeTimes : Poll Rat where
  interval := 2
  allowance := ⟨some 3, some 5, 0, 0⟩
  transient := defaultTransient
  description := defaultDescription
  horizon := defaultHorizon

/-- Two look-ups that do not hold. -/
def vainLookups : Rehearsal.Script Rat :=
  { Rehearsal.Script.empty with lookups := [⟨⟨.ok false, ⟨none, false⟩⟩, some 2⟩] }

/-- A poll every ten thousand million seconds, twice at most. -/
def agesApart : Poll Rat where
  interval := 10000000000
  allowance := ⟨some 2, none, 0, 0⟩
  transient := defaultTransient
  description := defaultDescription
  horizon := defaultHorizon

end Poll

end CaptureControl
