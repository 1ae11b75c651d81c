import CaptureControl.Proofs.Blindness
import CaptureControl.Proofs.Pacing

/-!
# Polls that were used before

A poll keeps one allowance for all its waits. A wait may leave it in any state: it counts on through
every evaluation, whichever way the wait ends, and it can be started and used up by others as well.
None of this shows in the next wait, which starts the allowance anew before it reads it.

## Implementation notes

What a wait does is told apart from what it leaves: `Poll.run` gives the allowance as it was used,
and a poll that is used again is the same poll with that allowance. So a history is a chain of polls
that differ in their allowances only, and only in the part that `Allowance.start` overwrites.

## Main definitions

* `Poll.aged` — a poll whose allowance was used
* `Poll.Becomes` — the histories of a poll

## Main results

* `Poll.run_aged` — a wait does not see how its allowance was used
* `Poll.Becomes.exists_eq_aged` — a history changes nothing else
* `Poll.wait_after_use` — a poll waits as if it had never been used
-/

namespace CaptureControl

namespace Poll

variable {σ τ : Type} [Time τ]

/-- A poll whose allowance was started at some time, and used up by so many evaluations. -/
def aged (p : Poll τ) (started : τ) (attempts : Nat) : Poll τ :=
  { p with allowance := p.spent started attempts }

/-- The histories of a poll: it becomes others as it waits, whatever for, in whichever world, and
however the wait ends, and as its allowance is started and used in between. -/
inductive Becomes (p : Poll τ) : Poll τ → Prop where
  | unused : Becomes p p
  | waited {q : Poll τ} {σ : Type} {w : World σ τ} {c : Act σ τ Bool} {d : Option String}
      {s s' : Session σ τ} {v : Verdict τ} {a : Allowance τ} : Becomes p q →
      q.run c d w s = (.ok (v, a), s') → Becomes p { q with allowance := a }
  | started {q : Poll τ} (now : τ) : Becomes p q →
      Becomes p { q with allowance := q.allowance.start now }
  | consumed {q : Poll τ} : Becomes p q → Becomes p { q with allowance := q.allowance.consume }

section Used

variable {p q : Poll τ} {w : World σ τ} {c : Act σ τ Bool} {label : String} {d : Option String}
  {s s' t h : Session σ τ} {steps : List (Step τ)} {v : Verdict τ} {started : τ} {k : Nat}

/-! ### What a wait leaves of its allowance -/

/-- A wait does not fail as an action, and leaves an allowance with the same limits. -/
theorem exists_run_eq (p : Poll τ) (c : Act σ τ Bool) (d : Option String) (w : World σ τ)
    (s : Session σ τ) : ∃ v used s', p.run c d w s = (.ok (v, p.spent s.clock used), s') := by
  have hstart : Undecided w p c (p.label d) s 0 s := .start
  obtain ⟨v, used, s', hr, -⟩ := rounds_cases (p.allowance.maxAttempts.getD p.horizon) hstart
  exact ⟨v, used, s', by rw [run, Act.bind_of_ok Act.now_apply]; exact hr⟩

/-- **A history changes nothing but the use that was made of the allowance.** -/
theorem Becomes.exists_eq_aged (hq : p.Becomes q) :
    ∃ started attempts, q = p.aged started attempts := by
  induction hq with
  | unused => exact ⟨p.allowance.startedAt, p.allowance.attempts, rfl⟩
  | @waited q σ w c d s s' v a _ hr ih =>
    obtain ⟨started, attempts, rfl⟩ := ih
    obtain ⟨v', used, s'', hr'⟩ := exists_run_eq (p.aged started attempts) c d w s
    have hleft := Except.ok.inj (Prod.mk.inj (hr'.symm.trans hr)).1
    obtain rfl := (Prod.mk.inj hleft).2
    exact ⟨s.clock, used, rfl⟩
  | started now _ ih =>
    obtain ⟨started, attempts, rfl⟩ := ih
    exact ⟨now, 0, rfl⟩
  | consumed _ ih =>
    obtain ⟨started, attempts, rfl⟩ := ih
    exact ⟨started, attempts + 1, rfl⟩

/-! ### What a wait sees of its allowance -/

/-- The rounds of a poll go by the allowance that is handed on from one to the next. -/
theorem rounds_with_allowance (p : Poll τ) (a : Allowance τ) (label : String) (started : τ)
    (c : Act σ τ Bool) (n : Nat) : ∀ b,
      ({ p with allowance := a } : Poll τ).rounds label started c n b =
        p.rounds label started c n b := by
  induction n with
  | zero => exact fun _ => rfl
  | succ n ih =>
    intro b
    simp only [rounds, ih]
    rfl

/-- **A wait does not see how its allowance was used.** -/
theorem run_aged (p : Poll τ) (started : τ) (attempts : Nat) (c : Act σ τ Bool)
    (d : Option String) : (p.aged started attempts).run c d = p.run c d := by
  unfold run aged
  simp only [rounds_with_allowance]
  rfl

theorem wait_aged (p : Poll τ) (started : τ) (attempts : Nat) (c : Act σ τ Bool)
    (d : Option String) : (p.aged started attempts).wait c d = p.wait c d := by
  rw [wait, run_aged]
  rfl

/-- What a poll goes by in a round does not depend on the use of its allowance. -/
theorem Proceeds.aged (hs : Proceeds w p c label s steps h) (started : τ) (k : Nat) :
    Proceeds w (p.aged started k) c label s steps h := by
  induction hs with
  | start => exact .start
  | round _ hr ih => exact ih.round ⟨hr.evaluates, hr.undecided, hr.pause⟩

theorem Concludes.aged (hc : Concludes w p c label s steps v s') (started : τ) (k : Nat) :
    Concludes w (p.aged started k) c label s steps v s' := by
  cases hc with
  | cancelled hs hset => exact .cancelled (hs.aged started k) hset
  | decided hs he hd => exact .decided (hs.aged started k) he hd
  | cutShort hs hr =>
    exact .cutShort (hs.aged started k) ⟨hr.evaluates, hr.undecided, hr.pause⟩
  | overlong hs hr =>
    exact .overlong (hs.aged started k) ⟨hr.evaluates, hr.undecided, hr.pause⟩

theorem Goes.aged (hg : Goes w p c d s steps v s') (started : τ) (k : Nat) :
    Goes w (p.aged started k) c d s steps v s' := by
  cases hg with
  | ended hc => exact .ended (hc.aged started k)
  | leftOpen hm hs hk => exact .leftOpen hm (hs.aged started k) hk

/-- A poll whose allowance was used takes the same steps. -/
theorem goes_aged_iff :
    Goes w (p.aged started k) c d s steps v s' ↔ Goes w p c d s steps v s' :=
  -- A poll is itself with its own allowance, so it is an aged one of its aged ones.
  ⟨fun hg => hg.aged p.allowance.startedAt p.allowance.attempts, fun hg => hg.aged started k⟩

/-! ### Waits after others -/

/-- **A poll waits as if it had never been used.** Take a poll `p` as it was made, and what it has
become by any history: earlier waits, in whichever world, and however they ended, and starting and
using its allowance in between. Its next wait does what a wait of `p` does from the same session,
takes the same steps, and leaves its allowance and the session the same. Nor does it depend on what
earlier waits left behind in the record, the log and the counters: if the condition does not, then
`p` has the same outcome from any session that agrees in all else, and both add the same. -/
theorem wait_after_use (hq : p.Becomes q) (w : World σ τ) (c : Act σ τ Bool) (d : Option String)
    (s : Session σ τ) :
    q.run c d w s = p.run c d w s ∧ q.wait c d w s = p.wait c d w s ∧
      (∀ steps v s', Goes w q c d s steps v s' ↔ Goes w p c d s steps v s') ∧
      (c.Blind → ∀ t, s.Agrees t → (q.wait c d w s).1 = (p.wait c d w t).1 ∧
        Session.Twins s t (q.wait c d w s).2 (p.wait c d w t).2) := by
  obtain ⟨started, attempts, rfl⟩ := hq.exists_eq_aged
  rw [run_aged, wait_aged]
  exact ⟨rfl, rfl, fun _ _ _ => goes_aged_iff, fun hc t hst => Act.Blind.poll hc d w s t hst⟩

end Used

/-- A poll that has timed out, and whose allowance is used up beyond its limit after that, makes
three evaluations in its next wait. -/
theorem wait_after_use_threeLooks :
    ∃ q, threeLooks.Becomes q ∧ q.allowance.attempts = 4 ∧
      q.wait looking none (barrenWorld 1) (.start () 0 "") =
        threeLooks.wait looking none (barrenWorld 1) (.start () 0 "") ∧
      ∃ report, (q.wait looking none (barrenWorld 1) (.start () 0 "")).1 =
        .error (.wait .timedOut report) ∧ report.attempts = 3 := by
  have hused : ∃ v s', threeLooks.run looking none (barrenWorld 1) (.start () 0 "") =
      (.ok (v, threeLooks.spent 0 3), s') := ⟨_, _, by with_unfolding_all rfl⟩
  obtain ⟨v, s', hused⟩ := hused
  have hq : threeLooks.Becomes (threeLooks.aged 0 4) := .consumed (.waited .unused hused)
  obtain ⟨-, hwait, -⟩ := wait_after_use hq (barrenWorld 1) looking none (.start () 0 "")
  refine ⟨_, hq, rfl, hwait, ?_⟩
  rw [hwait]
  exact ⟨_, by with_unfolding_all rfl, rfl⟩

end Poll

end CaptureControl
