import CaptureControl.Proofs.Pacing

/-!
# Larger attempt limits

Two polls that differ in their attempt limits only are set to wait for the same thing, in the same
world and from the same session. Up to the smaller limit they do the same: the limit is read nowhere
but where an evaluation that decided nothing is compared with it. So either the smaller limit has no
part in how the wait ends, and then the larger one has none either; or it ends the one wait with a
time-out, and the other one goes on from there with a pause.

## Implementation notes

The two waits are compared along their courses, not along the loop. A round of the first is a round
of the second, from the same session to the same session (`Defers.limited`), so the courses are in
lockstep by induction over the rounds, and they part at the last evaluation of the first, if at all.

## Main definitions

* `Poll.limited` — a poll with another attempt limit

## Main results

* `Poll.Proceeds.limited` — rounds under a limit are rounds under a larger one
* `Poll.Concludes.limited_or_parts` — where the two waits part
* `Poll.Proceeds.exists_concludes` — a wait with an attempt limit ends, from any of its rounds on
* `Poll.wait_with_larger_limit` — a larger attempt limit only helps
-/

namespace CaptureControl

namespace Poll

variable {σ τ : Type}

/-- A poll with another attempt limit. -/
def limited (p : Poll τ) (n : Nat) : Poll τ :=
  { p with allowance := { p.allowance with maxAttempts := some n } }

variable [Time τ]

/-! ### The limit in one evaluation -/

section Evaluation

variable {p : Poll τ} {label : String} {k n m : Nat} {time : τ} {answer : Except (Fault τ) Bool}
  {v : Verdict τ}

theorem atLimit_limited :
    (p.limited n).AtLimit k time ↔ n ≤ k ∨ ∃ d ∈ p.allowance.maxDuration, d ≤ time := by
  simp [AtLimit, limited]

/-- A limit that is reached under a larger attempt limit is reached under a smaller one. -/
theorem AtLimit.of_le (hnm : n ≤ m) (h : (p.limited m).AtLimit k time) :
    (p.limited n).AtLimit k time := by
  rw [atLimit_limited] at h ⊢
  exact h.imp_left (Nat.le_trans hnm)

variable (label answer) in
/-- What an evaluation decides, and what is noted of it, depends on the attempt limit only by
whether a limit is reached. -/
theorem decision_limited_congr
    (h : (p.limited n).AtLimit k time ↔ (p.limited m).AtLimit k time) :
    (p.limited n).decision label k time answer = (p.limited m).decision label k time answer ∧
      (p.limited n).remarks label k time answer = (p.limited m).remarks label k time answer := by
  have hreading : (p.limited n).reading label k time answer =
      (p.limited m).reading label k time answer := rfl
  have hmisses : (p.limited n).misses label k answer = (p.limited m).misses label k answer := rfl
  rw [decision, decision, remarks, remarks, hreading, hmisses]
  rcases (p.limited m).reading label k time answer with e | _ | _
  · exact ⟨rfl, rfl⟩
  · simp only [closing, h, and_self]
  · exact ⟨rfl, rfl⟩

/-- What decides nothing under an attempt limit decides nothing under a larger one. -/
theorem decision_limited_eq_none (hnm : n ≤ m)
    (hd : (p.limited n).decision label k time answer = none) :
    (p.limited m).decision label k time answer = none ∧
      (p.limited n).remarks label k time answer = (p.limited m).remarks label k time answer := by
  have hn := not_atLimit_of_decision_eq_none hd
  have hm : ¬ (p.limited m).AtLimit k time := fun hl => hn (hl.of_le hnm)
  obtain ⟨hdecision, hremarks⟩ := decision_limited_congr label answer (iff_of_false hn hm)
  exact ⟨hdecision ▸ hd, hremarks⟩

/-- What decides a wait under an attempt limit decides it under a larger one, or else it is a
time-out at the smaller limit, and nothing under the larger one. -/
theorem decision_limited_eq_some (hnm : n ≤ m) (hk : k ≤ n)
    (hd : (p.limited n).decision label k time answer = some v) :
    ((p.limited m).decision label k time answer = some v ∧
        (p.limited n).remarks label k time answer = (p.limited m).remarks label k time answer) ∨
      (k = n ∧ v = .error (.wait .timedOut ⟨label, k, time⟩) ∧
        (p.limited m).decision label k time answer = none) := by
  by_cases hl : (p.limited n).AtLimit k time → (p.limited m).AtLimit k time
  · obtain ⟨hdecision, hremarks⟩ := decision_limited_congr label answer ⟨hl, AtLimit.of_le hnm⟩
    exact Or.inl ⟨hdecision ▸ hd, hremarks⟩
  · obtain ⟨hn, hm⟩ := Classical.not_imp.mp hl
    have hkn : k = n := by
      rw [atLimit_limited] at hn hm
      have hle : n ≤ k := hn.resolve_right fun htime => hm (Or.inr htime)
      omega
    have hreading : (p.limited n).reading label k time answer =
        (p.limited m).reading label k time answer := rfl
    rw [decision, hreading] at hd
    rw [decision, remarks, remarks, hreading]
    generalize (p.limited m).reading label k time answer = reading at hd ⊢
    rcases reading with e | _ | _
    · exact Or.inl ⟨hd, rfl⟩
    · simp only [if_pos hn, Option.some.injEq] at hd
      exact Or.inr ⟨hkn, hd.symm, if_neg hm⟩
    · exact Or.inl ⟨hd, rfl⟩

theorem Accepted.of_le (hp : (p.limited n).Accepted) (hnm : n ≤ m) :
    (p.limited m).Accepted where
  interval := hp.interval
  limited := Or.inl rfl
  attempts := by
    rintro _ ⟨⟩
    exact Nat.le_trans (hp.attempts n rfl) hnm
  duration := hp.duration

end Evaluation

/-! ### The two courses -/

section Courses

variable {p : Poll τ} {w : World σ τ} {c : Act σ τ Bool} {label : String} {d : Option String}
  {k n m : Nat} {started : τ} {s s' s₁ h h' : Session σ τ} {answer r : Except (Fault τ) Bool}
  {steps : List (Step τ)} {v : Verdict τ}

/-- **A round that decides nothing under an attempt limit is one under a larger limit**, between the
same sessions. -/
theorem Defers.limited (hnm : n ≤ m)
    (hr : Defers w (p.limited n) c label started k h answer s₁ r h') :
    Defers w (p.limited m) c label started k h answer s₁ r h' := by
  obtain ⟨hdecision, hremarks⟩ := decision_limited_eq_none hnm hr.undecided
  refine ⟨hr.evaluates, hdecision, ?_⟩
  rw [← hremarks]
  exact hr.pause

theorem Proceeds.limited (hnm : n ≤ m) (hs : Proceeds w (p.limited n) c label s steps h) :
    Proceeds w (p.limited m) c label s steps h := by
  induction hs with
  | start => exact .start
  | round _ hr ih => exact ih.round (hr.limited hnm)

/-- **Where the two waits part.** What is the whole wait under an attempt limit is the whole wait
under a larger one, or else it ends at its limit, with an evaluation that decides nothing in the
other wait. -/
theorem Concludes.limited_or_parts (hp : (p.limited n).Accepted) (hnm : n ≤ m)
    (hc : Concludes w (p.limited n) c label s steps v s') :
    Concludes w (p.limited m) c label s steps v s' ∨
      ∃ before h answer s₁, steps = before ++ [.evaluated h.clock answer] ∧
        evaluations steps = n ∧ pauses steps = n - 1 ∧
        v = .error (.wait .timedOut ⟨label, n, lasted s.clock s₁.clock⟩) ∧
        Proceeds w (p.limited m) c label s before h ∧ Evaluates w c h answer s₁ ∧
        (p.limited m).decision label (evaluations before + 1) (lasted s.clock s₁.clock) answer =
          none := by
  cases hc with
  | cancelled hs hset => exact Or.inl (.cancelled (hs.limited hnm) hset)
  | cutShort hs hr => exact Or.inl (.cutShort (hs.limited hnm) (hr.limited hnm))
  | overlong hs hr => exact Or.inl (.overlong (hs.limited hnm) (hr.limited hnm))
  | @decided before h answer s₁ _ hs he hd =>
    have hlt : evaluations before + 1 ≤ n := hs.evaluations_lt hp rfl
    rcases decision_limited_eq_some hnm hlt hd with ⟨hsame, hremarks⟩ | ⟨hlast, rfl, hnone⟩
    · rw [hremarks]
      exact Or.inl (.decided (hs.limited hnm) he hsame)
    · refine Or.inr ⟨before, h, answer, s₁, rfl, ?_, ?_, by rw [hlast], hs.limited hnm, he, hnone⟩
      · rw [evaluations_evaluated, hlast]
      · rw [pauses_evaluated, hs.pauses_eq]
        omega

/-! ### Going on -/

/-- An evaluation that leaves a wait undecided is followed by a pause, after which the wait goes on
or is over. -/
theorem Proceeds.paused_cases (hs : Proceeds w p c label s steps h) (he : Evaluates w c h answer s₁)
    (hd : p.decision label (evaluations steps + 1) (lasted s.clock s₁.clock) answer = none) :
    ∃ seconds,
      (∃ h', Proceeds w p c label s
        (steps ++ [.evaluated h.clock answer, .paused seconds true]) h') ∨
      ∃ v s', Concludes w p c label s
        (steps ++ [.evaluated h.clock answer, .paused seconds false]) v s' := by
  refine ⟨p.pauseAfter (lasted s.clock s₁.clock), ?_⟩
  rcases Act.pause_cases (p.pauseAfter _) w _ with ⟨completed, h', hpause, -⟩ | ⟨h', hpause, -⟩
  · have hr : Defers w p c label s.clock _ h answer s₁ (.ok completed) h' := ⟨he, hd, hpause⟩
    cases completed with
    | false => exact Or.inr ⟨_, _, .cutShort hs hr⟩
    | true => exact Or.inl ⟨h', hs.round hr⟩
  · exact Or.inr ⟨_, _, .overlong hs ⟨he, hd, hpause⟩⟩

/-- **A wait with an attempt limit ends**, whichever of its rounds it has come to. -/
theorem Proceeds.exists_concludes (hp : p.Accepted) (hn : p.allowance.maxAttempts = some n)
    (hs : Proceeds w p c label s steps h) :
    ∃ more v s', Concludes w p c label s (steps ++ more) v s' := by
  -- The induction is on the evaluations that are left.
  induction hleft : n - evaluations steps generalizing steps h with
  | zero =>
    have hlt := hs.evaluations_lt hp hn
    omega
  | succ left ih =>
    cases hset : (h.glance w).cancelled with
    | true => exact ⟨[], _, _, by rw [List.append_nil]; exact .cancelled hs hset⟩
    | false =>
      have he : Evaluates w c h _ _ := ⟨hset, rfl⟩
      cases hd : p.decision label (evaluations steps + 1) (lasted s.clock _) _ with
      | some v => exact ⟨_, v, _, .decided hs he hd⟩
      | none =>
        obtain ⟨seconds, ⟨h', hs'⟩ | ⟨v, s', hc⟩⟩ := hs.paused_cases he hd
        · obtain ⟨more, v, s', hc⟩ := ih hs' (by rw [evaluations_round]; omega)
          rw [List.append_assoc] at hc
          exact ⟨_, v, s', hc⟩
        · exact ⟨_, v, s', hc⟩

/-- A wait that an evaluation leaves undecided goes on with a pause. -/
theorem Proceeds.exists_concludes_of_undecided (hp : p.Accepted)
    (hn : p.allowance.maxAttempts = some n) (hs : Proceeds w p c label s steps h)
    (he : Evaluates w c h answer s₁)
    (hd : p.decision label (evaluations steps + 1) (lasted s.clock s₁.clock) answer = none) :
    ∃ seconds completed more v s', Concludes w p c label s
      (steps ++ [.evaluated h.clock answer] ++ .paused seconds completed :: more) v s' := by
  obtain ⟨seconds, ⟨h', hs'⟩ | ⟨v, s', hc⟩⟩ := hs.paused_cases he hd
  · obtain ⟨more, v, s', hc⟩ := hs'.exists_concludes hp hn
    rw [List.append_cons, List.append_assoc] at hc
    exact ⟨seconds, true, more, v, s', hc⟩
  · rw [List.append_cons] at hc
    exact ⟨seconds, false, [], v, s', hc⟩

theorem Concludes.exists_ends (hc : Concludes w p c label s steps v s') :
    ∃ k, Ends w p c label s k v s' := by
  cases hc with
  | cancelled hs hset => exact ⟨_, _, hs.undecided, .cancelled hset⟩
  | decided hs he hd => exact ⟨_, _, hs.undecided, .decided he hd⟩
  | cutShort hs hr =>
    exact ⟨_, _, hs.undecided, .cutShort hr.evaluates hr.undecided hr.pause⟩
  | overlong hs hr =>
    exact ⟨_, _, hs.undecided, .overlong hr.evaluates hr.undecided hr.pause⟩

/-- A wait with an attempt limit gives what its course says. -/
theorem Concludes.wait_eq (hp : p.Accepted) (hn : p.allowance.maxAttempts = some n)
    (hc : Concludes w p c (p.label d) s steps v s') : p.wait c d w s = (v, s') := by
  obtain ⟨k, he⟩ := hc.exists_ends
  refine wait_eq_of_ends hp he fun hnone => ?_
  cases hn.symm.trans hnone

end Courses

/-! ### Two limits -/

section Limits

variable {p : Poll τ} {n m : Nat}

/-- **A larger attempt limit only helps.** Let two polls wait for the same condition, from the same
session and in the same world, with attempt limits `n ≤ m`, and alike in all else.
Either both waits are the same: they take the same steps, and leave the same outcome and the same
session. Or the first one times out after exactly `n` evaluations with `n - 1` pauses between them,
and the other one takes the same steps before it goes on with a pause. So a wait that does not time
out under some limit is the same under every larger one. -/
theorem wait_with_larger_limit (hp : (p.limited n).Accepted) (hnm : n ≤ m) (w : World σ τ)
    (c : Act σ τ Bool) (d : Option String) (s : Session σ τ) :
    ∃ steps v s', (p.limited n).wait c d w s = (v, s') ∧
      Concludes w (p.limited n) c (p.label d) s steps v s' ∧
      (((p.limited m).wait c d w s = (v, s') ∧
          Concludes w (p.limited m) c (p.label d) s steps v s') ∨
        ((∃ time, v = .error (.wait .timedOut ⟨p.label d, n, time⟩)) ∧
          evaluations steps = n ∧ pauses steps = n - 1 ∧
          ∃ seconds completed more v' s'', (p.limited m).wait c d w s = (v', s'') ∧
            Concludes w (p.limited m) c (p.label d) s
              (steps ++ .paused seconds completed :: more) v' s'')) ∧
      ((∀ e, v = .error e → e.isA .timeout = false) →
        (p.limited m).wait c d w s = (v, s') ∧
          Concludes w (p.limited m) c (p.label d) s steps v s') := by
  have hp' : (p.limited m).Accepted := hp.of_le hnm
  obtain ⟨steps, v, s', hwait, hgoes⟩ := exists_goes hp w c d s
  cases hgoes with
  | leftOpen hnone => cases hnone
  | ended hc =>
    refine ⟨steps, v, s', hwait, hc, ?_⟩
    rcases hc.limited_or_parts hp hnm with hsame | ⟨before, h, answer, s₁, rfl, hcount, hpauses,
      rfl, hs, he, hnone⟩
    · have hsame' := And.intro (hsame.wait_eq hp' rfl) hsame
      exact ⟨Or.inl hsame', fun _ => hsame'⟩
    · obtain ⟨seconds, completed, more, v', s'', hc'⟩ :=
        hs.exists_concludes_of_undecided hp' rfl he hnone
      refine ⟨Or.inr ⟨⟨_, rfl⟩, hcount, hpauses, seconds, completed, more, v', s'',
        hc'.wait_eq hp' rfl, hc'⟩, fun hno => ?_⟩
      cases hno _ rfl

end Limits

/-- Three look-ups of which only the last one is a success: two are not enough, and the third one
follows on these. -/
theorem wait_with_larger_limit_threeLookups :
    (threeTimes.limited 2).Accepted ∧ 2 ≤ 3 ∧
      ∃ steps time s' more s'',
        (threeTimes.limited 2).wait (Act.ask (.lookup "" "")) none Rehearsal.world
          (.start threeLookups 10 "") = (.error (.wait .timedOut ⟨"condition", 2, time⟩), s') ∧
        evaluations steps = 2 ∧ pauses steps = 1 ∧
        (threeTimes.limited 3).wait (Act.ask (.lookup "" "")) none Rehearsal.world
          (.start threeLookups 10 "") = (.ok ⟨.converged, 3, 6⟩, s'') ∧
        Concludes Rehearsal.world (threeTimes.limited 3) (Act.ask (.lookup "" "")) "condition"
          (.start threeLookups 10 "") (steps ++ more) (.ok ⟨.converged, 3, 6⟩) s'' := by
  have hp : (threeTimes.limited 2).Accepted := by
    refine ⟨by decide, Or.inl rfl, ?_, ?_⟩
    · rintro n ⟨⟩
      decide
    · rintro D ⟨⟩
      decide
  have hconverges : ((threeTimes.limited 3).wait (Act.ask (.lookup "" "")) none Rehearsal.world
      (.start threeLookups 10 "")).1 = .ok ⟨.converged, 3, 6⟩ := by
    with_unfolding_all rfl
  have htimesOut : ((threeTimes.limited 2).wait (Act.ask (.lookup "" "")) none Rehearsal.world
      (.start threeLookups 10 "")).1 = .error (.wait .timedOut ⟨"condition", 2, 3⟩) := by
    with_unfolding_all rfl
  obtain ⟨steps, v, s', hwait, -, hsame | ⟨⟨time, rfl⟩, hcount, hpauses, seconds, completed, more,
    v', s'', hwait', hc⟩, -⟩ := wait_with_larger_limit hp (by decide : 2 ≤ 3) Rehearsal.world
      (Act.ask (.lookup "" "")) none (.start threeLookups 10 "")
  · rw [hwait] at htimesOut
    rw [hsame.1] at hconverges
    cases htimesOut.symm.trans hconverges
  · rw [hwait'] at hconverges
    cases hconverges
    exact ⟨hp, by decide, steps, time, s', _, s'', hwait, hcount, hpauses, hwait', hc⟩

end Poll

end CaptureControl
