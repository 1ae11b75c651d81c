import CaptureControl.Service
import CaptureControl.Proofs.Polling
import CaptureControl.Proofs.Statements

/-!
# Watching the capture program

A wait for a state of the capture program is a poll, but nothing of a poll is left in what a caller
wants to know: which status text was read when, and how the wait ended because of it. Here waits are
told in those terms, by the looks at the status. The poll behind them has an attempt limit and no
other, takes no fault for transient, and asks the database once per look; that is all that is used of
it. Its pauses are all of one length, so if one of them cannot be timed, it is the first.

## Implementation notes

`Lacks` and `Watches` are to looks what `Poll.Undecided` and `Poll.Ends` are to evaluations. They are
not instances of them, since an evaluation answers only whether the state is reached, and the status
text behind the answer is lost.

## Main definitions

* `Service.Sees` — a look at the status
* `Service.Lacks` — looks at the status that did not show a state, each with a pause after it
* `Service.Watches` — a whole wait

## Main results

* `Service.waitFor_eq_iff` — a wait for a state gives exactly what its looks say
* `Service.Watches.calls_eq` — it makes one call for each look
* `Service.Watches.looks_le` — there are at most as many looks as are allowed
-/

namespace CaptureControl

namespace Service

open Poll (lasted Evaluates Undecided Settles Ends)

variable {σ τ : Type}

/-! ### Looks -/

/-- The state that a status text tells of the program. -/
def stateOf (svc : Service τ) (text : Option String) : Status :=
  Status.classify text svc.markers

/-- The session after a status text was read. -/
def checked (svc : Service τ) (text : Option String) (s : Session σ τ) : Session σ τ :=
  s.noted [.checked text (svc.stateOf text)]

/-- From the session `h`, the cancel flag is found clear, and then the status text is asked for: with
a result, and with the session that leaves. -/
structure Sees (svc : Service τ) (w : World σ τ) (h : Session σ τ)
    (r : Except (Fault τ) (Option String)) (s : Session σ τ) : Prop where
  /-- The flag is clear before the status text is asked for. -/
  clear : (h.glance w).cancelled = false
  /-- The look is recorded with its time, and then the status text is asked for. -/
  result : svc.statusText w ((h.glance w).record (.evaluating h.clock)) = (r, s)

variable [Time τ]

/-- The first `k` looks from the session `s` on do not show the state, are not all that are allowed,
and the pauses after them are completed; the next look starts in the session `h`. -/
inductive Lacks (svc : Service τ) (w : World σ τ) (goal : Status) (s : Session σ τ) :
    Nat → Session σ τ → Prop where
  | start : Lacks svc w goal s 0 s
  | look {k h text s₁ h'} : Lacks svc w goal s k h → svc.Sees w h (.ok text) s₁ →
      svc.stateOf text ≠ goal → k + 1 < svc.maxAttempts →
      Act.pause svc.interval w (svc.checked text s₁) = (.ok true, h') →
      Lacks svc w goal s (k + 1) h'

/-- A look that fails aborts a wait, unless it fails with what is no exception. -/
def abortion (description : String) (looks : Nat) (time : τ) (e : Fault τ) : Fault τ :=
  if e.isA .exception then .because (.wait .aborted ⟨description, looks, time⟩) e else e

/-- A wait for a state from the session `s` on: with so many looks, with a verdict, and with the
session it leaves. -/
inductive Watches (svc : Service τ) (w : World σ τ) (goal : Status) (description : String)
    (s : Session σ τ) : Nat → Poll.Verdict τ → Session σ τ → Prop where
  /-- The look shows the state. -/
  | reached {k h text s₁} : Lacks svc w goal s k h → svc.Sees w h (.ok text) s₁ →
      svc.stateOf text = goal →
      Watches svc w goal description s (k + 1) (.ok ⟨.converged, k + 1, lasted s.clock s₁.clock⟩)
        ((svc.checked text s₁).noted [.converged description (k + 1)])
  /-- The look does not show the state, and is the last that is allowed. -/
  | exhausted {k h text s₁} : Lacks svc w goal s k h → svc.Sees w h (.ok text) s₁ →
      svc.stateOf text ≠ goal → svc.maxAttempts = k + 1 →
      Watches svc w goal description s (k + 1)
        (.error (.wait .timedOut ⟨description, (k + 1 : Nat), lasted s.clock s₁.clock⟩))
        ((svc.checked text s₁).noted [.exhausted description (k + 1)])
  /-- The look fails. -/
  | failed {k h e s₁} : Lacks svc w goal s k h → svc.Sees w h (.error e) s₁ →
      Watches svc w goal description s (k + 1)
        (.error (abortion description (k + 1) (lasted s.clock s₁.clock) e)) s₁
  /-- The cancel flag is found set before a look. -/
  | cancelled {k h} : Lacks svc w goal s k h → (h.glance w).cancelled = true →
      Watches svc w goal description s k (.ok ⟨.interrupted, k, lasted s.clock h.clock⟩)
        ((h.glance w).noted [.interrupted description])
  /-- The pause after a look is cut short. -/
  | cutShort {k h text s₁ s₂} : Lacks svc w goal s k h → svc.Sees w h (.ok text) s₁ →
      svc.stateOf text ≠ goal → k + 1 < svc.maxAttempts →
      Act.pause svc.interval w (svc.checked text s₁) = (.ok false, s₂) →
      Watches svc w goal description s (k + 1)
        (.ok ⟨.interrupted, k + 1, lasted s.clock s₂.clock⟩) (s₂.noted [.interrupted description])
  /-- The pause after a look is too long to be timed. -/
  | overlong {k h text s₁ s₂} : Lacks svc w goal s k h → svc.Sees w h (.ok text) s₁ →
      svc.stateOf text ≠ goal → k + 1 < svc.maxAttempts →
      Act.pause svc.interval w (svc.checked text s₁) = (.error .overlongPause, s₂) →
      Watches svc w goal description s (k + 1) (.error .overlongPause) s₂

/-! ### The poll behind a wait -/

/-- The poll of a wait. -/
def polling (svc : Service τ) (description : String) : Poll τ where
  interval := svc.interval
  allowance := ⟨some svc.maxAttempts, none, 0, 0⟩
  transient := []
  description := description
  horizon := Poll.defaultHorizon

/-- The condition of a wait. -/
def reaches (svc : Service τ) (goal : Status) : Act σ τ Bool := do
  return (← svc.status) = goal

section Poll

variable {svc : Service τ} {w : World σ τ} {goal : Status} {description : String} {k : Nat}
  {t : τ} {h s s' s₁ : Session σ τ}

theorem polling_accepted (hmax : 1 ≤ svc.maxAttempts) (hinterval : ¬ svc.interval < 0) :
    (svc.polling description).Accepted where
  interval := hinterval
  limited := Or.inl rfl
  attempts := by
    rintro n ⟨⟩
    exact hmax
  duration := nofun

theorem waitFor_eq_wait (hmax : 1 ≤ svc.maxAttempts) (hinterval : ¬ svc.interval < 0) :
    svc.waitFor description goal w s =
      (svc.polling description).wait (svc.reaches goal) none w s := by
  have hpoll : (do
      let allowance ← Allowance.make? (some (svc.maxAttempts : Int)) none
      Poll.make? svc.interval allowance [] description) = .ok (svc.polling description) := by
    have hlimit : ¬ (svc.maxAttempts : Int) < 1 := by omega
    simp [Allowance.make?, Poll.make?, hlimit, hinterval, bind, Except.bind, polling]
  rw [waitFor, poll, hpoll]
  rfl

theorem atLimit_polling : (svc.polling description).AtLimit k t ↔ svc.maxAttempts ≤ k := by
  simp [Poll.AtLimit, polling]

/-! ### Looks and evaluations -/

omit [Time τ] in
theorem Sees.evaluates_of_ok {text : Option String} (hs : svc.Sees w h (.ok text) s₁) :
    Evaluates w (svc.reaches goal) h (.ok (decide (svc.stateOf text = goal)))
      (svc.checked text s₁) := by
  refine ⟨hs.clear, ?_⟩
  have hstatus : svc.status w ((h.glance w).record (.evaluating h.clock)) =
      (.ok (svc.stateOf text), svc.checked text s₁) := by
    rw [status, Act.bind_of_ok hs.result]
    rfl
  rw [reaches, Act.bind_of_ok hstatus]
  rfl

omit [Time τ] in
theorem Sees.evaluates_of_error {e : Fault τ} (hs : svc.Sees w h (.error e) s₁) :
    Evaluates w (svc.reaches goal) h (.error e) s₁ := by
  refine ⟨hs.clear, ?_⟩
  have hstatus : svc.status w ((h.glance w).record (.evaluating h.clock)) = (.error e, s₁) := by
    rw [status, Act.bind_of_error hs.result]
  rw [reaches, Act.bind_of_error hstatus]

omit [Time τ] in
/-- An evaluation is a look. -/
theorem exists_sees_of_evaluates {answer : Except (Fault τ) Bool}
    (he : Evaluates w (svc.reaches goal) h answer s') :
    (∃ text s₁, svc.Sees w h (.ok text) s₁ ∧ answer = .ok (decide (svc.stateOf text = goal)) ∧
        s' = svc.checked text s₁) ∨
      ∃ e, svc.Sees w h (.error e) s' ∧ answer = .error e := by
  rcases hr : svc.statusText w ((h.glance w).record (.evaluating h.clock)) with ⟨e | text, s₁⟩
  · have hs : svc.Sees w h (.error e) s₁ := ⟨he.clear, hr⟩
    obtain ⟨rfl, rfl⟩ := he.unique hs.evaluates_of_error
    exact Or.inr ⟨e, hs, rfl⟩
  · have hs : svc.Sees w h (.ok text) s₁ := ⟨he.clear, hr⟩
    obtain ⟨rfl, rfl⟩ := he.unique hs.evaluates_of_ok
    exact Or.inl ⟨text, s₁, hs, rfl, rfl⟩

theorem decision_of_reached {text : Option String} (hg : svc.stateOf text = goal) :
    (svc.polling description).decision description k t (.ok (decide (svc.stateOf text = goal))) =
      some (.ok ⟨.converged, k, t⟩) := by
  rw [decide_eq_true hg]
  rfl

theorem decision_of_lacking {text : Option String} (hg : svc.stateOf text ≠ goal) :
    (svc.polling description).decision description k t (.ok (decide (svc.stateOf text = goal))) =
      if svc.maxAttempts ≤ k then some (.error (.wait .timedOut ⟨description, k, t⟩)) else none := by
  rw [decide_eq_false hg]
  simp only [Poll.decision, Poll.reading, atLimit_polling]

theorem decision_of_error (svc : Service τ) (description : String) (k : Nat) (t : τ)
    (e : Fault τ) :
    (svc.polling description).decision description k t (.error e) =
      some (.error (abortion description k t e)) := by
  have hreading : (svc.polling description).reading description k t (.error e) =
      .error (abortion description k t e) := by
    simp only [Poll.reading, polling, List.any_nil, Bool.false_eq_true, if_false, abortion]
    split <;> rfl
  rw [Poll.decision, hreading]

theorem remarks_of_reached {text : Option String} (hg : svc.stateOf text = goal) :
    (svc.polling description).remarks description k t (.ok (decide (svc.stateOf text = goal))) =
      [.converged description k] := by
  rw [decide_eq_true hg]
  rfl

theorem remarks_of_lacking {text : Option String} (hg : svc.stateOf text ≠ goal) :
    (svc.polling description).remarks description k t (.ok (decide (svc.stateOf text = goal))) =
      if svc.maxAttempts ≤ k then [.exhausted description k] else [] := by
  rw [decide_eq_false hg]
  simp [Poll.remarks, Poll.closing, Poll.reading, Poll.misses, atLimit_polling]

theorem remarks_of_error (svc : Service τ) (description : String) (k : Nat) (t : τ)
    (e : Fault τ) :
    (svc.polling description).remarks description k t (.error e) = [] := by
  simp only [Poll.remarks, Poll.misses, Poll.reading, polling, List.any_nil, Bool.false_eq_true,
    if_false, List.append_nil]
  split <;> rfl

/-! ### Looks that lead nowhere -/

/-- A look that does not show the state decides nothing before the last one that is allowed. -/
theorem decision_of_lacking_of_lt {text : Option String} (hg : svc.stateOf text ≠ goal)
    (hlt : k < svc.maxAttempts) :
    (svc.polling description).decision description k t (.ok (decide (svc.stateOf text = goal))) =
        none ∧
      (svc.polling description).remarks description k t (.ok (decide (svc.stateOf text = goal))) =
        [] := by
  rw [decision_of_lacking hg, remarks_of_lacking hg, if_neg (by omega), if_neg (by omega)]
  exact ⟨rfl, rfl⟩

/-- An evaluation that decides nothing is such a look. -/
theorem exists_sees_of_undecided {answer : Except (Fault τ) Bool}
    (he : Evaluates w (svc.reaches goal) h answer s')
    (hd : (svc.polling description).decision description k t answer = none) :
    ∃ text s₁, svc.Sees w h (.ok text) s₁ ∧ svc.stateOf text ≠ goal ∧ k < svc.maxAttempts ∧
      s'.noted ((svc.polling description).remarks description k t answer) =
        svc.checked text s₁ := by
  rcases exists_sees_of_evaluates he with ⟨text, s₁, hs, rfl, rfl⟩ | ⟨e, hs, rfl⟩
  · by_cases hg : svc.stateOf text = goal
    · simp [decision_of_reached hg] at hd
    · have hlt : ¬ svc.maxAttempts ≤ k := by
        intro hle
        simp [decision_of_lacking hg, hle] at hd
      refine ⟨text, s₁, hs, hg, by omega, ?_⟩
      rw [remarks_of_lacking hg, if_neg hlt]
      rfl
  · simp [decision_of_error] at hd

/-- The looks that do not show the state are the undecided rounds. -/
theorem Lacks.undecided (hl : svc.Lacks w goal s k h) :
    Undecided w (svc.polling description) (svc.reaches goal) description s k h := by
  induction hl with
  | start => exact .start
  | look _ hs hg hlt hp ih =>
    obtain ⟨hd, hr⟩ := decision_of_lacking_of_lt hg hlt
    refine ih.round ⟨_, _, hs.evaluates_of_ok, hd, ?_⟩
    rw [hr]
    exact hp

theorem lacks_of_undecided
    (hu : Undecided w (svc.polling description) (svc.reaches goal) description s k h) :
    svc.Lacks w goal s k h := by
  induction hu with
  | start => exact .start
  | @round k h h' _ hc ih =>
    obtain ⟨answer, s₁, he, hd, hp⟩ := hc
    obtain ⟨text, s₂, hs, hg, hlt, hchecked⟩ := exists_sees_of_undecided he hd
    rw [hchecked] at hp
    exact ih.look hs hg hlt hp

/-! ### The end of a wait -/

/-- A wait told by its looks is the course of the poll. -/
theorem Watches.exists_ends {looks : Nat} {v : Poll.Verdict τ}
    (hw : svc.Watches w goal description s looks v s') :
    ∃ k, Ends w (svc.polling description) (svc.reaches goal) description s k v s' := by
  cases hw with
  | reached hl hs hg =>
    refine ⟨_, _, hl.undecided, ?_⟩
    rw [← remarks_of_reached hg]
    exact .decided hs.evaluates_of_ok (decision_of_reached hg)
  | @exhausted k h text s₁ hl hs hg hmax =>
    have hd : (svc.polling description).decision description (k + 1) (lasted s.clock s₁.clock)
        (.ok (decide (svc.stateOf text = goal))) = some (.error (.wait .timedOut
          ⟨description, (k + 1 : Nat), lasted s.clock s₁.clock⟩)) := by
      rw [decision_of_lacking hg, if_pos (by omega)]
    have hr : (svc.polling description).remarks description (k + 1) (lasted s.clock s₁.clock)
        (.ok (decide (svc.stateOf text = goal))) = [.exhausted description (k + 1)] := by
      rw [remarks_of_lacking hg, if_pos (by omega)]
    refine ⟨_, _, hl.undecided, ?_⟩
    rw [← hr]
    exact .decided hs.evaluates_of_ok hd
  | @failed k h e _ hl hs =>
    have he : Evaluates w (svc.reaches goal) h (.error e) s' := hs.evaluates_of_error
    have hd := Settles.decided he
      (svc.decision_of_error description (k + 1) (lasted s.clock s'.clock) e)
    rw [remarks_of_error] at hd
    exact ⟨_, _, hl.undecided, hd⟩
  | cancelled hl hc => exact ⟨_, _, hl.undecided, .cancelled hc⟩
  | cutShort hl hs hg hlt hp =>
    obtain ⟨hd, hr⟩ := decision_of_lacking_of_lt hg hlt
    refine ⟨_, _, hl.undecided, .cutShort hs.evaluates_of_ok hd ?_⟩
    rw [hr]
    exact hp
  | overlong hl hs hg hlt hp =>
    obtain ⟨hd, hr⟩ := decision_of_lacking_of_lt hg hlt
    refine ⟨_, _, hl.undecided, .overlong hs.evaluates_of_ok hd ?_⟩
    rw [hr]
    exact hp

/-- The course of the poll can be told by looks. -/
theorem exists_watches_of_ends {v : Poll.Verdict τ} (hmax : 1 ≤ svc.maxAttempts)
    (he : Ends w (svc.polling description) (svc.reaches goal) description s k v s') :
    ∃ looks, svc.Watches w goal description s looks v s' := by
  obtain ⟨h, hu, hs⟩ := he
  have hl := lacks_of_undecided hu
  have hk : k < svc.maxAttempts := hu.lt_of_limit hmax rfl
  cases hs with
  | cancelled hc => exact ⟨k, .cancelled hl hc⟩
  | @decided answer s₁ v he hd =>
    rcases exists_sees_of_evaluates he with ⟨text, s₂, hs, rfl, rfl⟩ | ⟨e, hs, rfl⟩
    · by_cases hg : svc.stateOf text = goal
      · rw [decision_of_reached hg] at hd
        obtain rfl := Option.some.inj hd
        rw [remarks_of_reached hg]
        exact ⟨k + 1, .reached hl hs hg⟩
      · rw [decision_of_lacking hg] at hd
        by_cases hle : svc.maxAttempts ≤ k + 1
        · rw [if_pos hle] at hd
          obtain rfl := Option.some.inj hd
          rw [remarks_of_lacking hg, if_pos hle]
          exact ⟨k + 1, .exhausted hl hs hg (by omega)⟩
        · rw [if_neg hle] at hd
          cases hd
    · rw [decision_of_error] at hd
      obtain rfl := Option.some.inj hd
      rw [remarks_of_error]
      exact ⟨k + 1, .failed hl hs⟩
  | cutShort he hd hp =>
    obtain ⟨text, s₂, hs, hg, hlt, hchecked⟩ := exists_sees_of_undecided he hd
    rw [hchecked] at hp
    exact ⟨k + 1, .cutShort hl hs hg hlt hp⟩
  | overlong he hd hp =>
    obtain ⟨text, s₂, hs, hg, hlt, hchecked⟩ := exists_sees_of_undecided he hd
    rw [hchecked] at hp
    exact ⟨k + 1, .overlong hl hs hg hlt hp⟩

/-- **A wait for a state gives exactly what its looks say.** -/
theorem waitFor_eq_iff (hmax : 1 ≤ svc.maxAttempts) (hinterval : ¬ svc.interval < 0)
    {v : Poll.Verdict τ} :
    svc.waitFor description goal w s = (v, s') ↔
      ∃ looks, svc.Watches w goal description s looks v s' := by
  have hp : (svc.polling description).Accepted := polling_accepted hmax hinterval
  rw [waitFor_eq_wait hmax hinterval]
  constructor
  · intro hrun
    obtain ⟨v₀, s₀, hw, ⟨k, he, -⟩ | ⟨hm, -⟩⟩ := Poll.wait_cases hp w (svc.reaches goal) none s
    · obtain ⟨rfl, rfl⟩ := Prod.mk.inj (hw.symm.trans hrun)
      exact exists_watches_of_ends hmax he
    · cases hm
  · rintro ⟨looks, hw⟩
    obtain ⟨k, he⟩ := hw.exists_ends
    exact Poll.wait_eq_of_ends hp he nofun

/-! ### Calls -/

omit [Time τ] in
theorem Sees.calls_eq {r : Except (Fault τ) (Option String)} (hs : svc.Sees w h r s₁) :
    s₁.calls = (.query, svc.program.text .status) :: h.calls := by
  have hcalls := Gateway.calls_query svc.gateway (svc.program.text .status) none Rows.firstText w
    ((h.glance w).record (.evaluating h.clock))
  rw [show svc.gateway.query (svc.program.text .status) none Rows.firstText w
    ((h.glance w).record (.evaluating h.clock)) = (r, s₁) from hs.result] at hcalls
  exact hcalls

theorem calls_of_pause {seconds : τ} {r : Except (Fault τ) Bool}
    (hp : Act.pause seconds w s = (r, s')) : s'.calls = s.calls := by
  have hlog : s'.log = s.log := by cases Act.pauses_of_eq hp <;> rfl
  rw [Session.calls, Session.calls, hlog]

/-- Each look is one call. -/
theorem Lacks.calls_eq (hl : svc.Lacks w goal s k h) :
    h.calls = List.replicate k (.query, svc.program.text .status) ++ s.calls := by
  induction hl with
  | start => rfl
  | @look k h text s₁ h' _ hs _ _ hp ih =>
    have hchecked : (svc.checked text s₁).calls = s₁.calls := rfl
    rw [calls_of_pause hp, hchecked, hs.calls_eq, ih]
    rfl

/-- **A wait makes one call for each look.** -/
theorem Watches.calls_eq {looks : Nat} {v : Poll.Verdict τ}
    (hw : svc.Watches w goal description s looks v s') :
    s'.calls = List.replicate looks (.query, svc.program.text .status) ++ s.calls := by
  cases hw with
  | @reached k h text s₁ hl hs =>
    change s₁.calls = _
    rw [hs.calls_eq, hl.calls_eq]
    rfl
  | @exhausted k h text s₁ hl hs =>
    change s₁.calls = _
    rw [hs.calls_eq, hl.calls_eq]
    rfl
  | failed hl hs =>
    rw [hs.calls_eq, hl.calls_eq]
    rfl
  | cancelled hl => exact hl.calls_eq
  | @cutShort k h text s₁ s₂ hl hs _ _ hp =>
    change s₂.calls = _
    rw [calls_of_pause hp]
    change s₁.calls = _
    rw [hs.calls_eq, hl.calls_eq]
    rfl
  | @overlong k h text s₁ _ hl hs _ _ hp =>
    rw [calls_of_pause hp]
    change s₁.calls = _
    rw [hs.calls_eq, hl.calls_eq]
    rfl

theorem Lacks.lt_maxAttempts (hl : svc.Lacks w goal s k h) (hmax : 1 ≤ svc.maxAttempts) :
    k < svc.maxAttempts := by
  cases hl with
  | start => exact hmax
  | look _ _ _ hlt => exact hlt

/-- **There are at most as many looks as are allowed.** -/
theorem Watches.looks_le {looks : Nat} {v : Poll.Verdict τ} (hmax : 1 ≤ svc.maxAttempts)
    (hw : svc.Watches w goal description s looks v s') : looks ≤ svc.maxAttempts := by
  cases hw with
  | reached hl => exact hl.lt_maxAttempts hmax
  | exhausted hl => exact hl.lt_maxAttempts hmax
  | failed hl => exact hl.lt_maxAttempts hmax
  | cancelled hl => exact Nat.le_of_lt (hl.lt_maxAttempts hmax)
  | cutShort hl | overlong hl => exact hl.lt_maxAttempts hmax

end Poll

end Service

end CaptureControl
