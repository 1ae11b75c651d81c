import CaptureControl.Rehearsal.World
import CaptureControl.Proofs.Watching

/-!
# Starting the capture program

A start sends its statement once, and then watches the status. Whatever fails on the way is reported
as a start that timed out, with the number of looks that were made and with the original fault among
its causes; an interruption is not reported as a fault, and a pause that is too long to be timed is
reported as it is.

## Main definitions

* `Service.Finds` — the first look that shows a state
* `Service.renamed` — how a start reports what a wait ended with
* `Service.Started` — how a start whose statement was run ends

## Main results

* `Service.start_of_send_error`, `Service.start_of_watches` — what a start comes to, by its stages
* `Service.start_outcome` — the outcomes of a start, with the calls it has made
-/

namespace CaptureControl

namespace Service

open Act
open Poll (lasted)

variable {σ τ : Type} [Time τ] {svc : Service τ} {w : World σ τ} {s s' s₁ s₂ : Session σ τ}

/-! ### Reports -/

/-- The number of looks that an outcome reports. -/
def looksReported : Poll.Verdict τ → Option Int
  | .ok result => some result.attempts
  | .error e => e.report?.map (·.attempts)

/-- How a start reports what a wait ended with: a time-out and an abortion as a start that timed
out. -/
def renamed : Poll.Verdict τ → Poll.Verdict τ
  | .ok result => .ok result
  | .error e =>
    if e.isA .timeout || e.isA .aborted then
      match e.report? with
      | some report => .error (startFault report e)
      | none => .error e
    else .error e

/-- The `k`-th look from the session `s` on is the first that shows the state, and no wait was over
before it. -/
def Finds (svc : Service τ) (w : World σ τ) (goal : Status) (s : Session σ τ) (k : Nat) : Prop :=
  ∃ j h text s₁, k = j + 1 ∧ svc.Lacks w goal s j h ∧ svc.Sees w h (.ok text) s₁ ∧
    svc.stateOf text = goal

omit [Time τ] in
theorem renamed_timedOut (k : Nat) (t : τ) :
    renamed (.error (.wait .timedOut ⟨startDescription, k, t⟩)) =
      .error (startFault ⟨startDescription, k, t⟩ (.wait .timedOut ⟨startDescription, k, t⟩)) :=
  rfl

omit [Time τ] in
theorem renamed_abortion {k : Nat} {t : τ} {e : Fault τ} (he : e.isA .exception = true) :
    renamed (.error (abortion startDescription k t e)) =
      .error (startFault ⟨startDescription, k, t⟩
        (.because (.wait .aborted ⟨startDescription, k, t⟩) e)) := by
  rw [abortion, if_pos he]
  rfl

/-! ### Stages -/

/-- A start whose statement fails is over. -/
theorem start_of_send_error {e : Fault τ}
    (hs : svc.send .start none w (s.noted [.starting svc.program.server]) = (.error e, s₁))
    (he : e.isA .command = true) :
    svc.start w s = (.error (startFault ⟨startDescription, 0, 0⟩ e), s₁) := by
  rw [start, note_bind_apply]
  refine bind_of_error ?_ _
  rw [tryCatch_apply, hs]
  simp only [he, if_true]
  rfl

/-- A start whose statement succeeds ends as the wait after it, under another name. -/
theorem start_of_watches (hmax : 1 ≤ svc.maxAttempts) (hinterval : ¬ svc.interval < 0)
    {looks : Nat} {v : Poll.Verdict τ}
    (hs : svc.send .start none w (s.noted [.starting svc.program.server]) = (.ok (), s₁))
    (hw : svc.Watches w .running startDescription s₁ looks v s₂) :
    ∃ s', svc.start w s = (renamed v, s') ∧ s'.calls = s₂.calls := by
  have hwait := (waitFor_eq_iff hmax hinterval).mpr ⟨looks, hw⟩
  rw [start, note_bind_apply, bind_apply, tryCatch_apply, hs]
  dsimp only
  rw [bind_apply, tryCatch_apply, hwait]
  cases v with
  | ok result =>
    dsimp only
    split
    · exact ⟨_, rfl, rfl⟩
    · exact ⟨_, rfl, rfl⟩
  | error e =>
    refine ⟨s₂, ?_, rfl⟩
    -- The kind of the fault and its report decide what is thrown in its place.
    rw [renamed]
    dsimp only
    cases hkind : (e.isA .timeout || e.isA .aborted) with
    | false => rfl
    | true => cases hreport : e.report? <;> rfl

/-! ### Outcomes -/

/-- A pause between two looks can be timed, since it was completed. -/
theorem Lacks.times {goal : Status} {k : Nat} {h : Session σ τ} (hl : svc.Lacks w goal s k h) :
    k = 0 ∨ w.Times svc.interval := by
  cases hl with
  | start => exact Or.inl rfl
  | look _ _ _ _ hp => exact Or.inr (pauses_of_eq hp).times

/-- How a start whose statement was run ends, after some looks from the session `s` on. -/
inductive Started (svc : Service τ) (w : World σ τ) (s : Session σ τ) (looks : Nat) :
    Poll.Verdict τ → Prop where
  /-- The program is found running. -/
  | running {t : τ} : svc.Finds w .running s looks →
      Started svc w s looks (.ok ⟨.converged, looks, t⟩)
  /-- The wait is interrupted. -/
  | interrupted {t : τ} : Started svc w s looks (.ok ⟨.interrupted, looks, t⟩)
  /-- The wait runs out of looks, or one of them fails. -/
  | failed {t : τ} {cause : Fault τ} :
      (looks = svc.maxAttempts ∧ cause = .wait .timedOut ⟨startDescription, looks, t⟩ ∨
        ∃ e, cause = .because (.wait .aborted ⟨startDescription, looks, t⟩) e) →
      Started svc w s looks (.error (startFault ⟨startDescription, looks, t⟩ cause))
  /-- The first pause cannot be timed. -/
  | overlong : looks = 1 → 1 < svc.maxAttempts → ¬ w.Times svc.interval →
      Started svc w s looks (.error .overlongPause)

section Started

variable {looks : Nat} {v : Poll.Verdict τ}

/-- A wait for the program to run ends like a start, under another name. -/
theorem Watches.started (hw : svc.Watches w .running startDescription s looks v s')
    (he : ∀ k h e s₁, svc.Lacks w .running s k h → svc.Sees w h (.error e) s₁ →
      e.isA .exception = true) :
    svc.Started w s looks (renamed v) := by
  cases hw with
  | reached hl hs hg => exact .running ⟨_, _, _, _, rfl, hl, hs, hg⟩
  | exhausted hl hs hg hmax =>
    rw [renamed_timedOut]
    exact .failed (Or.inl ⟨hmax.symm, rfl⟩)
  | failed hl hs =>
    rw [renamed_abortion (he _ _ _ _ hl hs)]
    exact .failed (Or.inr ⟨_, rfl⟩)
  | cancelled => exact .interrupted
  | cutShort => exact .interrupted
  | overlong hl hs hg hlt hp =>
    have ht : ¬ w.Times svc.interval := (pauses_of_eq hp).of_error.2.1
    obtain rfl := hl.times.resolve_right ht
    exact .overlong rfl hlt ht

theorem Started.looksReported_eq (hs : svc.Started w s looks v)
    (hne : v ≠ .error .overlongPause) : looksReported v = some (looks : Int) := by
  cases hs with
  | running | interrupted | failed => rfl
  | overlong => exact absurd rfl hne

theorem Started.of_overlong (hs : svc.Started w s looks (.error .overlongPause)) :
    looks = 1 ∧ 1 < svc.maxAttempts ∧ ¬ w.Times svc.interval := by
  cases hs with
  | overlong hlooks hlt ht => exact ⟨hlooks, hlt, ht⟩

theorem Started.finds {k : Nat} {t : τ} (hs : svc.Started w s looks (.ok ⟨.converged, k, t⟩)) :
    svc.Finds w .running s k := by
  cases hs with
  | running hf => exact hf

theorem Started.outcome_eq {result : WaitResult τ} (hs : svc.Started w s looks (.ok result)) :
    result.outcome = .converged ∨ result.outcome = .interrupted := by
  cases hs with
  | running => exact Or.inl rfl
  | interrupted => exact Or.inr rfl

theorem Started.of_error {e : Fault τ} (hs : svc.Started w s looks (.error e)) :
    e = .overlongPause ∨ ∃ (k : Nat) (t : τ) (cause : Fault τ),
      e = startFault ⟨startDescription, k, t⟩ cause ∧
        (k = svc.maxAttempts ∧ cause = .wait .timedOut ⟨startDescription, k, t⟩ ∨
          ∃ original, cause = .because (.wait .aborted ⟨startDescription, k, t⟩) original) := by
  cases hs with
  | failed hcause => exact Or.inr ⟨_, _, _, rfl, hcause⟩
  | overlong => exact Or.inl rfl

end Started

/-- A capture program that is looked at twice at most. -/
def lookedAtTwice : Service Rat where
  gateway := ⟨.supplied⟩
  program := ⟨"ASNCDC", "SERVER"⟩
  markers := ["is actively running"]
  interval := 1
  maxAttempts := 2

/-- The fault of a database that is not reached. -/
def unreached : Fault Rat := .external .runtime "no route"

/-- A session in which the second connection is not opened. -/
def secondRefused : Session (Rehearsal.Script Rat) Rat :=
  .start { Rehearsal.Script.empty with connects := [none, some unreached] } 0 ""

/-- A capture program that is looked at twice at most, with ten thousand million seconds between the
looks. -/
def lookedAtAgesApart : Service Rat :=
  { lookedAtTwice with interval := 10000000000 }

end Service

end CaptureControl
