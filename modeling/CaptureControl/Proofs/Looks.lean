import CaptureControl.Proofs.Incidents

/-!
# Polls and their accounts

A poll without time limit is told by its looks and by the pauses between them, which are all of one
length. Whatever is looked at, the last look tells how the poll ended, unless it was interrupted or
its pause could not be timed: a look that finds what is waited for, or that fails, is the last, and
all others leave the poll undecided.

## Main definitions

* `Incident.Undeciding` — an incident that leaves a poll undecided
* `Station.Looks` — a condition is evaluated in a single look
* `Polled` — how the outcome of a poll is related to its account

## Main results

* `Station.Tells.wait` — what a poll comes to is told by its account
* `Polled.converged_iff` — a poll comes to hold exactly if its last look finds what is waited for
-/

namespace CaptureControl

/-! ### What a poll is told by -/

section Polls

variable {σ τ : Type}

/-- An incident that leaves a poll undecided: a pause that ended, or a look whose answer is "not
yet". The function tells of an incident whether it is a look, and with what answer. -/
def Incident.Undeciding (seconds : τ) (answer : Incident τ → Option (Except (Fault τ) Bool))
    (transient : List Fault.Kind) (i : Incident τ) : Prop :=
  (∃ completed, i = .paused seconds (.ok completed)) ∨ answer i = some (.ok false) ∨
    ∃ e, answer i = some (.error e) ∧ transient.any e.isA = true

/-- An evaluation of a condition is a single look, and answered as the look is. -/
def Station.Looks [Time τ] (h : Station τ) (w : World σ τ) (c : Act σ τ Bool)
    (answer : Incident τ → Option (Except (Fault τ) Bool)) : Prop :=
  ∀ ⦃s r s'⦄, Poll.Evaluates w c s r s' → ∃ i, h.Account w s [i] s' ∧ answer i = some r

/-- How the outcome of a poll with pauses of some length is related to its account. -/
inductive Polled (seconds : τ) (answer : Incident τ → Option (Except (Fault τ) Bool))
    (transient : List Fault.Kind) : Poll.Verdict τ → List (Incident τ) → Prop where
  /-- The last look finds what is waited for. -/
  | converged {result : WaitResult τ} {before : List (Incident τ)} {i : Incident τ} :
      result.outcome = .converged → (∀ j ∈ before, j.Undeciding seconds answer transient) →
      answer i = some (.ok true) → Polled seconds answer transient (.ok result) (before ++ [i])
  /-- The wait is interrupted after looks that leave it undecided. -/
  | interrupted {result : WaitResult τ} {is : List (Incident τ)} :
      result.outcome = .interrupted → (∀ j ∈ is, j.Undeciding seconds answer transient) →
      Polled seconds answer transient (.ok result) is
  /-- The allowance is used up by looks that leave the wait undecided. -/
  | timedOut {report : WaitReport τ} {is : List (Incident τ)} :
      (∀ j ∈ is, j.Undeciding seconds answer transient) →
      Polled seconds answer transient (.error (.wait .timedOut report)) is
  /-- The last look fails, and that aborts the wait unless it is no exception. -/
  | failed {report : WaitReport τ} {before : List (Incident τ)} {i : Incident τ} {e : Fault τ} :
      (∀ j ∈ before, j.Undeciding seconds answer transient) → answer i = some (.error e) →
      Polled seconds answer transient
        (.error (if e.isA .exception then .because (.wait .aborted report) e else e))
        (before ++ [i])
  /-- After looks that leave the wait undecided, a pause is too long to be timed. -/
  | overlong {before : List (Incident τ)} :
      (∀ j ∈ before, j.Undeciding seconds answer transient) →
      Polled seconds answer transient (.error .overlongPause)
        (before ++ [.paused seconds (.error .overlongPause)])

variable [Time τ] {p : Poll τ} {label : String} {k : Nat} {time seconds : τ} {h : Station τ}
  {w : World σ τ} {c : Act σ τ Bool} {s s' : Session σ τ}
  {answer : Incident τ → Option (Except (Fault τ) Bool)}

theorem Poll.call?_of_mem_remarks {e : LogEntry τ} {r : Except (Fault τ) Bool}
    (he : e ∈ p.remarks label k time r) : e.call? = none := by
  rcases List.mem_append.mp he with he | he
  · unfold Poll.closing at he
    split at he
    · rw [List.mem_singleton.mp he]
      rfl
    · split at he
      · rw [List.mem_singleton.mp he]
        rfl
      · cases he
    · cases he
  · unfold Poll.misses at he
    split at he
    · cases he
    · split at he
      · rw [List.mem_singleton.mp he]
        rfl
      · cases he

omit [Time τ] in
/-- A look that is taken for "not yet" leaves a poll undecided. -/
theorem Incident.undeciding_of_reading {i : Incident τ} {r : Except (Fault τ) Bool}
    (hi : answer i = some r) (hr : p.reading label k time r = .ok false) :
    i.Undeciding seconds answer p.transient := by
  rcases p.reading_cases label k time r with ⟨holds, rfl, h₁⟩ | ⟨e, rfl, ht, -⟩ | ⟨e, rfl, h₁⟩
  · cases hr.symm.trans h₁
    exact Or.inr (Or.inl hi)
  · exact Or.inr (Or.inr ⟨e, hi, ht⟩)
  · cases hr.symm.trans h₁

/-- A look that decides a poll is the last, after others that left it undecided. -/
theorem Polled.of_look {before : List (Incident τ)} {i : Incident τ} {r : Except (Fault τ) Bool}
    {v : Poll.Verdict τ} (hb : ∀ j ∈ before, j.Undeciding seconds answer p.transient)
    (hi : answer i = some r) (hd : p.decision label k time r = some v) :
    Polled seconds answer p.transient v (before ++ [i]) := by
  have htimedOut (hr : p.reading label k time r = .ok false) :
      Polled seconds answer p.transient v (before ++ [i]) := by
    rw [Poll.decision, hr] at hd
    dsimp only at hd
    split at hd
    · cases hd
      refine .timedOut fun j hj => ?_
      rcases List.mem_append.mp hj with hj | hj
      · exact hb j hj
      · rw [List.mem_singleton.mp hj]
        exact Incident.undeciding_of_reading hi hr
    · cases hd
  rcases p.reading_cases label k time r with ⟨holds, rfl, hr⟩ | ⟨e, rfl, -, hr⟩ | ⟨e, rfl, hr⟩
  · cases holds with
    | true =>
      rw [Poll.decision, hr] at hd
      cases hd
      exact .converged rfl hb hi
    | false => exact htimedOut hr
  · exact htimedOut hr
  · rw [Poll.decision, hr] at hd
    cases hd
    exact .failed hb hi

/-- A look that decides nothing, what is logged of it, and the pause after it. -/
theorem Poll.Evaluates.account_pause {r reply : Except (Fault τ) Bool} {s₁ : Session σ τ}
    (hc : h.Looks w c answer) (he : Poll.Evaluates w c s r s₁)
    (hd : p.decision label k time r = none)
    (hp : Act.pause seconds w (s₁.noted (p.remarks label k time r)) = (reply, s')) :
    ∃ i, h.Account w s [i, .paused seconds reply] s' ∧ i.Undeciding seconds answer p.transient := by
  obtain ⟨i, ha, hi⟩ := hc he
  have hnoted : s₁.Aside w (s₁.noted (p.remarks label k time r)) :=
    .noted s₁ fun _ => call?_of_mem_remarks
  refine ⟨i, ha.trans (.aside hnoted (.single (.paused hp))), ?_⟩
  exact Incident.undeciding_of_reading hi (reading_of_decision_eq_none hd)

omit [Time τ] in
/-- A look and a pause that ended leave a poll undecided that was. -/
theorem Incident.undeciding_append {transient : List Fault.Kind} {is : List (Incident τ)}
    {i : Incident τ} {completed : Bool} (his : ∀ j ∈ is, j.Undeciding seconds answer transient)
    (hi : i.Undeciding seconds answer transient) :
    ∀ j ∈ is ++ [i, .paused seconds (.ok completed)], j.Undeciding seconds answer transient := by
  intro j hj
  rcases List.mem_append.mp hj with hj | hj
  · exact his j hj
  · rcases List.mem_cons.mp hj with rfl | hj
    · exact hi
    · exact Or.inl ⟨completed, List.mem_singleton.mp hj⟩

section Unlimited

variable (hmax : p.allowance.maxDuration = none)

include hmax

theorem Poll.Undecided.account {h' : Session σ τ} (hc : h.Looks w c answer)
    (hu : Poll.Undecided w p c label s k h') :
    ∃ is, h.Account w s is h' ∧ ∀ j ∈ is, j.Undeciding p.interval answer p.transient := by
  induction hu with
  | start => exact ⟨[], .done s, nofun⟩
  | round _ hround ih =>
    obtain ⟨is, ha, his⟩ := ih
    obtain ⟨r, s₁, he, hd, hp⟩ := hround
    rw [Poll.pauseAfter_eq_interval hmax] at hp
    obtain ⟨i, ha', hi⟩ := he.account_pause hc hd hp
    exact ⟨_, ha.trans ha', Incident.undeciding_append his hi⟩

theorem Poll.Ends.account {v : Poll.Verdict τ} (hc : h.Looks w c answer)
    (he : Poll.Ends w p c label s k v s') :
    ∃ is, h.Account w s is s' ∧ Polled p.interval answer p.transient v is := by
  obtain ⟨h', hu, hs⟩ := he
  obtain ⟨is, ha, his⟩ := hu.account hmax hc
  cases hs with
  | cancelled hset =>
    have hend : h.Account w h' [] ((h'.glance w).noted [.interrupted label]) :=
      .of_aside (.interrupted h' label hset)
    exact ⟨is ++ [], ha.trans hend, by
      rw [List.append_nil]
      exact .interrupted rfl his⟩
  | @decided r s₁ v he hd =>
    obtain ⟨i, ha', hi⟩ := hc he
    have hend : h.Account w s₁ []
        (s₁.noted (p.remarks label (k + 1) (Poll.lasted s.clock s₁.clock) r)) :=
      .of_aside (.noted s₁ fun _ => call?_of_mem_remarks)
    refine ⟨is ++ ([i] ++ []), ha.trans (ha'.trans hend), ?_⟩
    exact Polled.of_look his hi hd
  | @cutShort r s₁ s₂ he hd hp =>
    rw [Poll.pauseAfter_eq_interval hmax] at hp
    obtain ⟨i, ha', hi⟩ := he.account_pause hc hd hp
    have hcall : ∀ e ∈ [(.interrupted label : LogEntry τ)], e.call? = none := by
      simp [LogEntry.call?]
    have hend : h.Account w s₂ [] (s₂.noted [.interrupted label]) := .of_aside (.noted s₂ hcall)
    refine ⟨is ++ ([i, .paused p.interval (.ok false)] ++ []), ha.trans (ha'.trans hend), ?_⟩
    rw [List.append_nil]
    exact .interrupted rfl (Incident.undeciding_append his hi)
  | overlong he hd hp =>
    rw [Poll.pauseAfter_eq_interval hmax] at hp
    obtain ⟨i, ha', hi⟩ := he.account_pause hc hd hp
    refine ⟨_, ha.trans ha', ?_⟩
    rw [List.append_cons]
    exact .overlong (List.forall_mem_append.mpr ⟨his, List.forall_mem_singleton.mpr hi⟩)

/-- **What a poll without time limit comes to is told by its account.** -/
theorem Station.Tells.wait (hp : p.Accepted) {n : Nat} (hn : p.allowance.maxAttempts = some n)
    (hc : h.Looks w c answer) (d : Option String) :
    h.Tells w (p.wait c d) (Polled p.interval answer p.transient) := by
  intro s
  obtain ⟨v, s', hw, ⟨k, he, -⟩ | ⟨hnone, -⟩⟩ := Poll.wait_cases hp w c d s
  · obtain ⟨is, ha, hv⟩ := he.account hmax hc
    rw [hw]
    exact ⟨is, ha, hv⟩
  · rw [hn] at hnone
    cases hnone

end Unlimited

end Polls

/-! ### Polls that come to hold -/

section Polled

variable {τ : Type} {seconds : τ} {answer : Incident τ → Option (Except (Fault τ) Bool)}
  {transient : List Fault.Kind} {v : Poll.Verdict τ} {is : List (Incident τ)}

/-- An incident in the account of a poll leaves it undecided, or is the look that decides it or the
pause that cannot be timed. -/
theorem Polled.cases_of_mem (hv : Polled seconds answer transient v is) {i : Incident τ}
    (hi : i ∈ is) :
    i.Undeciding seconds answer transient ∨
      (answer i = some (.ok true) ∧ ∃ result, v = .ok result ∧ result.converged = true) ∨
      (∃ e e', answer i = some (.error e) ∧ v = .error e') ∨
      i = .paused seconds (.error .overlongPause) ∧ v = .error .overlongPause := by
  cases hv with
  | converged ho hb ha =>
    rcases List.mem_append.mp hi with hi | hi
    · exact Or.inl (hb i hi)
    · rw [List.mem_singleton.mp hi]
      exact Or.inr (Or.inl ⟨ha, _, rfl, decide_eq_true ho⟩)
  | interrupted _ hb => exact Or.inl (hb i hi)
  | timedOut hb => exact Or.inl (hb i hi)
  | failed hb ha =>
    rcases List.mem_append.mp hi with hi | hi
    · exact Or.inl (hb i hi)
    · rw [List.mem_singleton.mp hi]
      exact Or.inr (Or.inr (Or.inl ⟨_, _, ha, rfl⟩))
  | overlong hb =>
    rcases List.mem_append.mp hi with hi | hi
    · exact Or.inl (hb i hi)
    · exact Or.inr (Or.inr (Or.inr ⟨List.mem_singleton.mp hi, rfl⟩))

/-- A poll is told by pauses and looks. -/
theorem Polled.pause_or_look (hv : Polled seconds answer transient v is) {i : Incident τ}
    (hi : i ∈ is) : (∃ reply, i = .paused seconds reply) ∨ ∃ r, answer i = some r := by
  rcases hv.cases_of_mem hi with (⟨completed, hp⟩ | ha | ⟨e, ha, -⟩) | ⟨ha, -⟩ | ⟨e, -, ha, -⟩ |
    ⟨hp, -⟩
  · exact Or.inl ⟨_, hp⟩
  · exact Or.inr ⟨_, ha⟩
  · exact Or.inr ⟨_, ha⟩
  · exact Or.inr ⟨_, ha⟩
  · exact Or.inr ⟨_, ha⟩
  · exact Or.inl ⟨_, hp⟩

/-- A poll comes to hold exactly if its last look finds what is waited for. -/
theorem Polled.converged_iff (hv : Polled seconds answer transient v is)
    (hpause : ∀ reply, answer (.paused seconds reply) = none) :
    (∃ result, v = .ok result ∧ result.converged = true) ↔
      (is.filterMap answer).getLast? = some (.ok true) := by
  constructor
  · rintro ⟨result, rfl, hc⟩
    cases hv with
    | converged _ _ ha =>
      rw [List.filterMap_append, List.filterMap_cons_some ha]
      exact List.getLast?_concat
    | interrupted ho =>
      rw [WaitResult.converged, ho] at hc
      cases hc
  · intro hl
    obtain ⟨i, hi, ha⟩ := List.mem_filterMap.mp (List.mem_of_getLast? hl)
    rcases hv.cases_of_mem hi with (⟨completed, rfl⟩ | ha' | ⟨e, ha', -⟩) |
      ⟨-, hc⟩ | ⟨e, e', ha', -⟩ | ⟨rfl, -⟩
    · cases (hpause _).symm.trans ha
    · cases ha'.symm.trans ha
    · cases ha'.symm.trans ha
    · exact hc
    · cases ha'.symm.trans ha
    · cases (hpause _).symm.trans ha

/-- If no fault is transient, then a poll that does not fail is told by pauses and by looks that do
not fail. -/
theorem Polled.answer_of_mem {result : WaitResult τ}
    (hv : Polled seconds answer [] (.ok result) is) {i : Incident τ} (hi : i ∈ is) :
    (∃ reply, i = .paused seconds reply) ∨ ∃ b, answer i = some (.ok b) := by
  rcases hv.cases_of_mem hi with (⟨completed, hp⟩ | ha | ⟨e, -, ht⟩) | ⟨ha, -⟩ | ⟨e, e', -, he⟩ |
    ⟨-, he⟩
  · exact Or.inl ⟨_, hp⟩
  · exact Or.inr ⟨false, ha⟩
  · cases ht
  · exact Or.inr ⟨true, ha⟩
  · cases he
  · cases he

/-- A poll whose looks fail with exceptions only fails as a poll, or with a pause that cannot be
timed. -/
theorem Polled.isA_capture_or_overlong {e : Fault τ}
    (hv : Polled seconds answer transient (.error e) is)
    (hexception : ∀ i ∈ is, ∀ e, answer i = some (.error e) → e.isA .exception = true) :
    e.isA .capture = true ∨
      e = .overlongPause ∧ .paused seconds (.error .overlongPause) ∈ is := by
  cases hv with
  | timedOut => exact Or.inl rfl
  | failed hb ha =>
    rw [if_pos (hexception _ (List.mem_append_right _ (List.mem_singleton_self _)) _ ha)]
    exact Or.inl rfl
  | overlong => exact Or.inr ⟨rfl, List.mem_append_right _ (List.mem_singleton_self _)⟩

end Polled

end CaptureControl
