import CaptureControl.Proofs.Halting
import CaptureControl.Proofs.Renewing
import CaptureControl.Rehearsal.World

/-!
# Cancelling and resetting

Once waiting has been cancelled, it stays cancelled until the flag is cleared. Until then no wait
evaluates its condition and no pause lasts: operations still send their statements, up to the wait
that they come to, and tables are kept. When the flag has been cleared, nothing is left of its
having been set.

## Main definitions

* `Station.Use`, `Station.runs` — what may be done with a station, and a sequence of that
* `Station.approach` — what an operation does before it waits
* `Station.worn` — a station whose snapshot wait was used before

## Main results

* `Station.interrupted_of_approach` — under the cancel flag a wait that an operation comes to is
  interrupted at once
* `Station.cancel_then_reset` — what cancelling does until it is reset, and that nothing is left of
  it afterwards
-/

namespace CaptureControl

namespace Program

theorem length_service (p : Program) (action : String) :
    (p.service action).length = (p.service "").length + action.length := by
  simp only [service, String.length_append, String.length_empty]
  omega

theorem service_ne {action action' : String} (p : Program)
    (h : action.length ≠ action'.length) : p.service action ≠ p.service action' := by
  intro heq
  have hlength := congrArg String.length heq
  rw [p.length_service action, p.length_service action'] at hlength
  omega

/-- A statement is not the one that asks for the status. -/
def Unasking (p : Program) (text : String) : Prop :=
  text ≠ p.text .status

theorem unasking_start (p : Program) : p.Unasking (p.text .start) :=
  p.service_ne (by decide)

theorem unasking_stop (p : Program) : p.Unasking (p.text .stop) :=
  p.service_ne (by decide)

end Program

namespace Station

open Act

variable {σ τ : Type} [Time τ] {h : Station τ} {w : World σ τ} {s s' s₁ : Session σ τ}

/-! ### Coming to a wait -/

/-- What an operation does before it waits, and whether it comes to that. -/
def approach (h : Station τ) : Operation → Act σ τ Bool
  | .start => do
    countCommand "start"
    Act.note (.starting h.service.program.server)
    h.service.send .start none
    let _ ← h.service.poll Service.startDescription
    return true
  | .stopAndWait => do
    h.stopCapture
    let _ ← h.service.poll Service.stopDescription
    return true
  | .refresh => do
    countCommand "reinit"
    h.service.refresh
    return true
  | .waitForPropagation => return true
  | .waitForSnapshot => return true
  | .setState schema table state => do
    countCommand (stateCommand state)
    let t ← Registration.tableOf (h.schemaOr schema) table
    Act.note (.marking t state)
    h.registration.setFlag t state
    h.service.refresh
    return true
  | .dropAll schema => do
    let owner ← Act.ofExcept (checkIdentifier "schema" (h.schemaOr schema))
    Act.note (.clearing owner)
    let tables ← h.listTables owner
    let _ ← h.releaseTables owner tables
    return !tables.isEmpty
  | .stop | .status | .enable _ _ | .disable _ _ | .changeTable _ _ => return false

theorem observe_of_ok {kind : WaitKind} {x : Act σ τ (WaitResult τ)} {r : WaitResult τ}
    (hx : x w s = (.ok r, s')) :
    observe kind x w s = (.ok r,
      { s' with tally := s'.tally.recordWait kind.word r.outcome.word (some r.elapsed) }) := by
  rw [observe, bind_apply, tryCatch_apply, hx]
  rfl

/-- A statement is no drop. -/
abbrev Undropping (text : String) : Prop := drops text = false

theorem undropping_text {p : Program} {statement : Statement}
    (hs : ∀ t, statement ≠ .dropTable t) : Undropping (p.text statement) := by
  rw [Undropping, p.drops_text]
  cases statement with
  | dropTable t => exact absurd rfl (hs t)
  | _ => rfl

theorem halts_approach (h : Station τ) (op : Operation) :
    Halts Undropping (fun _ => True) (h.approach op : Act σ τ Bool) := by
  have hC : Composes Undropping fun α => (Halts Undropping (fun _ => True) : Act σ τ α → Prop) :=
    Halts.composes
  have hs (statement : Statement) (hne : ∀ t, statement ≠ .dropTable t) :
      Undropping (h.service.program.text statement) := undropping_text hne
  cases op with
  | start =>
    exact hC.bind (hC.count _) fun _ => hC.bind (hC.note _) fun _ =>
      hC.bind (hC.send _ (hs _ nofun)) fun _ => hC.bind (hC.ofExcept _) fun _ => hC.pure _
  | stopAndWait =>
    exact hC.bind (hC.stopCapture h (hs _ nofun)) fun _ =>
      hC.bind (hC.ofExcept _) fun _ => hC.pure _
  | refresh =>
    exact hC.bind (hC.count _) fun _ => hC.bind (hC.refresh _ (hs _ nofun)) fun _ => hC.pure _
  | setState schema table state =>
    exact hC.bind (hC.count _) fun _ => hC.bind (hC.ofExcept _) fun t =>
      hC.bind (hC.note _) fun _ => hC.bind (hC.send _ (hs .setState nofun)) fun _ =>
        hC.bind (hC.refresh _ (hs _ nofun)) fun _ => hC.pure _
  | dropAll schema =>
    exact hC.bind (hC.ofExcept _) fun owner => hC.bind (hC.note _) fun _ =>
      hC.bind (hC.listTables h hs owner) fun tables =>
        hC.bind (hC.releaseTables h hs owner tables) fun _ => hC.pure _
  | _ => exact hC.pure _

theorem startCapture_of_approach (hc : s₁.cancelled = true)
    (ha : h.approach .start w s = (.ok true, s₁)) :
    ∃ r s', h.startCapture w s = (.ok r, s') ∧ r.Untried ∧ s₁.Rests s' ∧ s'.cancelled = true := by
  obtain ⟨_, s₂, hcount, ha⟩ := bind_eq_ok_iff.mp ha
  obtain ⟨_, s₃, hnote, ha⟩ := bind_eq_ok_iff.mp ha
  obtain ⟨_, s₄, hsend, ha⟩ := bind_eq_ok_iff.mp ha
  obtain ⟨p, s₅, hpoll, ha⟩ := bind_eq_ok_iff.mp ha
  obtain ⟨-, hsame⟩ := Service.poll_eq_ok hpoll
  cases ha
  subst hsame
  obtain ⟨r, s', hstart, hr, hrest, hc'⟩ : ∃ r s', h.service.start w s₂ = (.ok r, s') ∧
      r.Untried ∧ s₁.Rests s' ∧ s'.cancelled = true := by
    rw [Service.start, bind_of_ok hnote, bind_of_ok (rethrow_eq_ok_iff.mpr hsend)]
    refine Interrupts.bind (Q := WaitResult.Untried) (.handle ?_) (fun r hr => ?_) w s₁ hc
    · exact Service.interrupts_waitFor hpoll
    · split
      · exact (Interrupts.note _).bind fun _ _ => .pure hr
      · exact .pure hr
  have hcapture : h.startCapture w s = (.ok r, _) :=
    (bind_of_ok hcount _).trans (observe_of_ok hstart)
  exact ⟨r, _, hcapture, hr, hrest.trans (.aside rfl rfl), hc'⟩

omit [Time τ] in
theorem interrupts_delayed {x : Act σ τ Outcome} (hx : Interrupts (· = .interrupted) x) :
    Interrupts Operation.Result.Interrupted
      (x >>= fun o => pure (Operation.Result.delayed o : Operation.Result τ)) :=
  hx.bind fun _ ho => .pure ho

omit [Time τ] in
theorem interrupts_polled {x : Act σ τ (WaitResult τ)} (hx : Interrupts WaitResult.Untried x) :
    Interrupts Operation.Result.Interrupted (x >>= fun r => pure (.polled r)) :=
  hx.bind fun _ hr => .pure hr

omit [Time τ] in
theorem interrupts_named {x : Act σ τ (List String)} (hx : Interrupts (· = []) x) :
    Interrupts Operation.Result.Interrupted
      (x >>= fun l => pure (Operation.Result.names l : Operation.Result τ)) :=
  hx.bind fun _ hl => .pure hl

/-- **Under the cancel flag a wait that an operation comes to is interrupted at once.** -/
theorem interrupted_of_approach (hp : h.snapshot.Tries) {op : Operation} (hc : s.cancelled = true)
    (ha : h.approach op w s = (.ok true, s₁)) :
    ∃ r s', h.perform op w s = (.ok r, s') ∧ r.Interrupted ∧ s₁.Rests s' ∧ s'.cancelled = true := by
  have hc₁ : s₁.cancelled = true := by
    have hcancelled := (h.halts_approach op w s hc).2.1
    rwa [ha] at hcancelled
  -- It is enough that what is left of the operation interrupts.
  have hrest {x : Act σ τ (Operation.Result τ)} (hx : Interrupts Operation.Result.Interrupted x)
      (heq : h.perform op w s = x w s₁) : ∃ r s', h.perform op w s = (.ok r, s') ∧
        r.Interrupted ∧ s₁.Rests s' ∧ s'.cancelled = true :=
    heq ▸ hx w s₁ hc₁
  cases op with
  | start =>
    obtain ⟨r, s', hrun, hr, hrests⟩ := startCapture_of_approach hc₁ ha
    exact ⟨.polled r, s', by rw [perform, bind_of_ok hrun]; rfl, hr, hrests⟩
  | stopAndWait =>
    obtain ⟨_, s₂, hstop, hpoll⟩ := bind_eq_ok_iff.mp ha
    obtain ⟨p, s₃, hpoll, hend⟩ := bind_eq_ok_iff.mp hpoll
    obtain ⟨-, hsame⟩ := Service.poll_eq_ok hpoll
    cases hend
    subst hsame
    have hwait : Interrupts WaitResult.Untried (observe .serviceStop h.service.waitUntilStopped) :=
      interrupts_observe (Service.interrupts_waitFor hpoll)
    refine hrest (interrupts_polled hwait) ?_
    rw [perform, stopCaptureAndWait, bind_assoc, bind_of_ok hstop]
  | refresh =>
    obtain ⟨_, s₂, hcount, hrefresh⟩ := bind_eq_ok_iff.mp ha
    obtain ⟨_, s₃, hrefresh, hend⟩ := bind_eq_ok_iff.mp hrefresh
    cases hend
    refine hrest (interrupts_delayed h.interrupts_waitForPropagation) ?_
    rw [perform, refreshAndWait, bind_assoc, bind_of_ok hcount, bind_assoc, bind_of_ok hrefresh]
  | waitForPropagation =>
    cases ha
    exact hrest (interrupts_delayed h.interrupts_waitForPropagation) rfl
  | waitForSnapshot =>
    cases ha
    exact hrest (interrupts_polled (interrupts_waitForSnapshot hp)) rfl
  | setState schema table state =>
    obtain ⟨_, s₂, hcount, ha⟩ := bind_eq_ok_iff.mp ha
    obtain ⟨t, s₃, htable, ha⟩ := bind_eq_ok_iff.mp ha
    obtain ⟨_, s₄, hnote, ha⟩ := bind_eq_ok_iff.mp ha
    obtain ⟨_, s₅, hflag, ha⟩ := bind_eq_ok_iff.mp ha
    obtain ⟨_, s₆, hrefresh, hend⟩ := bind_eq_ok_iff.mp ha
    cases hend
    -- What is left is the same as a wait for propagation.
    refine hrest (interrupts_delayed h.interrupts_waitForPropagation) ?_
    rw [perform, setTableState, bind_assoc, bind_of_ok hcount, Registration.setState, bind_assoc,
      bind_assoc, bind_of_ok htable, bind_assoc, bind_of_ok hnote, bind_assoc, bind_of_ok hflag,
      bind_assoc, bind_of_ok (x := h.registration.service.refresh) hrefresh, waitForPropagation,
      bind_assoc]
    rfl
  | dropAll schema =>
    obtain ⟨owner, s₂, howner, ha⟩ := bind_eq_ok_iff.mp ha
    obtain ⟨_, s₃, hnote, ha⟩ := bind_eq_ok_iff.mp ha
    obtain ⟨tables, s₄, hlist, ha⟩ := bind_eq_ok_iff.mp ha
    obtain ⟨released, s₅, hrelease, hend⟩ := bind_eq_ok_iff.mp ha
    obtain ⟨hsome, rfl⟩ := Prod.mk.inj hend
    have htables : tables.isEmpty = false := by simpa using hsome
    refine hrest (interrupts_named (h.interrupts_dropReleased owner tables released)) ?_
    rw [perform, dropAllTables, bind_assoc, bind_of_ok howner, bind_assoc, bind_of_ok hnote,
      bind_assoc, bind_of_ok hlist, htables, if_neg Bool.false_ne_true, bind_assoc,
      bind_of_ok hrelease]
  | stop | status | enable | disable | changeTable => cases ha

/-! ### Sequences of uses -/

/-- What may be done with a station. -/
inductive Use where
  /-- An operation is performed. -/
  | operation (op : Operation)
  /-- Waiting is cancelled. -/
  | cancel
  /-- The cancel flag is cleared. -/
  | reset
  /-- What has to be closed is closed. -/
  | close

/-- Does something with a station. Only operations answer. -/
def use (h : Station τ) : Use → Act σ τ (Option (Operation.Result τ))
  | .operation op => do return some (← h.perform op)
  | .cancel => do
    Act.cancel
    return none
  | .reset => do
    Act.reset
    return none
  | .close => do
    h.close
    return none

/-- Does one thing after another with a station, whether they fail or not. -/
def runs (h : Station τ) (uses : List Use) :
    Act σ τ (List (Except (Fault τ) (Option (Operation.Result τ)))) :=
  uses.mapM fun u => (h.use u).attempt

/-! ### Under the cancel flag -/

/-- One step: nothing but clearing the flag ends what it does. -/
theorem halts_use (hp : h.snapshot.Tries) {u : Use} (hu : u ≠ .reset) :
    Halts Undropping (fun _ => True) (h.use u : Act σ τ _) := by
  cases u with
  | operation op =>
    exact (halts_perform (fun _ => undropping_text) hp op).bind fun _ _ => .pure trivial
  | cancel =>
    have hcancel : Halts Undropping (fun _ => True) (Act.cancel : Act σ τ Unit) :=
      fun _ _ _ => ⟨.single (.aside rfl rfl), rfl, fun _ _ => trivial⟩
    exact hcancel.bind fun _ _ => .pure trivial
  | reset => exact absurd rfl hu
  | close =>
    have hclose : Halts Undropping (fun _ => True) (h.close : Act σ τ Unit) := by
      unfold close Monitor.close
      split
      · exact .ask trivial
      · exact .pure trivial
      · exact .pure trivial
      · exact .modify (fun _ => rfl) (fun _ => rfl) fun _ => rfl
    exact hclose.bind fun _ _ => .pure trivial

/-- All steps until the flag is cleared. -/
theorem halts_runs (hp : h.snapshot.Tries) : ∀ {uses : List Use}, .reset ∉ uses →
    Halts Undropping (fun _ => True) (h.runs uses : Act σ τ _) := by
  intro uses
  induction uses with
  | nil => exact fun _ => .pure trivial
  | cons u uses ih =>
    intro hu
    rw [List.mem_cons, not_or] at hu
    rw [runs, List.mapM_cons]
    exact (halts_use hp (Ne.symm hu.1)).attempt.bind fun _ _ =>
      (ih hu.2).bind fun _ _ => .pure trivial

/-! ### After the flag was cleared -/

/-- A station whose snapshot wait was used before. -/
def worn (h : Station τ) (attempts : Nat) (startedAt : τ) : Station τ :=
  { h with snapshot.allowance.attempts := attempts, snapshot.allowance.startedAt := startedAt }

/-- Every wait starts its allowance anew. -/
theorem perform_worn (attempts : Nat) (startedAt : τ) (op : Operation) :
    ((h.worn attempts startedAt).perform op : Act σ τ _) = h.perform op := by
  cases op with
  | waitForSnapshot =>
    have hsnapshot : ((h.worn attempts startedAt).waitForSnapshot : Act σ τ _) =
        h.waitForSnapshot :=
      congrArg (observe .snapshot) (h.snapshot.wait_aged startedAt attempts _ _)
    rw [perform, hsnapshot]
    rfl
  | _ => rfl

theorem blind_use (h : Station τ) (u : Use) : Blind (h.use u : Act σ τ _) := by
  cases u with
  | operation op => exact (h.blind_perform op).bind fun _ => .pure _
  | cancel =>
    have hcancel : Blind (Act.cancel : Act σ τ Unit) := .modify fun _ _ h =>
      .of_agrees ⟨h.1, h.2, rfl, h.4, h.5, h.6⟩ rfl rfl rfl rfl rfl rfl
    exact hcancel.bind fun _ => .pure _
  | reset =>
    have hreset : Blind (Act.reset : Act σ τ Unit) := .modify fun _ _ h =>
      .of_agrees ⟨h.1, h.2, rfl, h.4, h.5, h.6⟩ rfl rfl rfl rfl rfl rfl
    exact hreset.bind fun _ => .pure _
  | close => exact h.monitor.blind_close.bind fun _ => .pure _

theorem blind_runs (h : Station τ) (uses : List Use) : Blind (h.runs uses : Act σ τ _) :=
  (Blind.composes fun _ => True).mapM (fun u => (h.blind_use u).attempt) uses

/-- A session in which nothing has happened yet, in the same world at the same time, with the same
connection held and the same source of metrics. -/
def renewed (s : Session σ τ) (scope : String) : Session σ τ :=
  { Session.start s.world s.clock scope with
    held := s.held, opened := s.opened, metricsClosed := s.metricsClosed }

/-- What is done after the flag was cleared is done as if it had never been set, and by a station
that was never used. -/
theorem twins_reset (h : Station τ) (w : World σ τ) (s : Session σ τ) (uses : List Use)
    (scope : String) (attempts : Nat) (startedAt : τ) :
    ((h.worn attempts startedAt).runs uses w (Act.reset w s).2).1 =
        (h.runs uses w (renewed s scope)).1 ∧
      Session.Twins (Act.reset w s).2 (renewed s scope)
        ((h.worn attempts startedAt).runs uses w (Act.reset w s).2).2
        (h.runs uses w (renewed s scope)).2 := by
  have huse (u : Use) : ((h.worn attempts startedAt).use u : Act σ τ _) = h.use u := by
    cases u with
    | operation op => rw [use, perform_worn]; rfl
    | _ => rfl
  have hruns : ((h.worn attempts startedAt).runs uses : Act σ τ _) = h.runs uses := by
    simp only [runs, huse]
  rw [hruns]
  exact h.blind_runs uses w _ _ ⟨rfl, rfl, rfl, rfl, rfl, rfl⟩

/-! ### The whole -/

/-- What an operation does under the cancel flag. -/
structure Silenced (h : Station τ) (w : World σ τ) (s : Session σ τ) (op : Operation) : Prop where
  /-- Its answer, if it has one, is that it was interrupted, if it waits at all. -/
  interrupted : ∀ r, (h.perform op w s).1 = .ok r → r.Interrupted
  /-- If it comes to a wait, it does answer, without any time having passed since. -/
  reached : ∀ s₁, h.approach op w s = (.ok true, s₁) →
    ∃ r s', h.perform op w s = (.ok r, s') ∧ r.Interrupted ∧ s₁.Rests s'
  /-- It drops nothing, looks up no metrics, evaluates no condition and completes no pause, and time
  passes only while requests are answered. -/
  idles : s.Idles Undropping (h.perform op w s).2
  /-- In starting or stopping the program its status is not asked for. -/
  unasked : op = .start ∨ op = .stopAndWait →
    s.Idles h.service.program.Unasking (h.perform op w s).2

theorem silenced (hp : h.snapshot.Tries) (hc : s.cancelled = true) (op : Operation) :
    h.Silenced w s op where
  interrupted := (halts_perform (fun _ => undropping_text) hp op w s hc).2.2
  reached s₁ ha := by
    obtain ⟨r, s', hrun, hr, hrest, -⟩ := interrupted_of_approach hp hc ha
    exact ⟨r, s', hrun, hr, hrest⟩
  idles := (halts_perform (fun _ => undropping_text) hp op w s hc).1
  unasked := by
    have hstart := halts_startCapture (σ := σ) h.service.program.unasking_start
    have hstop := halts_stopCaptureAndWait (σ := σ) h.service.program.unasking_stop
    have hpolled {x : Act σ τ (WaitResult τ)}
        (hx : Halts h.service.program.Unasking WaitResult.Untried x) :
        Halts h.service.program.Unasking (fun _ => True)
          (x >>= fun r => pure (Operation.Result.polled r)) :=
      hx.bind fun _ _ => .pure trivial
    rintro (rfl | rfl)
    · exact (hpolled hstart w s hc).1
    · exact (hpolled hstop w s hc).1

/-- The snapshot wait of a station that was made from settings goes round at least once. -/
theorem tries_of_make? {settings : Settings τ} {gateway : Gateway} {monitor : Option Monitor}
    (hm : make? settings gateway monitor = .ok h) : h.snapshot.Tries := by
  have hmade := made_of_make? hm
  obtain ⟨n, hn⟩ := hmade.attempts
  rw [Poll.Tries, hn]
  exact hmade.snapshot.attempts n hn

/-- **Cancelling holds until it is reset, and leaves nothing behind.** From the moment at which
waiting is cancelled, whatever is done with a station without clearing the flag, the flag stays set,
nothing is waited for or dropped, and every operation that comes to a wait is interrupted there at
once. Once the flag is cleared, whatever is done has the same results, and adds the same to the
record, the log and the output, as with a station that was never used, in a session in which nothing
happened; only counters differ. -/
theorem cancel_then_reset (hp : h.snapshot.Tries) (w : World σ τ) (s : Session σ τ)
    {uses : List Use} (hu : .reset ∉ uses) (afterwards : List Use) (scope : String)
    (attempts : Nat) (startedAt : τ) :
    let cancelled := (Act.cancel w s).2
    let later := (h.runs uses w cancelled).2
    let reset := (Act.reset w later).2
    (later.cancelled = true ∧ cancelled.Idles Undropping later ∧ ∀ op, h.Silenced w later op) ∧
      ((h.worn attempts startedAt).runs afterwards w reset).1 =
        (h.runs afterwards w (renewed later scope)).1 ∧
      Session.Twins reset (renewed later scope)
        ((h.worn attempts startedAt).runs afterwards w reset).2
        (h.runs afterwards w (renewed later scope)).2 := by
  intro cancelled later reset
  obtain ⟨hidles, hc, -⟩ := halts_runs (h := h) hp hu w cancelled rfl
  exact ⟨⟨hc, hidles, silenced hp hc⟩, h.twins_reset w later afterwards scope attempts startedAt⟩

/-- A station that looks for its snapshot by a probe. -/
def probing : Station Rat where
  service := ⟨⟨.supplied⟩, ⟨"SCHEMA", "SERVER"⟩, ["is running"], 0, 2⟩
  propagation := ⟨0⟩
  snapshot := ⟨0, ⟨some 1, none, 0, 0⟩, [.absent], "", 0⟩
  monitor := .probe false
  defaultSchema := "SCHEMA"
  snapshotObject := ""
  snapshotAttribute := ""

/-- After waiting was cancelled and then a start was tried, a wait for the snapshot is
interrupted. -/
theorem cancel_then_reset_probing :
    probing.snapshot.Tries ∧ Use.reset ∉ [Use.operation .start] ∧
      ∃ r, (probing.perform .waitForSnapshot Rehearsal.world
        (probing.runs [.operation .start] Rehearsal.world
          (Act.cancel Rehearsal.world (.start .empty 0 "")).2).2).1 = .ok r ∧ r.Interrupted := by
  have hp : probing.snapshot.Tries := Nat.one_pos
  have hu : Use.reset ∉ [Use.operation .start] := by simp
  have hall := cancel_then_reset hp Rehearsal.world (.start .empty 0 "") hu [] "" 0 0
  obtain ⟨r, s', hrun, hr, -⟩ := (hall.1.2.2 .waitForSnapshot).reached _ rfl
  exact ⟨hp, hu, r, congrArg Prod.fst hrun, hr⟩

end Station

end CaptureControl
