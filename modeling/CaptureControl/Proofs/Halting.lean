import CaptureControl.Proofs.Composition
import CaptureControl.Proofs.Making
import Mathlib.Logic.Relation

/-!
# Waiting under the cancel flag

While the cancel flag is set no wait evaluates its condition and no pause lasts. Operations still
send their statements, up to the wait that they come to, and what they answer tells that the wait
was interrupted.

## Implementation notes

Two things are said of an action. What it does until it ends, even with a fault, is told by `Halts`;
this is what composition keeps. That it does end with an answer, and at once, is told by
`Interrupts`, which only waits and what follows them satisfy.

## Main definitions

* `Session.Idles` — requests were made between two sessions, but nothing was waited for
* `Session.Rests` — no time passed between two sessions, and no request was made
* `Act.Halts allowed Q` — under the cancel flag an action only idles, and answers something of which
  `Q` holds
* `Act.Interrupts Q` — under the cancel flag an action answers something of which `Q` holds, at once

## Main results

* `Poll.interrupts_wait`, `Act.Interrupts.delay` — waits are interrupted at once
* `Station.halts_perform` — no operation waits, and its answer tells so
-/

namespace CaptureControl

/-! ### Idling -/

/-- A request that looks up no metrics, and runs an allowed statement if it runs one. -/
def Request.Idle (allowed : String → Prop) : Request → Prop
  | lookup _ _ | page _ => False
  | execute _ statement _ => allowed statement
  | _ => True

/-- A request that looks up no metrics and runs no other than an allowed statement, or a pause that
was cut short. -/
def Event.Idle {τ : Type} (allowed : String → Prop) : Event τ → Prop
  | asked r _ => r.Idle allowed
  | evaluating _ => False
  | paused _ completed => completed = false

namespace Session

variable {σ τ : Type} {allowed : String → Prop} {s s' s'' : Session σ τ}

/-- A step of a session in which nothing is waited for. -/
inductive Idling (allowed : String → Prop) : Session σ τ → Session σ τ → Prop where
  /-- Something is done that is not recorded, and takes no time. -/
  | aside {s s' : Session σ τ} : s'.clock = s.clock → s'.trace = s.trace → Idling allowed s s'
  /-- A request is made. It may take its time. -/
  | asked {s : Session σ τ} {r : Request} (m : Moment σ τ) (delivered : Bool) :
      r.Idle allowed → Idling allowed s ((s.after m).record (.asked r delivered))
  /-- A pause is cut short before it takes any time. -/
  | paused {s s' : Session σ τ} (seconds : τ) : s'.clock = s.clock →
      s'.trace = .paused seconds false :: s.trace → Idling allowed s s'

/-- Nothing was waited for between two sessions, and no other than allowed statements were run. -/
def Idles (allowed : String → Prop) : Session σ τ → Session σ τ → Prop :=
  Relation.ReflTransGen (Idling allowed)

theorem Idling.adds (h : s.Idling allowed s') : s.Adds (Event.Idle allowed) s' := by
  cases h with
  | aside _ ht => exact .of_trace_eq ht
  | @asked r m delivered hr =>
    have hidle : (Event.asked r delivered : Event τ).Idle allowed := hr
    exact .single hidle rfl
  | paused seconds _ ht =>
    have hidle : (Event.paused seconds false).Idle allowed := rfl
    exact .single hidle ht

/-- Whatever was recorded idly was a request that looks up no metrics and runs no other than an
allowed statement, or a pause that was cut short. -/
theorem Idles.adds (h : s.Idles allowed s') : s.Adds (Event.Idle allowed) s' := by
  induction h with
  | refl => exact .of_trace_eq rfl
  | tail _ hstep ih => exact ih.trans hstep.adds

theorem Idling.mono {allowed' : String → Prop} (h : s.Idling allowed s')
    (hs : ∀ text, allowed text → allowed' text) : s.Idling allowed' s' := by
  cases h with
  | aside hc ht => exact .aside hc ht
  | @asked r m delivered hr =>
    refine .asked m delivered ?_
    cases r with
    | execute c text params => exact hs text hr
    | _ => exact hr
  | paused seconds hc ht => exact .paused seconds hc ht

theorem Idles.mono {allowed' : String → Prop} (h : s.Idles allowed s')
    (hs : ∀ text, allowed text → allowed' text) : s.Idles allowed' s' := by
  induction h with
  | refl => exact .refl
  | tail _ hstep ih => exact ih.tail (hstep.mono hs)

/-- An event is a pause that was cut short. -/
def CutShort (e : Event τ) : Prop :=
  ∃ seconds, e = .paused seconds false

/-- No time passed between two sessions, and whatever was recorded is pauses that were cut short. -/
structure Rests (s s' : Session σ τ) : Prop where
  /-- Nothing was waited for, and nothing was run. -/
  idles : s.Idles (fun _ => False) s'
  /-- The clock reading is the same. -/
  clock : s'.clock = s.clock
  /-- Nothing but pauses that were cut short was recorded. -/
  adds : s.Adds CutShort s'

namespace Rests

theorem refl (s : Session σ τ) : s.Rests s := ⟨.refl, rfl, .of_trace_eq rfl⟩

theorem trans (h : s.Rests s') (h' : s'.Rests s'') : s.Rests s'' :=
  ⟨h.idles.trans h'.idles, h'.clock.trans h.clock, h.adds.trans h'.adds⟩

theorem aside (hc : s'.clock = s.clock) (ht : s'.trace = s.trace) : s.Rests s' :=
  ⟨.single (.aside hc ht), hc, .of_trace_eq ht⟩

theorem paused (seconds : τ) (hc : s'.clock = s.clock)
    (ht : s'.trace = .paused seconds false :: s.trace) : s.Rests s' :=
  ⟨.single (.paused seconds hc ht), hc, .single ⟨seconds, rfl⟩ ht⟩

end Rests

end Session

namespace Act

variable {σ τ α β : Type}

/-- Under the cancel flag an action only idles and leaves the flag set, and what it answers has a
property. -/
def Halts (allowed : String → Prop) (Q : α → Prop) (x : Act σ τ α) : Prop :=
  ∀ w s, s.cancelled = true →
    s.Idles allowed (x w s).2 ∧ (x w s).2.cancelled = true ∧ ∀ a, (x w s).1 = .ok a → Q a

namespace Halts

variable {allowed : String → Prop} {Q : α → Prop} {Q' : β → Prop} {x : Act σ τ α}
  {f : α → Act σ τ β}

theorem ofExcept {r : Except (Fault τ) α} (hr : ∀ a, r = .ok a → Q a) :
    Halts allowed Q (ofExcept r : Act σ τ α) :=
  fun _ _ hc => ⟨.refl, hc, hr⟩

theorem pure {a : α} (ha : Q a) : Halts allowed Q (Pure.pure a : Act σ τ α) :=
  ofExcept (r := .ok a) (by rintro _ ⟨⟩; exact ha)

theorem throw (e : Fault τ) : Halts allowed Q (MonadExcept.throw e : Act σ τ α) :=
  ofExcept (r := .error e) nofun

theorem bind (hx : Halts allowed Q x) (hf : ∀ a, Q a → Halts allowed Q' (f a)) :
    Halts allowed Q' (x >>= f) := by
  intro w s hc
  obtain ⟨hi, hc', ha⟩ := hx w s hc
  rw [bind_apply]
  generalize x w s = p at hi hc' ha
  rcases p with ⟨e | a, s'⟩
  · exact ⟨hi, hc', nofun⟩
  · obtain ⟨hi', hc'', hb⟩ := hf a (ha a rfl) w s' hc'
    exact ⟨hi.trans hi', hc'', hb⟩

theorem handle {h : Fault τ → Act σ τ α} (hx : Halts allowed Q x)
    (hh : ∀ e, Halts allowed Q (h e)) : Halts allowed Q (tryCatch x h) := by
  intro w s hc
  obtain ⟨hi, hc', ha⟩ := hx w s hc
  rw [tryCatch_apply]
  generalize x w s = p at hi hc' ha
  rcases p with ⟨e | a, s'⟩
  · obtain ⟨hi', hc'', hb⟩ := hh e w s' hc'
    exact ⟨hi.trans hi', hc'', hb⟩
  · exact ⟨hi, hc', ha⟩

theorem ensuring {last : Act σ τ Unit} {R : Unit → Prop} (hx : Halts allowed Q x)
    (hl : Halts allowed R last) : Halts allowed Q (x.ensuring last) := by
  intro w s hc
  obtain ⟨hi, hc', ha⟩ := hx w s hc
  obtain ⟨hi', hc'', -⟩ := hl w _ hc'
  rw [ensuring_apply]
  generalize last w (x w s).2 = p at hi' hc''
  rcases p with ⟨e | u, s'⟩
  · exact ⟨hi.trans hi', hc'', nofun⟩
  · exact ⟨hi.trans hi', hc'', ha⟩

theorem attempt (hx : Halts allowed Q x) : Halts allowed (fun _ => True) x.attempt := by
  intro w s hc
  obtain ⟨hi, hc', -⟩ := hx w s hc
  exact ⟨hi, hc', fun _ _ => trivial⟩

theorem modify {f : Session σ τ → Session σ τ} (hclock : ∀ s, (f s).clock = s.clock)
    (htrace : ∀ s, (f s).trace = s.trace) (hcancelled : ∀ s, (f s).cancelled = s.cancelled) :
    Halts allowed (fun _ => True) (modify f) :=
  fun _ s hc => ⟨.single (.aside (hclock s) (htrace s)), (hcancelled s).trans hc,
    fun _ _ => trivial⟩

theorem note (e : LogEntry τ) : Halts allowed (fun _ => True) (note e : Act σ τ Unit) :=
  modify (fun _ => rfl) (fun _ => rfl) fun _ => rfl

theorem count (f : Tally τ → Tally τ) : Halts allowed (fun _ => True) (count f : Act σ τ Unit) :=
  modify (fun _ => rfl) (fun _ => rfl) fun _ => rfl

theorem ask {r : Request} (hr : r.Idle allowed) :
    Halts allowed (fun _ => True) (ask r : Act σ τ r.Answer) := by
  intro w s hc
  rcases ask_cases r w s with ⟨a, m, h⟩ | ⟨e, m, h⟩
  all_goals
    rw [h]
    refine ⟨.single (.asked m _ hr), ?_, fun _ _ => trivial⟩
    simp [Session.record, Session.after, hc]

/-- Requests to the database that run allowed statements are idle. -/
theorem composes : Composes allowed
    fun α => (Halts allowed (fun _ => True) : Act σ τ α → Prop) where
  ofExcept _ := ofExcept fun _ _ => trivial
  bind hx hf := hx.bind fun a _ => hf a
  handle := handle
  ensuring := ensuring
  note := note
  count := count
  held _ hx w s hc := hx s w s hc
  number _ _ hc := ⟨.single (.aside rfl rfl), hc, fun _ _ => trivial⟩
  ask r hg hs := by
    refine ask ?_
    cases r with
    | execute c text params => exact hs text rfl
    | lookup | page | closeMetrics => cases hg
    | _ => trivial

end Halts

/-! ### Waits -/

/-- Under the cancel flag an action answers something that has a property, at once: whatever pauses
it makes are cut short. -/
def Interrupts (Q : α → Prop) (x : Act σ τ α) : Prop :=
  ∀ w s, s.cancelled = true →
    ∃ a s', x w s = (.ok a, s') ∧ Q a ∧ s.Rests s' ∧ s'.cancelled = true

namespace Interrupts

variable {Q : α → Prop} {Q' : β → Prop} {x : Act σ τ α} {f : α → Act σ τ β}

theorem halts (hx : Interrupts Q x) (allowed : String → Prop) : Halts allowed Q x := by
  intro w s hc
  obtain ⟨a, s', h, ha, hr, hc'⟩ := hx w s hc
  rw [h]
  refine ⟨hr.idles.mono nofun, hc', ?_⟩
  rintro _ ⟨⟩
  exact ha

theorem pure {a : α} (ha : Q a) : Interrupts Q (Pure.pure a : Act σ τ α) :=
  fun _ s hc => ⟨a, s, rfl, ha, .refl s, hc⟩

theorem bind (hx : Interrupts Q x) (hf : ∀ a, Q a → Interrupts Q' (f a)) :
    Interrupts Q' (x >>= f) := by
  intro w s hc
  obtain ⟨a, s₁, h, ha, hr, hc₁⟩ := hx w s hc
  obtain ⟨b, s₂, h', hb, hr', hc₂⟩ := hf a ha w s₁ hc₁
  exact ⟨b, s₂, by rw [bind_of_ok h, h'], hb, hr.trans hr', hc₂⟩

theorem handle {h : Fault τ → Act σ τ α} (hx : Interrupts Q x) :
    Interrupts Q (tryCatch x h) := by
  intro w s hc
  obtain ⟨a, s', hs, hrest⟩ := hx w s hc
  exact ⟨a, s', by rw [tryCatch_apply, hs], hrest⟩

theorem note (e : LogEntry τ) : Interrupts (fun _ => True) (note e : Act σ τ Unit) :=
  fun _ s hc => ⟨(), s.noted [e], rfl, trivial, .aside rfl rfl, hc⟩

theorem count (f : Tally τ → Tally τ) : Interrupts (fun _ => True) (count f : Act σ τ Unit) :=
  fun _ _ hc => ⟨(), _, rfl, trivial, .aside rfl rfl, hc⟩

variable [Time τ]

/-- Under the cancel flag no pause lasts, of whatever length it is. -/
theorem pause (seconds : τ) : Interrupts (· = false) (pause seconds : Act σ τ Bool) := by
  intro w s hc
  unfold Act.pause
  split
  · exact ⟨false, _, rfl, rfl, .paused seconds rfl rfl, hc⟩
  · have hg : (s.glance w).cancelled = true := by simp [Session.glance, hc]
    dsimp only
    rw [hg]
    exact ⟨false, _, rfl, rfl, .paused seconds rfl rfl, hg⟩

theorem delay (d : Delay τ) : Interrupts (· = .interrupted) (d.wait : Act σ τ Outcome) := by
  refine bind (note _) fun _ _ => bind (pause _) ?_
  rintro _ rfl
  exact bind (note _) fun _ _ => pure rfl

end Interrupts

end Act

/-- A poll was interrupted before it evaluated its condition. -/
def WaitResult.Untried {τ : Type} (r : WaitResult τ) : Prop :=
  r.outcome = .interrupted ∧ r.attempts = 0

section Waits

open Act

variable {σ τ : Type} [Time τ]

/-- A poll goes round at least once, unless it is interrupted. -/
def Poll.Tries (p : Poll τ) : Prop :=
  0 < p.allowance.maxAttempts.getD p.horizon

/-- Under the cancel flag a poll is interrupted before it evaluates its condition. -/
theorem Poll.interrupts_wait {p : Poll τ} (hp : p.Tries) (c : Act σ τ Bool) (d : Option String) :
    Interrupts WaitResult.Untried (p.wait c d) := by
  intro w s hc
  have hg : (s.glance w).cancelled = true := by simp [Session.glance, hc]
  obtain ⟨n, hn⟩ := Nat.exists_eq_succ_of_ne_zero (Nat.pos_iff_ne_zero.mp hp)
  have hr : p.rounds (p.label d) s.clock c (p.allowance.maxAttempts.getD p.horizon)
      (p.spent s.clock 0) w s =
      (.ok (.ok ⟨.interrupted, 0, lasted s.clock s.clock⟩, p.spent s.clock 0),
        (s.glance w).noted [.interrupted (p.label d)]) := by
    rw [hn]
    exact rounds_of_cancelled hg
  exact ⟨_, _, wait_eq_of_rounds_eq hr, ⟨rfl, rfl⟩, .aside rfl rfl, hg⟩

namespace Service

variable {svc : Service τ} {description : String} {goal : Status}

/-- A poll for a state of the program that can be made at all goes round at least once. -/
theorem poll_eq_ok {p : Poll τ} {w : World σ τ} {s s' : Session σ τ}
    (hp : svc.poll description w s = (.ok p, s')) : p.Tries ∧ s' = s := by
  obtain ⟨hmake, rfl⟩ := Prod.mk.inj hp
  generalize hr : (do
    let allowance ← Allowance.make? (some (svc.maxAttempts : Int)) none
    Poll.make? svc.interval allowance [] description) = r at hmake
  rcases r with what | q <;> cases hmake
  obtain ⟨a, ha, hq⟩ := Station.bind_eq_ok hr
  have hattempts := (Poll.accepted_of_make? ha hq).attempts
  obtain rfl := Station.eq_of_poll_make? hq
  obtain rfl := Station.eq_of_allowance_make? ha
  exact ⟨hattempts _ rfl, rfl⟩

/-- Under the cancel flag a wait for a state of the program does not look at it. -/
theorem halts_waitFor (allowed : String → Prop) (svc : Service τ) (description : String)
    (goal : Status) :
    Halts allowed WaitResult.Untried (svc.waitFor description goal : Act σ τ _) := by
  have hpoll : Halts allowed Poll.Tries (svc.poll description : Act σ τ _) := by
    intro w s hc
    refine ⟨.refl, hc, fun p hp => ?_⟩
    exact (poll_eq_ok (w := w) (s := s) (Prod.ext hp rfl)).1
  exact hpoll.bind fun p hp => (Poll.interrupts_wait hp _ _).halts _

/-- Once it has a poll, a wait for a state of the program is interrupted under the cancel flag. -/
theorem interrupts_waitFor {p : Poll τ} {w : World σ τ} {s s' : Session σ τ}
    (hp : svc.poll description w s = (.ok p, s')) :
    Interrupts WaitResult.Untried (svc.waitFor description goal : Act σ τ _) := by
  intro w' t hc
  have hp' : svc.poll description w' t = (.ok p, t) := Prod.ext (congrArg Prod.fst hp : _) rfl
  rw [waitFor, bind_of_ok hp']
  exact Poll.interrupts_wait (poll_eq_ok hp).1 _ _ w' t hc

end Service

end Waits

/-! ### Operations -/

/-- An answer of an operation that was interrupted, if it waits at all: no condition was evaluated,
and no table was dropped. -/
def Operation.Result.Interrupted {τ : Type} : Operation.Result τ → Prop
  | .polled r => r.Untried
  | .delayed outcome => outcome = .interrupted
  | .names l => l = []
  | _ => True

namespace Station

open Act

variable {σ τ : Type} [Time τ] {allowed : String → Prop} {h : Station τ}

theorem halts_observe {Q : WaitResult τ → Prop} {kind : WaitKind} {x : Act σ τ (WaitResult τ)}
    (hx : Halts allowed Q x) : Halts allowed Q (observe kind x) := by
  refine (hx.handle fun e => ?_).bind fun r hr => (Halts.count _).bind fun _ _ => .pure hr
  split
  · exact (Halts.count _).bind fun _ _ => .throw e
  · split
    · exact (Halts.count _).bind fun _ _ => .throw e
    · exact .throw e

/-- Under the cancel flag a start runs the start statement, and nothing else. -/
theorem halts_startCapture (hs : allowed (h.service.program.text .start)) :
    Halts allowed WaitResult.Untried (h.startCapture : Act σ τ _) := by
  have hsend : Halts allowed (fun _ => True) (h.service.send .start none : Act σ τ Unit) :=
    Halts.composes.send _ hs
  refine (Halts.count _).bind fun _ _ => halts_observe ?_
  refine (Halts.note _).bind fun _ _ => (hsend.handle fun e => .throw _).bind fun _ _ =>
    ((Service.halts_waitFor _ _ _ _).handle fun e => ?_).bind fun r hr => ?_
  · split
    · split
      · exact .throw _
      · exact .throw _
    · exact .throw _
  · split
    · exact (Halts.note _).bind fun _ _ => .pure hr
    · exact .pure hr

/-- Under the cancel flag a stop that waits runs the stop statement, and nothing else. -/
theorem halts_stopCaptureAndWait (hs : allowed (h.service.program.text .stop)) :
    Halts allowed WaitResult.Untried (h.stopCaptureAndWait : Act σ τ _) :=
  (Halts.composes.stopCapture h hs).bind fun _ _ => halts_observe (Service.halts_waitFor _ _ _ _)

theorem interrupts_observe {Q : WaitResult τ → Prop} {kind : WaitKind} {x : Act σ τ (WaitResult τ)}
    (hx : Interrupts Q x) : Interrupts Q (observe kind x) :=
  hx.handle.bind fun _ hr => (Interrupts.count _).bind fun _ _ => .pure hr

theorem interrupts_waitForPropagation (h : Station τ) :
    Interrupts (· = .interrupted) (h.waitForPropagation : Act σ τ _) :=
  (Interrupts.delay _).bind fun _ ho => (Interrupts.count _).bind fun _ _ => .pure ho

theorem interrupts_waitForSnapshot (hp : h.snapshot.Tries) :
    Interrupts WaitResult.Untried (h.waitForSnapshot : Act σ τ _) :=
  interrupts_observe (Poll.interrupts_wait hp _ _)

/-- Under the cancel flag tables that were released are kept. -/
theorem interrupts_dropReleased (h : Station τ) (owner : String) (tables : List String)
    (released : List SourceTable) :
    Interrupts (· = []) (h.dropReleased owner tables released : Act σ τ _) := by
  refine h.interrupts_waitForPropagation.bind ?_
  rintro _ rfl
  exact (Interrupts.note _).bind fun _ _ => .pure rfl

section Statements

variable (hs : ∀ statement : Statement, (∀ t, statement ≠ .dropTable t) →
  allowed (h.service.program.text statement))

include hs

theorem halts_refreshAndWait : Halts allowed (· = .interrupted) (h.refreshAndWait : Act σ τ _) :=
  (Halts.count _).bind fun _ _ => (Halts.composes.refresh h.service (hs _ nofun)).bind fun _ _ =>
    h.interrupts_waitForPropagation.halts _

theorem halts_setTableState (schema table : Value) (state : Activation) :
    Halts allowed (· = .interrupted) (h.setTableState schema table state : Act σ τ _) := by
  have hflag (t : SourceTable) :
      Halts allowed (fun _ => True) (h.registration.setFlag t state : Act σ τ Unit) :=
    Halts.composes.send h.service (hs .setState nofun)
  have htable : Halts allowed (fun _ => True)
      (Registration.tableOf (h.schemaOr schema) table : Act σ τ _) :=
    .ofExcept fun _ _ => trivial
  refine (Halts.count _).bind fun _ _ => Halts.bind ?_ fun _ ho => (Halts.count _).bind fun _ _ =>
    .pure ho
  exact htable.bind fun t _ => (Halts.note _).bind fun _ _ => (hflag t).bind fun _ _ =>
    (Halts.composes.refresh h.service (hs _ nofun)).bind fun _ _ => (Interrupts.delay _).halts _

theorem halts_dropAllTables (schema : Value) :
    Halts allowed (· = []) (h.dropAllTables schema : Act σ τ _) := by
  have howner : Halts allowed (fun _ => True)
      (Act.ofExcept (checkIdentifier "schema" (h.schemaOr schema)) : Act σ τ _) :=
    .ofExcept fun _ _ => trivial
  refine howner.bind fun owner _ => (Halts.note _).bind fun _ _ =>
    (Halts.composes.listTables h hs owner).bind fun tables _ => ?_
  split
  · exact .pure rfl
  · exact (Halts.composes.releaseTables h hs owner tables).bind fun released _ =>
      (h.interrupts_dropReleased owner tables released).halts _

/-- **Under the cancel flag every operation halts**: it does not wait, and answers that it was
interrupted if it would have waited. -/
theorem halts_perform (hp : h.snapshot.Tries) (op : Operation) :
    Halts allowed Operation.Result.Interrupted (h.perform op : Act σ τ _) := by
  have hC : Composes allowed fun α => (Halts allowed (fun _ => True) : Act σ τ α → Prop) :=
    Halts.composes
  cases op with
  | start => exact (halts_startCapture (hs _ nofun)).bind fun _ hr => .pure hr
  | stop => exact (hC.stopCapture h (hs _ nofun)).bind fun _ _ => .pure trivial
  | stopAndWait => exact (halts_stopCaptureAndWait (hs _ nofun)).bind fun _ hr => .pure hr
  | status => exact (hC.status _ (hs _ nofun)).bind fun _ _ => .pure trivial
  | refresh => exact (halts_refreshAndWait hs).bind fun _ ho => .pure ho
  | waitForPropagation =>
    exact (h.interrupts_waitForPropagation.halts _).bind fun _ ho => .pure ho
  | waitForSnapshot =>
    exact ((interrupts_waitForSnapshot hp).halts _).bind fun _ hr => .pure hr
  | enable schema table =>
    exact (hC.enableTable h hs schema table).bind fun _ _ => .pure trivial
  | disable schema table =>
    exact (hC.disableTable h hs schema table).bind fun _ _ => .pure trivial
  | setState schema table state =>
    exact (halts_setTableState hs schema table state).bind fun _ ho => .pure ho
  | changeTable schema table =>
    exact (hC.changeTable h hs schema table).bind fun _ _ => .pure trivial
  | dropAll schema => exact (halts_dropAllTables hs schema).bind fun _ hn => .pure hn

end Statements

end Station

end CaptureControl
