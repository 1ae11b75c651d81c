import CaptureControl.Proofs.Cancelling
import CaptureControl.Proofs.Keeping

/-!
# Connections and pauses

A station pauses between the looks of a poll, and to let a change propagate. Outside a session of
its gateway every call opens a connection and closes it again before it ends, however it ends; so
whenever a pause begins, no connection is open, whatever was done before and whatever failed.

## Implementation notes

The record of a station tells of more than connections, so it is not `Orderly` as it stands. It is
read twice. The requests that are made of the database are orderly by themselves, and between two
calls nothing is open; and at every pause, what was recorded before it was orderly in this way. A
pause adds to the second what the first says of the record so far, and nothing else adds to the
second at all.

## Main definitions

* `databaseRequests` — the part of a record that `Orderly` can read
* `Session.Resting` — no connection is open now, and none was when a pause began

## Main results

* `Station.rests_runs` — whatever is done with a station keeps that
* `Station.closed_during_pauses` — every connection is closed whenever a pause begins
-/

namespace CaptureControl

/-! ### The requests of a gateway -/

/-- A request that is made of a database. -/
def Request.ofDatabase : Request → Bool
  | connect _ | cursor _ | execute _ _ _ | fetch _ | closeCursor _ | commit _ | close _ => true
  | lookup _ _ | collect | page _ | closeMetrics => false

/-- A request was made of a database. -/
def Event.ofDatabase {τ : Type} : Event τ → Bool
  | asked r _ => r.ofDatabase
  | _ => false

section Record

variable {τ : Type}

/-- The requests in a record that were made of a database. -/
def databaseRequests (trace : List (Event τ)) : List (Event τ) :=
  trace.filter Event.ofDatabase

theorem Event.ofDatabase_of_opens {e : Event τ} (h : e.opens = true) : e.ofDatabase = true := by
  unfold opens at h
  split at h
  · rfl
  · cases h

theorem Event.ofDatabase_of_closes {c : Nat} {e : Event τ} (h : e.closes c = true) :
    e.ofDatabase = true := by
  unfold closes at h
  split at h
  · rfl
  · cases h

theorem Event.On.ofDatabase {c : Nat} {e : Event τ} (h : e.On c) : e.ofDatabase = true := by
  obtain ⟨r, delivered, rfl, hr⟩ := h
  cases r <;> first | rfl | cases hr

theorem openings_databaseRequests (trace : List (Event τ)) :
    openings (databaseRequests trace) = openings trace := by
  rw [openings, openings, databaseRequests, List.countP_filter]
  refine List.countP_congr fun e _ => ?_
  rw [Bool.and_eq_true]
  exact ⟨And.left, fun h => ⟨h, Event.ofDatabase_of_opens h⟩⟩

theorem closings_databaseRequests (c : Nat) (trace : List (Event τ)) :
    closings c (databaseRequests trace) = closings c trace := by
  rw [closings, closings, databaseRequests, List.countP_filter]
  refine List.countP_congr fun e _ => ?_
  rw [Bool.and_eq_true]
  exact ⟨And.left, fun h => ⟨h, Event.ofDatabase_of_closes h⟩⟩

/-- Where the requests are orderly and nothing is open, every connection that was opened was closed,
and that once. -/
theorem Orderly.closings_eq_one {trace : List (Event τ)} {n : Nat}
    (h : Orderly (databaseRequests trace) n none) : ∀ c < openings trace, closings c trace = 1 := by
  intro c hc
  rw [← closings_databaseRequests, h.closings_eq, if_pos]
  rw [← openings_databaseRequests, h.openings_eq] at hc
  exact ⟨hc, nofun⟩

/-- An orderly record has no other events than requests that were made of a database. -/
theorem Orderly.ofDatabase {trace : List (Event τ)} {n : Nat} {o : Option Nat}
    (h : Orderly trace n o) : ∀ e ∈ trace, e.ofDatabase = true := by
  induction h with
  | start => nofun
  | opened | refused | closed => simpa [Event.ofDatabase, Request.ofDatabase]
  | used he _ ih => exact List.forall_mem_cons.mpr ⟨he.ofDatabase, ih⟩

/-! ### Pauses -/

/-- At every pause, the requests before it are orderly and nothing is open. -/
def PausesClosed (trace : List (Event τ)) : Prop :=
  ∀ seconds completed before, Event.paused seconds completed :: before <:+ trace →
    ∃ n, Orderly (databaseRequests before) n none

theorem PausesClosed.append {events trace : List (Event τ)} (h : PausesClosed trace)
    (he : ∀ e ∈ events, ∀ seconds completed, e ≠ .paused seconds completed) :
    PausesClosed (events ++ trace) := by
  intro seconds completed before hs
  induction events with
  | nil => exact h seconds completed before hs
  | cons e events ih =>
    obtain ⟨hne, he⟩ := List.forall_mem_cons.mp he
    rcases List.suffix_cons_iff.mp hs with heq | hs
    · exact absurd (List.cons.inj heq).1.symm (hne seconds completed)
    · exact ih he hs

theorem PausesClosed.cons_paused {trace : List (Event τ)} (h : PausesClosed trace) {n : Nat}
    (ho : Orderly (databaseRequests trace) n none) (seconds : τ) (completed : Bool) :
    PausesClosed (.paused seconds completed :: trace) := by
  intro seconds' completed' before hs
  rcases List.suffix_cons_iff.mp hs with heq | hs
  · obtain ⟨-, rfl⟩ := List.cons.inj heq
    exact ⟨n, ho⟩
  · exact h seconds' completed' before hs

theorem not_paused_of_ofDatabase {e : Event τ} (h : e.ofDatabase = true) (seconds : τ)
    (completed : Bool) : e ≠ .paused seconds completed := by
  rintro rfl
  cases h

end Record

/-! ### Sessions -/

/-- No connection is held or open, and at every pause so far nothing was open. -/
structure Session.Resting {σ τ : Type} (s : Session σ τ) : Prop where
  /-- No connection is held. -/
  held : s.held = none
  /-- The requests so far are orderly, and nothing is open. -/
  requests : Orderly (databaseRequests s.trace) s.opened none
  /-- So it was at every pause. -/
  pauses : PausesClosed s.trace

/-- Rest is kept. -/
def Session.Rested {σ τ : Type} (s s' : Session σ τ) : Prop :=
  s.Resting → s'.Resting

instance {σ τ : Type} : IsPreorder (Session σ τ) Session.Rested where
  refl _ := id
  trans _ _ _ h h' := h' ∘ h

namespace Session.Resting

variable {σ τ : Type} {s s' : Session σ τ}

/-- Events that are neither requests of a gateway nor pauses do not matter. -/
theorem aside (hs : s.Resting) (events : List (Event τ)) (ht : s'.trace = events ++ s.trace)
    (he : ∀ e ∈ events, e.ofDatabase = false ∧ ∀ seconds completed, e ≠ .paused seconds completed)
    (ho : s'.opened = s.opened) (hh : s'.held = s.held) : s'.Resting where
  held := hh.trans hs.held
  requests := by
    have hnone : databaseRequests events = [] :=
      List.filter_eq_nil_iff.mpr fun e hmem => by simp [(he e hmem).1]
    rw [ht, databaseRequests, List.filter_append, ho]
    change Orderly (databaseRequests events ++ databaseRequests s.trace) s.opened none
    rw [hnone]
    exact hs.requests
  pauses := by
    rw [ht]
    exact hs.pauses.append fun e hmem => (he e hmem).2

theorem of_eq (hs : s.Resting) (ht : s'.trace = s.trace) (ho : s'.opened = s.opened)
    (hh : s'.held = s.held) : s'.Resting :=
  hs.aside [] ht nofun ho hh

/-- A pause of a resting session is one at which nothing is open. -/
theorem paused {seconds : τ} {completed : Bool} (hs : s.Resting)
    (ht : s'.trace = .paused seconds completed :: s.trace) (ho : s'.opened = s.opened)
    (hh : s'.held = s.held) : s'.Resting where
  held := hh.trans hs.held
  requests := by
    rw [ht, ho]
    exact hs.requests
  pauses := by
    rw [ht]
    exact hs.pauses.cons_paused hs.requests seconds completed

/-- Requests that leave nothing open do not matter either. -/
theorem requested (hs : s.Resting) (events : List (Event τ)) (ht : s'.trace = events ++ s.trace)
    (he : ∀ e ∈ events, e.ofDatabase = true)
    (ho : Orderly (events ++ databaseRequests s.trace) s'.opened none)
    (hh : s'.held = s.held) : s'.Resting where
  held := hh.trans hs.held
  requests := by
    rw [ht, databaseRequests, List.filter_append, List.filter_eq_self.mpr he]
    exact ho
  pauses := by
    rw [ht]
    exact hs.pauses.append fun e hmem => not_paused_of_ofDatabase (he e hmem)

/-- A call on a connection of its own leaves nothing open. -/
theorem visited {g : Gateway} (hs : s.Resting) (hv : g.Visits s s') : s'.Resting := by
  cases hv with
  | missing hd ht hn hh => exact hs.of_eq ht hn hh
  | @refused dsn _ hd ht hn hh =>
    refine hs.requested [.asked (.connect dsn) false] ht
      (List.forall_mem_singleton.mpr rfl) ?_ hh
    rw [hn]
    exact hs.requests.refused dsn
  | @served dsn _ events delivered hd he ht hn hh =>
    refine hs.requested
      (.asked (.close s.opened) delivered :: (events ++ [.asked (.connect dsn) true]))
      (by simpa using ht) ?_ ?_ hh
    · intro e hmem
      simp only [List.mem_cons, List.mem_append, List.not_mem_nil, or_false] at hmem
      rcases hmem with rfl | hmem | rfl
      · rfl
      · exact (he e hmem).ofDatabase
      · rfl
    · rw [hn, List.cons_append, List.append_assoc]
      exact ((hs.requests.opened dsn).append_used he).closed delivered

/-- A session in which a gateway was used before, and that holds no connection, is at rest. -/
theorem of_after [Time τ] (g : Gateway) (w : World σ τ) (uses : List (Gateway.Use τ))
    (world : σ) (clock : τ) (scope : String)
    (hh : (g.after w uses (.start world clock scope)).held = none) :
    (g.after w uses (.start world clock scope)).Resting := by
  have ho := Gateway.orderly_after (g := g) (w := w) uses
    (s := Session.start world clock scope) .start
  rw [hh] at ho
  refine ⟨hh, ?_, fun seconds completed before hs => ?_⟩
  · rwa [databaseRequests, List.filter_eq_self.mpr ho.ofDatabase]
  · exact absurd (ho.ofDatabase _ (hs.subset (List.mem_cons_self ..))) (by simp [Event.ofDatabase])

end Session.Resting

/-! ### What a station does -/

namespace Monitor

open Act Session

variable {σ τ : Type}

/-- A request that is not made of a database leaves a session at rest. -/
theorem rests_ask {r : Request} (hr : r.ofDatabase = false) :
    Moves Rested (ask r : Act σ τ r.Answer) := by
  refine .ask fun s _ delivered hs => hs.aside [.asked r delivered] rfl ?_ rfl rfl
  rw [List.forall_mem_singleton]
  exact ⟨hr, nofun⟩

theorem rests_lookup (m : Monitor) (object name : String) :
    Moves Rested (m.lookup object name : Act σ τ Bool) :=
  m.moves_lookup object name (rests_ask rfl) (rests_ask rfl) (fun _ => rests_ask rfl)
    fun _ => .modify fun _ hs => hs.of_eq rfl rfl rfl

theorem rests_close (m : Monitor) : Moves Rested (m.close : Act σ τ Unit) :=
  m.moves_close (rests_ask rfl) (.modify fun _ hs => hs.of_eq rfl rfl rfl)

end Monitor

namespace Station

open Act Session

variable {σ τ : Type} [Time τ]

/-- All that the operations of a station are made of leaves a session at rest. -/
theorem permits_rested (h : Station τ) :
    h.Permits (Rested : Session σ τ → Session σ τ → Prop) where
  note _ _ := .modify fun _ hs => hs.of_eq rfl rfl rfl
  delaying _ := .modify fun _ hs => hs.of_eq rfl rfl rfl
  releasing _ _ := .modify fun _ hs => hs.of_eq rfl rfl rfl
  count _ := .modify fun _ hs => hs.of_eq rfl rfl rfl
  evaluating := .modify fun s hs =>
    hs.aside [.evaluating s.clock] rfl (by simp [Event.ofDatabase]) rfl rfl
  cancelled _ _ hs := hs.of_eq rfl rfl rfl
  pause _ := .pause fun _ _ _ _ _ hs => hs.paused rfl rfl rfl
  lookup := h.monitor.rests_lookup
  send statement params _ w s hs := by
    have hv := h.service.gateway.visits_perform (w := w)
      (u := .execute (h.service.program.text statement) params) nofun nofun hs.held
    exact hs.visited hv
  query _ _ read _ w s hs := by
    rw [← Gateway.perform_query_snd]
    exact hs.visited (Gateway.visits_perform nofun nofun hs.held)

/-- Whatever is done with a station, whether it fails or not, leaves a session at rest. -/
theorem rests_runs (h : Station τ) (uses : List Use) :
    Moves Rested (h.runs uses : Act σ τ _) :=
  h.permits_rested.runs h.monitor.rests_close (.modify fun _ hs => hs.of_eq rfl rfl rfl)
    (.modify fun _ hs => hs.of_eq rfl rfl rfl) uses

/-- **Every connection is closed whenever a pause begins.** A station that is not used within a
session of its gateway, after whatever else its gateway was used for, may do anything, and anything
may fail or be cancelled at any moment: when a pause begins, the closing of every connection that was
opened so far has been asked for, and that once. In the end, nothing is open or held either. -/
theorem closed_during_pauses (h : Station τ) (w : World σ τ) (before : List (Gateway.Use τ))
    (world : σ) (clock : τ) (scope : String)
    (hheld : (h.service.gateway.after w before (.start world clock scope)).held = none)
    (uses : List Use) :
    let s := (h.runs uses w (h.service.gateway.after w before (.start world clock scope))).2
    (∀ seconds completed earlier, .paused seconds completed :: earlier <:+ s.trace →
      ∀ c < openings earlier, closings c earlier = 1) ∧
    (∀ c < openings s.trace, closings c s.trace = 1) ∧ s.held = none := by
  intro s
  have hs : s.Resting := h.rests_runs uses w _ (.of_after _ _ _ _ _ _ hheld)
  refine ⟨fun seconds completed earlier hsuffix => ?_, hs.requests.closings_eq_one, hs.held⟩
  obtain ⟨n, hn⟩ := hs.pauses seconds completed earlier hsuffix
  exact hn.closings_eq_one

/-- After a session of the gateway was begun and ended, a change is given time to propagate. -/
theorem closed_during_pauses_probing :
    let before := probing.service.gateway.after Rehearsal.world [.enter, .exit]
      (.start .empty (0 : Rat) "")
    let s := (probing.runs [.operation (.disable .null (.text "A")), .operation .waitForPropagation]
      Rehearsal.world before).2
    before.held = none ∧
      ∀ seconds completed earlier, .paused seconds completed :: earlier <:+ s.trace →
        ∀ c < openings earlier, closings c earlier = 1 := by
  have hheld : (probing.service.gateway.after Rehearsal.world [.enter, .exit]
      (.start .empty (0 : Rat) "")).held = none := by
    with_unfolding_all rfl
  exact ⟨hheld, (closed_during_pauses probing Rehearsal.world [.enter, .exit] .empty 0 "" hheld
    [.operation (.disable .null (.text "A")), .operation .waitForPropagation]).1⟩

end Station

end CaptureControl
