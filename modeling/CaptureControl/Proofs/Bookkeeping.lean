import CaptureControl.Proofs.Keeping
import CaptureControl.Proofs.Tallying

/-!
# What operations enter in the books

The counters of a station are its books. Commands and waits are entered in them at many places: before
a statement is sent, after a wait that ended well, in the handlers of one that failed, and after a
delay that another part of the station let pass. Here the entries of every operation are read off its
definition, however it ends. That a delay begins, and that a table is about to be released, is not
counted but logged; the books include these entries too, so that the counters can be compared with
them.

## Implementation notes

Nothing else touches the counters, which is proved once for a preorder on sessions, that of equal
books.

## Main definitions

* `Entry` — an entry in the books
* `Session.Enters` — the entries by which the books of two sessions differ
* `Station.SameBooks` — no entry is made
* `WaitKind.entries`, `Entry.Delayed`, `Entry.releases` — the entries of waits, of delays and of
  tables that are released

## Main results

* `Station.yields_startCapture`, `Station.yields_waitForSnapshot`, `Station.yields_refreshAndWait`,
  `Station.yields_setTableState`, `Station.yields_dropAllTables` — the entries of operations
-/

namespace CaptureControl

/-! ### Entries -/

/-- An entry in the books of a station. -/
inductive Entry (τ : Type) where
  /-- A command is counted. -/
  | command (name : String)
  /-- A wait is counted, and its duration is observed if it is given. -/
  | wait (kind : WaitKind) (outcome : String) (elapsed : Option τ)
  /-- A delay begins. -/
  | delay
  /-- A table is about to be released. -/
  | release

/-- What an entry changes in a tally. -/
def Entry.post {τ : Type} [Time τ] : Entry τ → Tally τ → Tally τ
  | command name => Tally.countCommand name
  | wait kind outcome elapsed => Tally.recordWait kind.word outcome elapsed
  | delay | release => id

/-- What entries change in a tally, one after another. -/
def Entry.postAll {τ : Type} [Time τ] (es : List (Entry τ)) (t : Tally τ) : Tally τ :=
  es.foldl (fun t e => e.post t) t

/-- The entries of a wait with some outcome. A fault that is neither a time-out nor an abortion, such
as that of a pause that is too long to be timed, is not entered. -/
def WaitKind.entries {τ : Type} (kind : WaitKind) :
    Except (Fault τ) (WaitResult τ) → List (Entry τ)
  | .ok result => [.wait kind result.outcome.word (some result.elapsed)]
  | .error e =>
    if e.isA .timeout then [.wait kind "timeout" none]
    else if e.isA .aborted then [.wait kind "error" none]
    else []

/-- The entries of something that ends with a delay, whose pause can be timed or not, before the
delay is counted. -/
inductive Entry.Begun {τ : Type} (timed : Prop) :
    Except (Fault τ) Outcome → List (Entry τ) → Prop where
  /-- The delay is over. -/
  | ended (outcome : Outcome) : Begun timed (.ok outcome) [delay]
  /-- The delay fails with its pause. -/
  | overlong {e : Fault τ} : ¬ timed → Begun timed (.error e) [delay]
  /-- There was a fault before the delay. -/
  | failed {e : Fault τ} : Begun timed (.error e) []

/-- The entries of something that ends with a delay that is counted. -/
inductive Entry.Delayed {τ : Type} (timed : Prop) :
    Except (Fault τ) Outcome → List (Entry τ) → Prop where
  /-- The delay is over, and counted. -/
  | ended (outcome : Outcome) :
      Delayed timed (.ok outcome) [delay, wait .propagation outcome.word none]
  /-- The delay fails with its pause. -/
  | overlong {e : Fault τ} : ¬ timed → Delayed timed (.error e) [delay]
  /-- There was a fault before the delay. -/
  | failed {e : Fault τ} : Delayed timed (.error e) []

/-- The entries of tables that are released one after another. -/
def Entry.releases {τ : Type} (n : Nat) : List (Entry τ) :=
  (List.replicate n [release, command "remove_table"]).flatten

/-- The entry tells that a delay begins. -/
def Entry.isDelay {τ : Type} : Entry τ → Bool
  | delay => true
  | _ => false

/-- The entry tells that a table is about to be released. -/
def Entry.isRelease {τ : Type} : Entry τ → Bool
  | release => true
  | _ => false

/-- The log entry tells that a delay begins. -/
def LogEntry.isDelaying {τ : Type} : LogEntry τ → Bool
  | delaying _ => true
  | _ => false

/-- The log entry tells that a table is about to be released. -/
def LogEntry.isReleasing {τ : Type} : LogEntry τ → Bool
  | releasing _ _ => true
  | _ => false

theorem LogEntry.Plain.isDelaying_eq_false {τ : Type} {e : LogEntry τ} (he : e.Plain) :
    e.isDelaying = false := by
  cases e with
  | delaying => cases he
  | _ => rfl

theorem LogEntry.Plain.isReleasing_eq_false {τ : Type} {e : LogEntry τ} (he : e.Plain) :
    e.isReleasing = false := by
  cases e with
  | releasing => cases he
  | _ => rfl

namespace Session

variable {σ τ : Type}

/-- The number of delays that were begun. -/
def delays (s : Session σ τ) : Nat :=
  s.log.countP LogEntry.isDelaying

/-- The number of tables that were about to be released. -/
def releases (s : Session σ τ) : Nat :=
  s.log.countP LogEntry.isReleasing

/-- The books of two sessions differ by some entries. -/
structure Enters [Time τ] (s : Session σ τ) (es : List (Entry τ)) (s' : Session σ τ) : Prop where
  /-- They were posted to the counters. -/
  tally : s'.tally = Entry.postAll es s.tally
  /-- They tell of all delays. -/
  delays : s'.delays = s.delays + es.countP Entry.isDelay
  /-- They tell of all releases. -/
  releases : s'.releases = s.releases + es.countP Entry.isRelease

namespace Enters

variable [Time τ] {s s' s'' : Session σ τ} {es es' : List (Entry τ)}

theorem of_eq (ht : s'.tally = s.tally) (hl : s'.log = s.log) : s.Enters [] s' where
  tally := ht
  delays := congrArg (List.countP LogEntry.isDelaying) hl
  releases := congrArg (List.countP LogEntry.isReleasing) hl

theorem trans (h : s.Enters es s') (h' : s'.Enters es' s'') : s.Enters (es ++ es') s'' where
  tally := by rw [h'.tally, h.tally, Entry.postAll, Entry.postAll, Entry.postAll, List.foldl_append]
  delays := by rw [h'.delays, h.delays, List.countP_append, Nat.add_assoc]
  releases := by rw [h'.releases, h.releases, List.countP_append, Nat.add_assoc]

/-- What is counted is entered. -/
theorem counted (hd : es.countP Entry.isDelay = 0) (hr : es.countP Entry.isRelease = 0)
    (s : Session σ τ) : s.Enters es { s with tally := Entry.postAll es s.tally } where
  tally := rfl
  delays := by
    rw [hd]
    rfl
  releases := by
    rw [hr]
    rfl

theorem noted_delaying (s : Session σ τ) (seconds : τ) :
    s.Enters [.delay] (s.noted [.delaying seconds]) where
  tally := rfl
  delays := List.countP_cons_of_pos rfl
  releases := List.countP_cons_of_neg nofun

theorem noted_releasing (s : Session σ τ) (schema table : String) :
    s.Enters [.release] (s.noted [.releasing schema table]) where
  tally := rfl
  delays := List.countP_cons_of_neg nofun
  releases := List.countP_cons_of_pos rfl

/-- Other log entries are none in the books. -/
theorem noted {e : LogEntry τ} (hd : e.isDelaying = false) (hr : e.isReleasing = false)
    (s : Session σ τ) : s.Enters [] (s.noted [e]) where
  tally := rfl
  delays := List.countP_cons_of_neg (by rw [hd]; decide)
  releases := List.countP_cons_of_neg (by rw [hr]; decide)

end Enters

instance [Time τ] : Act.Trail (Enters : Session σ τ → List (Entry τ) → Session σ τ → Prop) where
  nil _ := .of_eq rfl rfl
  append := .trans

end Session

namespace Station

open Act Session

variable {σ τ α β : Type} [Time τ]

/-! ### What is not entered -/

/-- Two sessions have the same books. -/
def SameBooks (s s' : Session σ τ) : Prop :=
  s.Enters [] s'

instance : IsPreorder (Session σ τ) SameBooks where
  refl _ := .of_eq rfl rfl
  trans _ _ _ h h' := h.trans h'

theorem sameBooks_ask (r : Request) : Moves SameBooks (ask r : Act σ τ r.Answer) :=
  .ask fun _ _ _ => .of_eq rfl rfl

theorem permits_sameBooks : Gateway.Permits (SameBooks : Session σ τ → Session σ τ → Prop) where
  ask r _ := sameBooks_ask r
  number := .modify fun _ => .of_eq rfl rfl

theorem sameBooks_pause (seconds : τ) : Moves SameBooks (pause seconds : Act σ τ Bool) :=
  .pause fun _ _ _ _ _ => .of_eq rfl rfl

theorem sameBooks_send (h : Station τ) (statement : Statement) (params : Option (List Value)) :
    Moves SameBooks (h.service.send statement params : Act σ τ Unit) :=
  permits_sameBooks.execute (.modify fun s => .noted rfl rfl s) fun _ => sameBooks_ask _

theorem sameBooks_query (h : Station τ) (statement : Statement) (params : Option (List Value))
    (read : List Rows.Row → Except (Fault τ) α) :
    Moves SameBooks
      (h.service.gateway.query (h.service.program.text statement) params read : Act σ τ α) :=
  permits_sameBooks.query (.modify fun s => .noted rfl rfl s) (fun _ => sameBooks_ask _) read

/-- Nothing is entered besides what is counted. -/
theorem carries_sameBooks (h : Station τ) :
    h.Carries (SameBooks : Session σ τ → Session σ τ → Prop) where
  note _ he := .modify fun s => .noted he.isDelaying_eq_false he.isReleasing_eq_false s
  evaluating := .modify fun _ => .of_eq rfl rfl
  cancelled _ _ := .of_eq rfl rfl
  pause := sameBooks_pause
  lookup object name := h.monitor.moves_lookup object name (sameBooks_ask _) (sameBooks_ask _)
    (fun _ => sameBooks_ask _) fun _ => .modify fun s => .noted rfl rfl s
  send statement params _ := h.sameBooks_send statement params
  query statement params read _ := h.sameBooks_query statement params read

theorem sameBooks_close (h : Station τ) : Moves SameBooks (h.close : Act σ τ Unit) :=
  h.monitor.moves_close (sameBooks_ask _) (.modify fun _ => .of_eq rfl rfl)

/-! ### Rules -/

section Rules

variable {w : World σ τ} {x : Act σ τ α} {f : α → Act σ τ β}
  {Q : Except (Fault τ) β → List (Entry τ) → Prop}

theorem SameBooks.yields (hx : Moves SameBooks x) :
    Yields Enters w x fun _ es => es = [] :=
  fun s => ⟨[], hx w s, rfl⟩

/-- A first step without entries only matters if it fails. -/
theorem SameBooks.bind (hx : Moves SameBooks x) (he : ∀ e, Q (.error e) [])
    (hf : ∀ a, Yields Enters w (f a) Q) : Yields Enters w (x >>= f) Q := by
  refine Yields.bind (SameBooks.yields hx) ?_ ?_
  · rintro e _ rfl
    exact he e
  · rintro a _ rfl
    exact hf a

/-- What is entered by a first step that succeeds comes first. -/
theorem yields_after (es : List (Entry τ)) {y : Act σ τ Unit} {x : Act σ τ α}
    {P : Except (Fault τ) α → List (Entry τ) → Prop}
    (hy : ∀ s, (y w s).1 = .ok () ∧ s.Enters es (y w s).2)
    (hx : Yields Enters w x fun r es' => P r (es ++ es')) :
    Yields Enters w (y >>= fun _ => x) P := by
  have hfirst : Yields Enters w y fun r es' => r = .ok () ∧ es' = es :=
    fun s => ⟨es, (hy s).2, (hy s).1, rfl⟩
  refine Yields.bind hfirst ?_ ?_
  · rintro e es' ⟨he, -⟩
    cases he
  · rintro _ es' ⟨-, rfl⟩
    exact hx

/-- A command is entered first, whatever follows. -/
theorem yields_command (name : String) {P : Except (Fault τ) α → List (Entry τ) → Prop}
    (hx : Yields Enters w x fun r es => P r (.command name :: es)) :
    Yields Enters w (countCommand name >>= fun _ => x) P :=
  yields_after [.command name] (fun s => ⟨rfl, .counted rfl rfl s⟩) hx

end Rules

/-! ### Waits -/

section Waits

variable {w : World σ τ} {s : Session σ τ}

/-- A wait that is counted passes on its outcome, and enters it. -/
theorem observe_apply (kind : WaitKind) (x : Act σ τ (WaitResult τ)) (w : World σ τ)
    (s : Session σ τ) :
    observe kind x w s = ((x w s).1,
      { (x w s).2 with tally := Entry.postAll (kind.entries (x w s).1) (x w s).2.tally }) := by
  rw [observe, bind_apply, tryCatch_apply]
  rcases x w s with ⟨e | result, s'⟩
  · rw [WaitKind.entries]
    dsimp only
    cases e.isA .timeout with
    | true => rfl
    | false => cases e.isA .aborted <;> rfl
  · rfl

theorem yields_observe (kind : WaitKind) {x : Act σ τ (WaitResult τ)} (hx : Moves SameBooks x) :
    Yields Enters w (observe kind x) fun r es => es = kind.entries r := by
  intro s
  rw [observe_apply]
  refine ⟨_, (hx w s).trans (.counted ?_ ?_ _), rfl⟩
  all_goals
    unfold WaitKind.entries
    split
    · rfl
    · split
      · rfl
      · split <;> rfl

/-- A delay is entered when it begins. It only fails with a pause that cannot be timed. -/
theorem yields_delay (d : Delay τ) :
    Yields Enters w (d.wait : Act σ τ Outcome) (Entry.Begun (w.Times d.seconds)) := by
  intro s
  have hbegun : s.Enters [.delay] (s.noted [.delaying d.seconds]) := .noted_delaying s d.seconds
  have hpaused := sameBooks_pause d.seconds w (s.noted [.delaying d.seconds])
  rw [Delay.wait, note_bind_apply]
  rcases hp : pause d.seconds w (s.noted [.delaying d.seconds]) with ⟨e | completed, s₁⟩ <;>
    rw [hp] at hpaused
  · rw [bind_of_error hp]
    exact ⟨_, hbegun.trans hpaused, .overlong (pauses_of_eq hp).of_error.2.1⟩
  · rw [bind_of_ok hp]
    cases completed with
    | true => exact ⟨_, hbegun.trans hpaused, .ended .elapsed⟩
    | false =>
      have hnoted : s₁.Enters [] (s₁.noted [.delayInterrupted]) := .noted rfl rfl s₁
      exact ⟨_, hbegun.trans (hpaused.trans hnoted), .ended .interrupted⟩

/-- What ends with a delay is counted when the delay is over. -/
theorem yields_counted_delay {timed : Prop} {x : Act σ τ Outcome}
    (hx : Yields Enters w x (Entry.Begun timed)) :
    Yields Enters w (x >>= fun outcome => countDelay outcome >>= fun _ => pure outcome)
      (Entry.Delayed timed) := by
  refine Yields.bind hx (fun e es hes => ?_) fun outcome es hes => ?_
  · cases hes with
    | overlong ht => exact .overlong ht
    | failed => exact .failed
  · cases hes with
    | ended =>
      exact yields_after [.wait .propagation outcome.word none]
        (fun s => ⟨rfl, .counted rfl rfl s⟩) (.pure (.ended outcome))

end Waits

/-! ### Operations -/

section Operations

variable (h : Station τ) (w : World σ τ)

theorem yields_startCapture :
    Yields Enters w h.startCapture fun r es =>
      es = .command "start" :: WaitKind.serviceStart.entries r :=
  yields_command _ ((yields_observe _ h.carries_sameBooks.start).weaken fun _ _ hes => by rw [hes])

theorem yields_stopCapture :
    Yields Enters w h.stopCapture fun _ es => es = [.command "stop"] :=
  yields_command _ ((SameBooks.yields h.carries_sameBooks.stop).weaken fun _ _ hes => by rw [hes])

theorem yields_waitUntilStopped :
    Yields Enters w (observe .serviceStop h.service.waitUntilStopped) fun r es =>
      es = WaitKind.serviceStop.entries r :=
  yields_observe _ (h.carries_sameBooks.waitFor _ _)

theorem yields_waitForPropagation :
    Yields Enters w h.waitForPropagation (Entry.Delayed (w.Times h.propagation.seconds)) :=
  yields_counted_delay (yields_delay _)

theorem yields_refreshAndWait :
    Yields Enters w h.refreshAndWait fun r es => ∃ es',
      es = .command "reinit" :: es' ∧ Entry.Delayed (w.Times h.propagation.seconds) r es' := by
  refine yields_command _ (SameBooks.bind h.carries_sameBooks.refresh (fun _ => ⟨_, rfl, .failed⟩)
    fun _ => ?_)
  exact (h.yields_waitForPropagation w).weaken fun _ _ hes => ⟨_, rfl, hes⟩

theorem yields_waitForSnapshot :
    Yields Enters w h.waitForSnapshot fun r es => es = WaitKind.snapshot.entries r :=
  yields_observe _ (h.carries_sameBooks.poll (h.carries_sameBooks.lookup _ _) _)

theorem yields_enableTable (schema table : Value) :
    Yields Enters w (h.enableTable schema table) fun _ es => es = [.command "add_table"] :=
  yields_command _ ((SameBooks.yields (h.carries_sameBooks.enable _ _)).weaken
    fun _ _ hes => by rw [hes])

theorem yields_disableTable (schema table : Value) :
    Yields Enters w (h.disableTable schema table) fun _ es => es = [.command "remove_table"] :=
  yields_command _ ((SameBooks.yields (h.carries_sameBooks.disable _ _)).weaken
    fun _ _ hes => by rw [hes])

/-- The delay of a change of state is let pass by the registration, and counted by the station. -/
theorem yields_setTableState (schema table : Value) (state : Activation) :
    Yields Enters w (h.setTableState schema table state) fun r es => ∃ es',
      es = .command (stateCommand state) :: es' ∧
        Entry.Delayed (w.Times h.propagation.seconds) r es' := by
  refine yields_command _ ((yields_counted_delay ?_).weaken fun _ _ hes => ⟨_, rfl, hes⟩)
  refine SameBooks.bind (.ofExcept _) (fun _ => .failed) fun t => ?_
  refine SameBooks.bind (h.carries_sameBooks.note (.marking t state) trivial) (fun _ => .failed)
    fun _ => ?_
  refine SameBooks.bind (h.sameBooks_send _ _) (fun _ => .failed) fun _ => ?_
  refine SameBooks.bind h.carries_sameBooks.refresh (fun _ => .failed) fun _ => ?_
  exact yields_delay h.propagation

theorem yields_release (owner table : String) :
    Yields Enters w (Act.note (.releasing owner table) >>= fun _ =>
        h.disableTable (.text owner) (.text table)) fun _ es =>
      es = [.release, .command "remove_table"] := by
  refine yields_after [.release] (fun s => ⟨rfl, .noted_releasing s owner table⟩) ?_
  exact (h.yields_disableTable w _ _).weaken fun _ _ hes => by rw [hes]; rfl

/-- Tables are released one after another, each entered when its turn comes. -/
theorem yields_releaseTables (owner : String) (tables : List String) :
    Yields Enters w (h.releaseTables owner tables) fun _ es => ∃ n, es = Entry.releases n := by
  induction tables with
  | nil =>
    rw [releaseTables, List.mapM_nil]
    exact .pure ⟨0, rfl⟩
  | cons table tables ih =>
    rw [releaseTables, List.mapM_cons]
    refine Yields.bind (h.yields_release w owner table) ?_ ?_
    · rintro e _ rfl
      exact ⟨1, rfl⟩
    · rintro t _ rfl
      refine Yields.bind ih (fun e es hes => ?_) fun ts es hes => .pure ?_
      all_goals
        obtain ⟨n, rfl⟩ := hes
        exact ⟨n + 1, by simp [Entry.releases, List.replicate_succ]⟩

theorem yields_dropReleased (owner : String) (tables : List String) (released : List SourceTable) :
    Yields Enters w (h.dropReleased owner tables released) fun _ es =>
      ∃ r, Entry.Delayed (w.Times h.propagation.seconds) r es := by
  have hdrop : Moves SameBooks (h.dropTables released : Act σ τ Unit) :=
    .forM (fun t => .bind (h.carries_sameBooks.note (.dropping t) trivial) fun _ =>
      h.sameBooks_send _ _) released
  refine Yields.bind (h.yields_waitForPropagation w) (fun e _ hes => ⟨.error e, hes⟩) ?_
  intro outcome es hes
  have hrest {x : Act σ τ (List String)} (hx : Moves SameBooks x) : Yields Enters w x fun _ es' =>
      ∃ r, Entry.Delayed (w.Times h.propagation.seconds) r (es ++ es') := by
    refine (SameBooks.yields hx).weaken ?_
    rintro _ _ rfl
    exact ⟨.ok outcome, by rwa [List.append_nil]⟩
  split
  · exact hrest (.bind hdrop fun _ => .pure _)
  · exact hrest (.bind (h.carries_sameBooks.note (.keeping owner) trivial) fun _ => .pure _)

/-- The entries of clearing a schema: of the tables that were released, and of the delay after them,
if it came to that. -/
theorem yields_dropAllTables (schema : Value) :
    Yields Enters w (h.dropAllTables schema) fun _ es => ∃ n es',
      es = Entry.releases n ++ es' ∧
        ∃ r, Entry.Delayed (w.Times h.propagation.seconds) r es' := by
  have hnothing (e : Fault τ) : ∃ n es', ([] : List (Entry τ)) = Entry.releases n ++ es' ∧
      ∃ r, Entry.Delayed (w.Times h.propagation.seconds) r es' :=
    ⟨0, [], rfl, .error e, .failed⟩
  refine SameBooks.bind (.ofExcept _) hnothing fun owner => ?_
  refine SameBooks.bind (h.carries_sameBooks.note (.clearing owner) trivial) hnothing fun _ => ?_
  refine SameBooks.bind (h.sameBooks_query _ _ _) hnothing fun tables => ?_
  split
  · exact .pure (hnothing .closedPage)
  · refine Yields.bind (h.yields_releaseTables w owner tables) ?_ ?_
    · rintro e _ ⟨n, rfl⟩
      exact ⟨n, [], (List.append_nil _).symm, .error e, .failed⟩
    · rintro released _ ⟨n, rfl⟩
      refine (h.yields_dropReleased w owner tables released).weaken ?_
      exact fun _ es' hes => ⟨n, es', rfl, hes⟩

end Operations

end Station

end CaptureControl
