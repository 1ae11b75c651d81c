import CaptureControl.Proofs.Looks
import CaptureControl.Proofs.Starting

/-!
# What becomes of orders

The operations of a station run their statements one after another, and the first that fails ends
them. What follows is a delay, or a poll of the status, or nothing. Here the accounts of operations
are told by the orders that they are to carry out. Delays and polls may fail as well, each with a
pause that cannot be timed; their orders are carried out by then.

## Main definitions

* `Orders.Fail` — orders that were refused or broken off
* `Orders.Performed` — orders after which nothing follows
* `Orders.Waited` — a delay
* `Orders.Delayed` — orders after which a change is given time to propagate
* `Orders.Awaited` — an order after which the status is polled

## Main results

* `Station.tells_startCapture`, `Station.tells_stopCaptureAndWait`, `Station.tells_refreshAndWait`,
  `Station.tells_enableTable`, `Station.tells_setTableState` — the accounts of operations
-/

namespace CaptureControl

/-- An order was carried out. -/
def Order.done {τ : Type} (order : Order) : Incident τ :=
  .sent order (.ok ())

/-- How a delay ends whose pause is completed or cut short. -/
def Outcome.ofPause (completed : Bool) : Outcome :=
  if completed then .elapsed else .interrupted

/-- A look at the status, and whether it shows a state. -/
def Service.shows {τ : Type} (svc : Service τ) (goal : Status) :
    Incident τ → Option (Except (Fault τ) Bool)
  | .statusRead (.ok text) => some (.ok (svc.stateOf text = goal))
  | .statusRead (.error e) => some (.error e)
  | _ => none

/-- A look at the snapshot, and its answer. -/
def Incident.lookup? {τ : Type} : Incident τ → Option (Except (Fault τ) Bool)
  | .lookedUp reply => some reply
  | _ => none

/-! ### Faults -/

namespace Fault

variable {τ : Type} {e : Fault τ}

/-- A fault about a statement is of one kind only. -/
theorem kind_eq_command (he : e.isA .command = true) : e.kind = .command := by
  rw [isA] at he
  cases hk : e.kind with
  | command => rfl
  | _ =>
    rw [hk] at he
    cases he

/-- A wait that fails in a way that is reported fails as one of capture control. -/
theorem isA_capture_of_wait (he : (e.isA .timeout || e.isA .aborted) = true) :
    e.isA .capture = true := by
  unfold isA at *
  generalize e.kind = k at *
  revert he
  cases k <;> decide

theorem isA_capture_of_command (he : e.isA .command = true) : e.isA .capture = true := by
  rw [isA, kind_eq_command he]
  rfl

theorem isA_exception_of_command (he : e.isA .command = true) : e.isA .exception = true := by
  rw [isA, kind_eq_command he]
  rfl

end Fault

/-! ### Orders -/

namespace Orders

variable {τ α : Type}

/-- Orders that are given for something that is refused are not begun; others end with the first
that fails. -/
inductive Fail (orders : Except (Fault τ) (List Order)) : Fault τ → List (Incident τ) → Prop where
  /-- What the orders are given for is refused. -/
  | refused {e : Fault τ} : orders = .error e → Fail orders e []
  /-- An order fails, and those after it are not begun. -/
  | broken {before after : List Order} {order : Order} {e : Fault τ} :
      orders = .ok (before ++ order :: after) →
      Fail orders e (before.map Order.done ++ [.sent order (.error e)])

/-- How the outcome of orders is related to their account. -/
inductive Performed (orders : Except (Fault τ) (List Order)) :
    Except (Fault τ) α → List (Incident τ) → Prop where
  /-- All are carried out. -/
  | all {l : List Order} {a : α} : orders = .ok l → Performed orders (.ok a) (l.map Order.done)
  /-- They fail. -/
  | failed {e : Fault τ} {is : List (Incident τ)} : Fail orders e is →
      Performed orders (.error e) is

/-- How the outcome of a delay is related to its account. -/
inductive Waited (seconds : τ) : Except (Fault τ) Outcome → List (Incident τ) → Prop where
  /-- The pause ends one way or the other. -/
  | ended (completed : Bool) :
      Waited seconds (.ok (.ofPause completed)) [.paused seconds (.ok completed)]
  /-- The pause is too long to be timed. -/
  | overlong : Waited seconds (.error .overlongPause) [.paused seconds (.error .overlongPause)]

/-- How the outcome of orders with a delay after them is related to their account. -/
inductive Delayed (seconds : τ) (orders : Except (Fault τ) (List Order)) :
    Except (Fault τ) Outcome → List (Incident τ) → Prop where
  /-- All are carried out, and the delay ends in some way. -/
  | waited {l : List Order} {r : Except (Fault τ) Outcome} {is : List (Incident τ)} :
      orders = .ok l → Waited seconds r is → Delayed seconds orders r (l.map Order.done ++ is)
  /-- They fail, and there is no delay. -/
  | failed {e : Fault τ} {is : List (Incident τ)} : Fail orders e is →
      Delayed seconds orders (.error e) is

/-- An outcome is passed on as it is, or a fault of capture control as another one. -/
inductive Reported : Except (Fault τ) α → Except (Fault τ) α → Prop where
  /-- The outcome is passed on. -/
  | same (r : Except (Fault τ) α) : Reported r r
  /-- A fault is passed on as another. -/
  | renamed {e e' : Fault τ} : e.isA .capture = true → e'.isA .capture = true →
      Reported (.error e) (.error e')

/-- How the outcome of an order with a poll of the status after it is related to its account. -/
inductive Awaited (seconds : τ) (order : Order)
    (answer : Incident τ → Option (Except (Fault τ) Bool)) :
    Except (Fault τ) (WaitResult τ) → List (Incident τ) → Prop where
  /-- The order is carried out, and the poll ends in some way. -/
  | polled {v r : Except (Fault τ) (WaitResult τ)} {is : List (Incident τ)} :
      Polled seconds answer [] v is → Reported v r →
      Awaited seconds order answer r (order.done :: is)
  /-- The order fails, and there is no poll. -/
  | failed {e e' : Fault τ} {is : List (Incident τ)} : Fail (.ok [order]) e is →
      (e.isA .command = true → e'.isA .capture = true) →
      Awaited seconds order answer (.error e') is

/-- Orders fail because they are refused, or because one of them fails. -/
theorem Fail.refused_or_broken {orders : Except (Fault τ) (List Order)} {e : Fault τ}
    {is : List (Incident τ)} (hf : Fail orders e is) :
    (orders = .error e ∧ is = []) ∨ ∃ order, .sent order (.error e) ∈ is := by
  cases hf with
  | refused he => exact Or.inl ⟨he, rfl⟩
  | broken => exact Or.inr ⟨_, List.mem_append_right _ (List.mem_singleton_self _)⟩

theorem Fail.append {l l' : List Order} {e : Fault τ} {is : List (Incident τ)}
    (hf : Fail (.ok l) e is) : Fail (.ok (l ++ l')) e is := by
  cases hf with
  | refused hl => cases hl
  | broken hl =>
    cases hl
    rw [List.append_assoc, List.cons_append]
    exact .broken rfl

theorem Fail.prepend {l l' : List Order} {e : Fault τ} {is : List (Incident τ)}
    (hf : Fail (.ok l') e is) : Fail (.ok (l ++ l')) e (l.map Order.done ++ is) := by
  cases hf with
  | refused hl => cases hl
  | broken hl =>
    cases hl
    rw [← List.append_assoc, ← List.append_assoc, ← List.map_append]
    exact .broken rfl

end Orders

/-! ### Operations of a station -/

namespace Station

open Act Orders

variable {σ τ α β : Type} [Time τ] {h : Station τ} {w : World σ τ}

namespace Tells

variable {x : Act σ τ α} {f : α → Act σ τ β} {l l' : List Order}

/-- Orders after orders. -/
theorem then_perform (hx : h.Tells w x (Performed (.ok l)))
    (hf : ∀ a, h.Tells w (f a) (Performed (.ok l'))) :
    h.Tells w (x >>= f) (Performed (.ok (l ++ l'))) := by
  refine hx.bind (fun e is hp => ?_) fun a is hp => ?_
  · cases hp with
    | failed hfail => exact .failed hfail.append
  · cases hp with
    | all hl =>
      cases hl
      refine (hf a).weaken fun r is' hp' => ?_
      cases hp' with
      | all hl' =>
        cases hl'
        rw [← List.map_append]
        exact .all rfl
      | failed hfail => exact .failed hfail.prepend

/-- An answer after orders. -/
theorem then_pure {g : α → β} {orders : Except (Fault τ) (List Order)}
    (hx : h.Tells w x (Performed orders)) :
    h.Tells w (x >>= fun a => Pure.pure (g a)) (Performed orders) := by
  refine hx.bind (fun e is hp => ?_) fun a is hp => pure ?_
  · cases hp with
    | failed hfail => exact .failed hfail
  · cases hp with
    | all hl =>
      rw [List.append_nil]
      exact .all hl

end Tells

theorem tells_order (statement : Statement) (params : Option (List Value)) :
    h.Tells w (h.service.send statement params) (Performed (.ok [⟨statement, params⟩])) := by
  refine (tells_send statement params).weaken fun r is his => ?_
  subst his
  cases r with
  | ok u => exact .all (l := [⟨statement, params⟩]) rfl
  | error e =>
    have hfail : Fail (.ok [⟨statement, params⟩]) e
        ([].map Order.done ++ [.sent ⟨statement, params⟩ (.error e)]) := .broken rfl
    exact .failed hfail

theorem tells_stop : h.Tells w h.service.stop (Performed (.ok [⟨.stop, none⟩])) :=
  Quiet.bind (Quiet.note rfl) fun _ => tells_order .stop none

theorem tells_refresh : h.Tells w h.service.refresh (Performed (.ok [⟨.reinit, none⟩])) :=
  Quiet.bind (Quiet.note rfl) fun _ => tells_order .reinit none

theorem tells_stopCapture : h.Tells w h.stopCapture (Performed (.ok [⟨.stop, none⟩])) :=
  Quiet.bind (Quiet.count _) fun _ => tells_stop

theorem tells_captureStatus :
    h.Tells w h.captureStatus fun r is => ∃ r' : Except (Fault τ) (Option String),
      is = [.statusRead r'] ∧ r = r'.map h.service.stateOf := by
  refine tells_statusText.bind ?_ ?_
  · rintro e is rfl
    exact ⟨_, rfl, rfl⟩
  · rintro text is rfl
    exact Quiet.bind (Quiet.note rfl) fun _ => .pure ⟨_, rfl, rfl⟩

/-! ### Tables -/

/-- Something is done to a table; if no table is named, it is not begun. -/
theorem tells_named {f : SourceTable → Act σ τ α}
    {Q : Except (Fault τ) α → List (Incident τ) → Prop} {schema table : Value}
    (he : ∀ e, SourceTable.ofValues schema table = .error e → Q (.error e) [])
    (hf : ∀ t, SourceTable.ofValues (τ := τ) schema table = .ok t → h.Tells w (f t) Q) :
    h.Tells w (Registration.tableOf schema table >>= f) Q := by
  have htable : h.Tells w (Registration.tableOf schema table) fun r is =>
      r = SourceTable.ofValues schema table ∧ is = [] := .ofExcept ⟨rfl, rfl⟩
  refine htable.bind ?_ ?_
  · rintro e is ⟨hr, rfl⟩
    exact he e hr.symm
  · rintro t is ⟨hr, rfl⟩
    exact hf t hr.symm

/-- The orders for a table, if two values name one. -/
def ordersFor (h : Station τ) (schema table : Value) (orders : SourceTable → List Order) :
    Except (Fault τ) (List Order) :=
  (SourceTable.ofValues (h.schemaOr schema) table).map orders

omit [Time τ] in
theorem ordersFor_of_error {schema table : Value} {orders : SourceTable → List Order}
    {e : Fault τ} (ht : SourceTable.ofValues (h.schemaOr schema) table = .error e) :
    h.ordersFor schema table orders = .error e := by
  rw [ordersFor, ht]
  rfl

omit [Time τ] in
theorem ordersFor_of_ok {schema table : Value} {orders : SourceTable → List Order}
    {t : SourceTable} (ht : SourceTable.ofValues (τ := τ) (h.schemaOr schema) table = .ok t) :
    h.ordersFor schema table orders = .ok (orders t) := by
  rw [ordersFor, ht]
  rfl

/-- The order to set the state flag of a table. -/
def flagOrder (state : Activation) (t : SourceTable) : Order :=
  ⟨.setState, some (.text state.flag :: Registration.keyOf t)⟩

/-- The orders that register a table and activate it. -/
def enabling (t : SourceTable) : List Order :=
  [⟨.addTable t, none⟩, flagOrder .active t, ⟨.reinit, none⟩]

/-- The orders that remove the registration of a table. -/
def disabling (t : SourceTable) : List Order :=
  [⟨.removeTable t, none⟩, ⟨.reinit, none⟩]

/-- The orders that activate or deactivate a table. -/
def marking (state : Activation) (t : SourceTable) : List Order :=
  [flagOrder state t, ⟨.reinit, none⟩]

theorem tells_setFlag (t : SourceTable) (state : Activation) :
    h.Tells w (h.registration.setFlag t state) (Performed (.ok [flagOrder state t])) :=
  tells_order .setState _

theorem tells_enableTable (schema table : Value) :
    h.Tells w (h.enableTable schema table) (Performed (h.ordersFor schema table enabling)) := by
  refine Quiet.bind (Quiet.count _) fun _ => tells_named (fun e ht => ?_) fun t ht => ?_
  · exact .failed (.refused (ordersFor_of_error ht))
  · rw [ordersFor_of_ok ht]
    refine Quiet.bind (Quiet.note rfl) fun _ => ?_
    refine (tells_order (.addTable t) none).then_perform fun _ => ?_
    exact (tells_setFlag t .active).then_perform fun _ => tells_refresh.then_pure

theorem tells_disableTable (schema table : Value) :
    h.Tells w (h.disableTable schema table) (Performed (h.ordersFor schema table disabling)) := by
  refine Quiet.bind (Quiet.count _) fun _ => tells_named (fun e ht => ?_) fun t ht => ?_
  · exact .failed (.refused (ordersFor_of_error ht))
  · rw [ordersFor_of_ok ht]
    refine Quiet.bind (Quiet.note rfl) fun _ => ?_
    exact (tells_order (.removeTable t) none).then_perform fun _ => tells_refresh.then_pure

theorem tells_changeTable (schema table : Value) :
    h.Tells w (h.changeTable schema table) fun r is =>
      (h.ordersFor schema table (fun _ => []) = .ok [] ∧ is = [.changeTableRead r]) ∨
        ∃ e, h.ordersFor schema table (fun _ => []) = .error e ∧ r = .error e ∧ is = [] := by
  refine tells_named (fun e ht => Or.inr ⟨e, ordersFor_of_error ht, rfl, rfl⟩) fun t ht => ?_
  exact fun s => ⟨_, .single (.changeTableRead t rfl), Or.inl ⟨ordersFor_of_ok ht, rfl⟩⟩

/-! ### Delays -/

/-- A last step without any incident does not matter. -/
theorem Tells.then_quiet {x : Act σ τ α} {y : α → Act σ τ Unit}
    {P : Except (Fault τ) α → List (Incident τ) → Prop} (hx : h.Tells w x P)
    (hy : ∀ a, h.Quiet w (y a)) :
    h.Tells w (x >>= fun a => y a >>= fun _ => Pure.pure a) P := by
  refine hx.bind (fun _ _ hp => hp) fun a is hp => Quiet.bind (hy a) fun _ => .pure ?_
  rwa [List.append_nil]

/-- A delay after orders. -/
theorem Tells.then_delay {x : Act σ τ α} {f : α → Act σ τ Outcome}
    {orders : Except (Fault τ) (List Order)} {seconds : τ}
    (hx : h.Tells w x (Performed orders))
    (hf : ∀ a, h.Tells w (f a) (Waited seconds)) :
    h.Tells w (x >>= f) (Delayed seconds orders) := by
  refine hx.bind (fun e is hp => ?_) fun a is hp => ?_
  · cases hp with
    | failed hfail => exact .failed hfail
  · cases hp with
    | all hl =>
      exact (hf a).weaken fun r is' hr => .waited hl hr

theorem tells_delay (d : Delay τ) : h.Tells w d.wait (Waited d.seconds) := by
  refine Quiet.bind (Quiet.note rfl) fun _ => (tells_pause d.seconds).bind ?_ ?_
  · rintro e is ⟨rfl, he⟩
    obtain rfl := he e rfl
    exact .overlong
  · rintro completed is ⟨rfl, -⟩
    cases completed with
    | true => exact .pure (.ended true)
    | false => exact Quiet.bind (Quiet.note rfl) fun _ => .pure (.ended false)

theorem tells_waitForPropagation :
    h.Tells w h.waitForPropagation (Waited h.propagation.seconds) :=
  (tells_delay h.propagation).then_quiet fun _ => Quiet.count _

theorem tells_refreshAndWait :
    h.Tells w h.refreshAndWait (Delayed h.propagation.seconds (.ok [⟨.reinit, none⟩])) :=
  Quiet.bind (Quiet.count _) fun _ => tells_refresh.then_delay fun _ => tells_waitForPropagation

theorem tells_setTableState (schema table : Value) (state : Activation) :
    h.Tells w (h.setTableState schema table state)
      (Delayed h.propagation.seconds (h.ordersFor schema table (marking state))) := by
  have hset : h.Tells w (h.registration.setState (h.schemaOr schema) table state)
      (Delayed h.propagation.seconds (h.ordersFor schema table (marking state))) := by
    refine tells_named (fun e ht => ?_) fun t ht => ?_
    · exact .failed (.refused (ordersFor_of_error ht))
    · rw [ordersFor_of_ok ht]
      refine Quiet.bind (Quiet.note rfl) fun _ => ?_
      have hboth := (tells_setFlag (h := h) (w := w) t state).then_perform fun _ => tells_refresh
      have hall := hboth.then_delay fun _ => tells_delay h.propagation
      rwa [bind_assoc] at hall
  exact Quiet.bind (Quiet.count _) fun _ => hset.then_quiet fun _ => Quiet.count _

/-! ### Waits for a state -/

/-- The condition of a wait for a state is a look at the status. -/
theorem looks_reaches (goal : Status) :
    h.Looks w (h.service.reaches goal) (h.service.shows goal) := by
  intro s r s' he
  rcases Service.exists_sees_of_evaluates he with ⟨text, s₁, hs, rfl, rfl⟩ | ⟨e, hs, rfl⟩
  · have hnoted : h.Account w s₁ [] (h.service.checked text s₁) :=
      .of_aside (.noted s₁ (by simp [LogEntry.call?]))
    exact ⟨_, (Account.single (.statusSeen hs)).trans hnoted, rfl⟩
  · exact ⟨_, .single (.statusSeen hs), rfl⟩

/-- The condition of a wait for the snapshot is a look-up. -/
theorem looks_lookup :
    h.Looks w (h.monitor.lookup h.snapshotObject h.snapshotAttribute) Incident.lookup? :=
  fun _ _ _ he => ⟨_, .single (.lookedUp he), rfl⟩

theorem tells_waitFor (hmax : 1 ≤ h.service.maxAttempts) (hinterval : ¬ h.service.interval < 0)
    (description : String) (goal : Status) :
    h.Tells w (h.service.waitFor description goal)
      (Polled h.service.interval (h.service.shows goal) []) := by
  intro s
  rw [Service.waitFor_eq_wait hmax hinterval]
  exact Tells.wait rfl (Service.polling_accepted hmax hinterval) rfl (looks_reaches goal) none s

/-- A wait is counted, and passed on as it is. -/
theorem Tells.observe {x : Act σ τ (WaitResult τ)} {kind : WaitKind}
    {P : Except (Fault τ) (WaitResult τ) → List (Incident τ) → Prop} (hx : h.Tells w x P) :
    h.Tells w (observe kind x) P := by
  refine Tells.then_quiet (hx.handle (fun _ _ hp => hp) fun e is hp => ?_) fun _ => Quiet.count _
  have hthrow : h.Tells w (MonadExcept.throw e : Act σ τ (WaitResult τ)) fun r is' =>
      P r (is ++ is') := .throw (by rwa [List.append_nil])
  split
  · exact Quiet.bind (Quiet.count _) fun _ => hthrow
  · split
    · exact Quiet.bind (Quiet.count _) fun _ => hthrow
    · exact hthrow

theorem tells_stopCaptureAndWait (hmax : 1 ≤ h.service.maxAttempts)
    (hinterval : ¬ h.service.interval < 0) :
    h.Tells w h.stopCaptureAndWait
      (Awaited h.service.interval ⟨.stop, none⟩ (h.service.shows .stopped)) := by
  refine tells_stopCapture.bind (fun e is hp => ?_) fun _ is hp => ?_
  · cases hp with
    | failed hfail => exact .failed hfail Fault.isA_capture_of_command
  · cases hp with
    | all hl =>
      cases hl
      exact (Tells.observe (tells_waitFor hmax hinterval _ _)).weaken fun v is hv =>
        .polled hv (.same v)

theorem tells_startCapture (hmax : 1 ≤ h.service.maxAttempts)
    (hinterval : ¬ h.service.interval < 0) :
    h.Tells w h.startCapture
      (Awaited h.service.interval ⟨.start, none⟩ (h.service.shows .running)) := by
  refine Quiet.bind (Quiet.count _) fun _ => Tells.observe ?_
  refine Quiet.bind (Quiet.note rfl) fun _ => ?_
  -- The start statement; its fault is reported as a start that timed out.
  have hsent : h.Tells w (tryCatch (h.service.send .start none) fun e =>
      throw (if e.isA .command then Service.startFault ⟨Service.startDescription, 0, 0⟩ e else e))
      fun r is => (r = .ok () ∧ is = [Order.done ⟨.start, none⟩]) ∨ ∃ e e', r = .error e' ∧
        Fail (.ok [⟨.start, none⟩]) e is ∧ (e.isA .command = true → e'.isA .capture = true) := by
    refine (tells_order .start none).rethrow (fun _ is hp => ?_) fun e is hp => ?_
    · cases hp with
      | all hl =>
        cases hl
        exact Or.inl ⟨rfl, rfl⟩
    · cases hp with
      | failed hfail =>
        refine Or.inr ⟨e, _, rfl, hfail, fun he => ?_⟩
        rw [if_pos he]
        rfl
  refine hsent.bind ?_ ?_
  · rintro e is (⟨⟨⟩, -⟩ | ⟨e₁, e', ⟨⟩, hfail, he⟩)
    exact .failed hfail he
  · rintro - is (⟨-, rfl⟩ | ⟨e₁, e', ⟨⟩, -⟩)
    -- The wait; its fault is reported likewise if it comes with a report.
    refine Tells.bind (P := fun r is =>
      ∃ v, Polled h.service.interval (h.service.shows .running) [] v is ∧ Reported v r) ?_ ?_ ?_
    · refine (tells_waitFor hmax hinterval _ _).handle (fun a is hv => ⟨_, hv, .same _⟩) ?_
      intro e is hv
      have hthrow {e' : Fault τ} (he' : Reported (α := WaitResult τ) (.error e) (.error e')) :
          h.Tells w (throw e' : Act σ τ (WaitResult τ)) fun r is' => ∃ v,
            Polled h.service.interval (h.service.shows .running) [] v (is ++ is') ∧
              Reported v r := by
        refine .throw ⟨.error e, ?_, he'⟩
        rwa [List.append_nil]
      split
      next hfailed =>
        split
        · exact hthrow (.renamed (Fault.isA_capture_of_wait hfailed) rfl)
        · exact hthrow (.same _)
      · exact hthrow (.same _)
    · rintro e is' ⟨v, hv, hr⟩
      exact .polled hv hr
    · rintro result is' ⟨v, hv, hr⟩
      have hend : h.Tells w (pure result) fun r is'' =>
          Awaited h.service.interval ⟨.start, none⟩ (h.service.shows .running) r
            ([Order.done ⟨.start, none⟩] ++ (is' ++ is'')) := by
        refine .pure ?_
        rw [List.append_nil]
        exact .polled hv hr
      split
      · exact Quiet.bind (Quiet.note rfl) fun _ => hend
      · exact hend

theorem tells_waitForSnapshot (hp : h.snapshot.Accepted) {n : Nat}
    (hn : h.snapshot.allowance.maxAttempts = some n)
    (hmax : h.snapshot.allowance.maxDuration = none) :
    h.Tells w h.waitForSnapshot
      (Polled h.snapshot.interval Incident.lookup? h.snapshot.transient) :=
  Tells.observe (Tells.wait hmax hp hn looks_lookup _)

end Station

end CaptureControl
