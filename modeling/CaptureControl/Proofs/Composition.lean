import CaptureControl.Proofs.Statements
import CaptureControl.Station

/-!
# What operations are composed of

All that a station does is composed of requests to the database, of waits, and of bookkeeping. A
property of actions that these have and that composition keeps is therefore a property of every
operation. Which statements may be run is left open, and so are the waits and what is done with
tables that were released: what is true of them under a given property is for its own proof to say.

## Main definitions

* `Act.Composes allowed P` — `P` holds of bookkeeping and of requests to the database that run
  allowed statements, and composition keeps it

## Main results

* `Act.Composes.execute`, `Act.Composes.query` — calls of a gateway have the property
* `Act.Composes.perform` — so have all operations of a station, if their waits have it
-/

namespace CaptureControl

/-- A request of the kinds that a gateway makes. -/
def Request.ofGateway : Request → Bool
  | lookup _ _ | page _ | closeMetrics => false
  | _ => true

namespace Act

variable {σ τ : Type}

/-- A property holds of bookkeeping and of the requests to a database, as far as they run allowed
statements, and composition keeps it. -/
structure Composes (allowed : String → Prop) (P : (α : Type) → Act σ τ α → Prop) : Prop where
  /-- Outcomes of computations. -/
  ofExcept : ∀ {α : Type} (r : Except (Fault τ) α), P α (Act.ofExcept r)
  /-- One action after another. -/
  bind : ∀ {α β : Type} {x : Act σ τ α} {f : α → Act σ τ β}, P α x → (∀ a, P β (f a)) →
    P β (x >>= f)
  /-- Handling faults. -/
  handle : ∀ {α : Type} {x : Act σ τ α} {f : Fault τ → Act σ τ α}, P α x → (∀ e, P α (f e)) →
    P α (tryCatch x f)
  /-- Last steps. -/
  ensuring : ∀ {α : Type} {x : Act σ τ α} {last : Act σ τ Unit}, P α x → P Unit last →
    P α (x.ensuring last)
  /-- Log entries. -/
  note : ∀ e, P Unit (Act.note e)
  /-- Counters. -/
  count : ∀ f, P Unit (Act.count f)
  /-- Asking which connection is held. -/
  held : ∀ {α : Type} {f : Session σ τ → Act σ τ α}, (∀ s t, s.held = t.held → f s = f t) →
    (∀ s, P α (f s)) → P α (Act.session >>= f)
  /-- Giving a number to a connection. -/
  number : P Nat (do
    let s ← Act.session
    Act.modify fun s => { s with opened := s.opened + 1 }
    return s.opened)
  /-- Requests to a database. -/
  ask : ∀ r : Request, r.ofGateway → (∀ text ∈ r.statement?, allowed text) →
    P r.Answer (Act.ask r)

namespace Composes

variable {allowed : String → Prop} {P : (α : Type) → Act σ τ α → Prop} (hP : Composes allowed P)
  {α : Type} {statement : String} {params : Option (List Value)}

include hP

theorem pure (a : α) : P α (Pure.pure a) :=
  hP.ofExcept (.ok a)

theorem throw (e : Fault τ) : P α (MonadExcept.throw e) :=
  hP.ofExcept (.error e)

theorem mapM {β : Type} {f : β → Act σ τ α} (hf : ∀ b, P α (f b)) (l : List β) :
    P (List α) (l.mapM f) := by
  induction l with
  | nil => rw [List.mapM_nil]; exact hP.pure []
  | cons b bs ih =>
    rw [List.mapM_cons]
    exact hP.bind (hf b) fun a => hP.bind ih fun as => hP.pure (a :: as)

theorem forM {β : Type} {f : β → Act σ τ PUnit} (hf : ∀ b, P PUnit (f b)) (l : List β) :
    P PUnit (l.forM f) := by
  induction l with
  | nil => exact hP.pure _
  | cons b bs ih => exact hP.bind (hf b) fun _ => ih

/-! ### Gateways -/

theorem openConnection (g : Gateway) : P Nat g.openConnection := by
  have hconnect : P Unit g.connect := by
    unfold Gateway.connect
    split
    · exact hP.ask (.connect _) rfl nofun
    · exact hP.ask (.connect _) rfl nofun
    · exact hP.throw _
  unfold Gateway.openConnection
  exact hP.bind (hP.handle hconnect fun e => hP.throw _) fun _ => hP.number

theorem onConnection (g : Gateway) {x : Nat → Act σ τ α} (hx : ∀ c, P α (x c)) :
    P α (g.onConnection x) := by
  unfold Gateway.onConnection
  refine hP.held (fun s t hst => by rw [hst]) fun s => ?_
  split
  · exact hx _
  · exact hP.bind (hP.openConnection g) fun c =>
      hP.ensuring (hx c) (hP.ask (.close c) rfl nofun)

theorem transact {purpose : Purpose} {x : Act σ τ α} (hx : P α x) (c : Nat) :
    P α (Gateway.transact purpose statement x c) := by
  unfold Gateway.transact
  refine hP.handle (hP.bind (hP.ask (.cursor c) rfl nofun) fun _ => hP.bind ?_ fun a => ?_)
    fun e => hP.throw _
  · exact hP.ensuring hx (hP.ask (.closeCursor c) rfl nofun)
  · exact hP.bind (hP.ask (.commit c) rfl nofun) fun _ => hP.pure a

/-- Running a statement for its effect. -/
theorem execute (hs : allowed statement) (g : Gateway) : P Unit (g.execute statement params) := by
  have hrun (c : Nat) : P Unit (Act.ask (.execute c statement params)) :=
    hP.ask (.execute c statement params) rfl (by rintro _ ⟨⟩; exact hs)
  exact hP.bind (hP.note _) fun _ => hP.onConnection g fun c => hP.transact (hrun c) c

/-- Running a statement for its rows. -/
theorem query (hs : allowed statement) (g : Gateway)
    (read : List Rows.Row → Except (Fault τ) α) : P α (g.query statement params read) := by
  have hrun (c : Nat) : P Unit (Act.ask (.execute c statement params)) :=
    hP.ask (.execute c statement params) rfl (by rintro _ ⟨⟩; exact hs)
  have hfetch (c : Nat) : P _ (Gateway.fetchRows c statement params) :=
    hP.bind (hrun c) fun _ => hP.bind (hP.ask (.fetch c) rfl nofun) fun rows => hP.pure _
  refine hP.bind (hP.note _) fun _ => hP.bind ?_ fun rows => hP.ofExcept _
  exact hP.onConnection g fun c => hP.transact (hfetch c) c

/-! ### The capture program -/

section Service

variable (s : Service τ)

theorem send {statement : Statement} (hs : allowed (s.program.text statement)) :
    P Unit (s.send statement params) :=
  hP.execute hs s.gateway

theorem stop (hs : allowed (s.program.text .stop)) : P Unit s.stop :=
  hP.bind (hP.note _) fun _ => hP.send s hs

theorem refresh (hs : allowed (s.program.text .reinit)) : P Unit s.refresh :=
  hP.bind (hP.note _) fun _ => hP.send s hs

theorem status (hs : allowed (s.program.text .status)) : P Status s.status :=
  hP.bind (hP.query hs s.gateway _) fun _ => hP.bind (hP.note _) fun _ => hP.pure _

theorem start [Time τ] (hs : allowed (s.program.text .start))
    (hw : P _ (s.waitFor Service.startDescription .running)) : P _ s.start := by
  refine hP.bind (hP.note _) fun _ => hP.bind (hP.handle (hP.send s hs) fun e => hP.throw _)
    fun _ => hP.bind (hP.handle hw fun e => ?_) fun result => ?_
  · split
    · split
      · exact hP.throw _
      · exact hP.throw _
    · exact hP.throw _
  · split
    · exact hP.bind (hP.note _) fun _ => hP.pure _
    · exact hP.pure _

end Service

/-! ### Stations -/

section Station

variable (h : Station τ)

theorem countCommand (command : String) : P Unit (Station.countCommand command) :=
  hP.count _

theorem observe [Time τ] {kind : WaitKind} {x : Act σ τ (WaitResult τ)} (hx : P _ x) :
    P _ (Station.observe kind x) := by
  refine hP.bind (hP.handle hx fun e => ?_) fun result => hP.bind (hP.count _) fun _ => hP.pure _
  split
  · exact hP.bind (hP.count _) fun _ => hP.throw e
  · split
    · exact hP.bind (hP.count _) fun _ => hP.throw e
    · exact hP.throw e

theorem startCapture [Time τ] (hs : allowed (h.service.program.text .start))
    (hw : P _ (h.service.waitFor Service.startDescription .running)) : P _ h.startCapture :=
  hP.bind (hP.countCommand _) fun _ => hP.observe (hP.start _ hs hw)

theorem stopCapture (hs : allowed (h.service.program.text .stop)) : P _ h.stopCapture :=
  hP.bind (hP.countCommand _) fun _ => hP.stop _ hs

theorem stopCaptureAndWait [Time τ] (hs : allowed (h.service.program.text .stop))
    (hw : P _ (h.service.waitFor Service.stopDescription .stopped)) : P _ h.stopCaptureAndWait :=
  hP.bind (hP.stopCapture h hs) fun _ => hP.observe hw

theorem waitForPropagation [Time τ] (hd : P _ h.propagation.wait) : P _ h.waitForPropagation :=
  hP.bind hd fun _ => hP.bind (hP.count _) fun _ => hP.pure _

theorem dropTables (hs : ∀ t, allowed (h.service.program.text (.dropTable t)))
    (tables : List SourceTable) : P _ (h.dropTables tables) :=
  hP.forM (fun t => hP.bind (hP.note _) fun _ => hP.send _ (hs t)) tables

theorem dropReleased [Time τ] (hs : ∀ t, allowed (h.service.program.text (.dropTable t)))
    (hd : P _ h.propagation.wait) (owner : String) (tables : List String)
    (released : List SourceTable) : P _ (h.dropReleased owner tables released) := by
  refine hP.bind (hP.waitForPropagation h hd) fun outcome => ?_
  split
  · exact hP.bind (hP.dropTables h hs released) fun _ => hP.pure _
  · exact hP.bind (hP.note _) fun _ => hP.pure _

section Tables

variable (hs : ∀ statement : Statement, (∀ t, statement ≠ .dropTable t) →
  allowed (h.service.program.text statement))

include hs

theorem enableTable (schema table : Value) : P _ (h.enableTable schema table) :=
  hP.bind (hP.countCommand _) fun _ => hP.bind (hP.ofExcept _) fun t => hP.bind (hP.note _)
    fun _ => hP.bind (hP.send _ (hs (.addTable t) nofun)) fun _ => hP.bind
      (hP.send _ (hs .setState nofun)) fun _ => hP.bind (hP.refresh _ (hs .reinit nofun))
        fun _ => hP.pure t

theorem disableTable (schema table : Value) : P _ (h.disableTable schema table) :=
  hP.bind (hP.countCommand _) fun _ => hP.bind (hP.ofExcept _) fun t => hP.bind (hP.note _)
    fun _ => hP.bind (hP.send _ (hs (.removeTable t) nofun)) fun _ => hP.bind
      (hP.refresh _ (hs .reinit nofun)) fun _ => hP.pure t

theorem setTableState [Time τ] (hd : P _ h.propagation.wait) (schema table : Value)
    (state : Activation) : P _ (h.setTableState schema table state) := by
  refine hP.bind (hP.countCommand _) fun _ => hP.bind ?_ fun _ => hP.bind (hP.count _) fun _ =>
    hP.pure _
  exact hP.bind (hP.ofExcept _) fun t => hP.bind (hP.note _) fun _ => hP.bind
    (hP.send _ (hs .setState nofun)) fun _ => hP.bind (hP.refresh _ (hs .reinit nofun)) fun _ => hd

theorem changeTable (schema table : Value) : P _ (h.changeTable schema table) :=
  hP.bind (hP.ofExcept _) fun _ => hP.query (hs .changeTable nofun) _ _

theorem listTables (schema : String) : P _ (h.listTables schema) :=
  hP.query (hs .listTables nofun) _ _

theorem releaseTables (schema : String) (tables : List String) :
    P _ (h.releaseTables schema tables) :=
  hP.mapM (fun _ => hP.bind (hP.note _) fun _ => hP.disableTable h hs _ _) tables

theorem dropAllTables [Time τ]
    (hd : ∀ owner tables released, P _ (h.dropReleased owner tables released)) (schema : Value) :
    P _ (h.dropAllTables schema) := by
  refine hP.bind (hP.ofExcept _) fun owner => hP.bind (hP.note _) fun _ => hP.bind
    (hP.listTables h hs owner) fun tables => ?_
  split
  · exact hP.pure _
  · exact hP.bind (hP.releaseTables h hs owner tables) fun released => hd owner tables released

/-- **All operations of a station have a property that composition keeps**, if their waits have it,
and so has what is done with tables that were released. -/
theorem perform [Time τ] (hdelay : P _ h.propagation.wait)
    (hpoll : ∀ description goal, P _ (h.service.waitFor description goal))
    (hsnapshot : P _ h.waitForSnapshot)
    (hdrop : ∀ owner tables released, P _ (h.dropReleased owner tables released)) :
    ∀ op, P _ (h.perform op) := by
  intro op
  cases op with
  | start =>
    exact hP.bind (hP.startCapture h (hs .start nofun) (hpoll _ _)) fun _ => hP.pure _
  | stop => exact hP.bind (hP.stopCapture h (hs .stop nofun)) fun _ => hP.pure _
  | stopAndWait =>
    exact hP.bind (hP.stopCaptureAndWait h (hs .stop nofun) (hpoll _ _)) fun _ => hP.pure _
  | status => exact hP.bind (hP.status _ (hs .status nofun)) fun _ => hP.pure _
  | refresh =>
    refine hP.bind ?_ fun _ => hP.pure _
    exact hP.bind (hP.countCommand _) fun _ => hP.bind (hP.refresh _ (hs .reinit nofun)) fun _ =>
      hP.waitForPropagation h hdelay
  | waitForPropagation => exact hP.bind (hP.waitForPropagation h hdelay) fun _ => hP.pure _
  | waitForSnapshot => exact hP.bind hsnapshot fun _ => hP.pure _
  | enable schema table => exact hP.bind (hP.enableTable h hs schema table) fun _ => hP.pure _
  | disable schema table => exact hP.bind (hP.disableTable h hs schema table) fun _ => hP.pure _
  | setState schema table state =>
    exact hP.bind (hP.setTableState h hs hdelay schema table state) fun _ => hP.pure _
  | changeTable schema table =>
    exact hP.bind (hP.changeTable h hs schema table) fun _ => hP.pure _
  | dropAll schema => exact hP.bind (hP.dropAllTables h hs hdrop schema) fun _ => hP.pure _

end Tables

end Station

end Composes

end Act

end CaptureControl
