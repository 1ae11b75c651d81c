import CaptureControl.Service

/-!
# Registration of source tables

Adding, removing, activating and deactivating the tables whose changes are captured. A table is
*registered* once it was added, and *active* while its state flag says so; the two are independent.
Every operation checks the names first, sends its statements one after another, and ends with the
program reading its registrations again. Only setting the state flag waits for the change to
propagate; after the other operations that is left to the caller.
-/

namespace CaptureControl

/-- Source tables, registered with a capture program. -/
structure Registration (τ : Type) where
  /-- The capture program. -/
  service : Service τ
  /-- How long a change takes to propagate. -/
  propagation : Delay τ

namespace Registration

variable {σ τ : Type} [Time τ]

/-- The table that two values name. -/
def tableOf (schema table : Value) : Act σ τ SourceTable :=
  Act.ofExcept (SourceTable.ofValues schema table)

/-- The parameters that pick the registration of a table. -/
def keyOf (t : SourceTable) : List Value :=
  [.text t.schema, .text t.table]

/-- Sets the state flag of a table. -/
def setFlag (r : Registration τ) (t : SourceTable) (state : Activation) : Act σ τ Unit :=
  r.service.send .setState (some (.text state.flag :: keyOf t))

/-- Registers a table and activates it. -/
def enable (r : Registration τ) (schema table : Value) : Act σ τ SourceTable := do
  let t ← tableOf schema table
  Act.note (.enabling t)
  r.service.send (.addTable t) none
  r.setFlag t .active
  r.service.refresh
  return t

/-- Removes the registration of a table. -/
def disable (r : Registration τ) (schema table : Value) : Act σ τ SourceTable := do
  let t ← tableOf schema table
  Act.note (.disabling t)
  r.service.send (.removeTable t) none
  r.service.refresh
  return t

/-- Activates or deactivates a table, and waits for the change to propagate. -/
def setState (r : Registration τ) (schema table : Value) (state : Activation) :
    Act σ τ Outcome := do
  let t ← tableOf schema table
  Act.note (.marking t state)
  r.setFlag t state
  r.service.refresh
  r.propagation.wait

/-- Asks for the registration of a table. -/
def lookup {α : Type} (r : Registration τ) (statement : Statement) (schema table : Value)
    (read : List Rows.Row → Except (Fault τ) α) : Act σ τ α := do
  let t ← tableOf schema table
  r.service.gateway.query (r.service.program.text statement) (some (keyOf t)) read

/-- Whether a table is active, if it is registered. -/
def state (r : Registration τ) (schema table : Value) : Act σ τ (Option Activation) := do
  let flag ← r.lookup .registrationState schema table Rows.firstText
  return flag.bind Activation.ofText?

/-- The table that holds the changes of a table, if it is registered. -/
def changeTable (r : Registration τ) (schema table : Value) : Act σ τ (Option String) :=
  r.lookup .changeTable schema table Rows.changeTable

end Registration

end CaptureControl
