import CaptureControl.Monitor
import CaptureControl.Registration
import CaptureControl.Settings.Basic

/-!
# The control station

One place from which capture is controlled: the capture program, the registration of tables, the
wait for the connector's snapshot, and the counters of all that. Operations on tables take the
standard schema where none is given.

Tables are dropped only after capture was disabled for each of them and the removals had time to
propagate.
-/

namespace CaptureControl

/-- A control station. -/
structure Station (τ : Type) where
  /-- The capture program. -/
  service : Service τ
  /-- How long a change takes to propagate. -/
  propagation : Delay τ
  /-- How the snapshot is waited for. -/
  snapshot : Poll τ
  /-- Where attributes are looked up. -/
  monitor : Monitor
  /-- The schema of tables that are named without schema. -/
  defaultSchema : String
  /-- The metrics object that tells of the snapshot. -/
  snapshotObject : String
  /-- The attribute that tells that the snapshot is complete. -/
  snapshotAttribute : String

/-- The kinds of waits, as they are counted. -/
inductive WaitKind where
  /-- For the capture program to run. -/
  | serviceStart
  /-- For the capture program to stop. -/
  | serviceStop
  /-- For a change to propagate. -/
  | propagation
  /-- For the snapshot to be complete. -/
  | snapshot
  deriving Repr, DecidableEq

/-- The word for a kind of waits. -/
def WaitKind.word : WaitKind → String
  | serviceStart => "service_start"
  | serviceStop => "service_stop"
  | propagation => "propagation"
  | snapshot => "snapshot"

namespace Station

variable {σ τ : Type} [Time τ]

/-- What a snapshot wait waits for. -/
def snapshotDescription : String := "snapshot completion"

/-- The monitor of the settings: the metrics page, or else the registry of the surroundings. -/
def monitorOf (s : Settings τ) : Except Misconfiguration Monitor :=
  if s.metricsAddress.isEmpty then .ok .registry else Monitor.ofAddress? s.metricsAddress

/-- The station of some settings, with a given monitor or that of the settings. -/
def make? (s : Settings τ) (gateway : Gateway) (monitor : Option Monitor) :
    Except Misconfiguration (Station τ) := do
  let monitor ← match monitor with
    | some monitor => pure monitor
    | none => monitorOf s
  let service ← Service.make? gateway s.program s.markers s.startInterval s.startMaxAttempts
  let propagation ← Delay.make? s.propagationDelay
  let allowance ← Allowance.make? (some s.snapshotMaxAttempts) none
  let snapshot ←
    Poll.make? s.snapshotInterval allowance Poll.defaultTransient snapshotDescription
  return {
    service, propagation, snapshot, monitor
    defaultSchema := s.schema
    snapshotObject := s.snapshotObject
    snapshotAttribute := s.snapshotAttribute }

/-- The registrations of the station. -/
def registration (h : Station τ) : Registration τ := ⟨h.service, h.propagation⟩

/-! ### Counting -/

/-- Counts a command. -/
def countCommand (command : String) : Act σ τ Unit :=
  Act.count (Tally.countCommand command)

/-- Counts a wait. -/
def countWait (kind : WaitKind) (outcome : String) (elapsed : Option τ) : Act σ τ Unit :=
  Act.count (Tally.recordWait kind.word outcome elapsed)

/-- Counts a delay by its outcome. -/
def countDelay (outcome : Outcome) : Act σ τ Unit :=
  countWait .propagation outcome.word none

/-- Waits, and counts the wait by its outcome, which is a time-out or an error if it failed. -/
def observe (kind : WaitKind) (x : Act σ τ (WaitResult τ)) : Act σ τ (WaitResult τ) := do
  let result ←
    try x
    catch e =>
      if e.isA .timeout then countWait kind "timeout" none
      else if e.isA .aborted then countWait kind "error" none
      throw e
  countWait kind result.outcome.word (some result.elapsed)
  return result

/-! ### The capture program -/

/-- Starts the program and waits until it runs. -/
def startCapture (h : Station τ) : Act σ τ (WaitResult τ) := do
  countCommand "start"
  observe .serviceStart h.service.start

/-- Has the program stop. -/
def stopCapture (h : Station τ) : Act σ τ Unit := do
  countCommand "stop"
  h.service.stop

/-- Has the program stop and waits until it has. -/
def stopCaptureAndWait (h : Station τ) : Act σ τ (WaitResult τ) := do
  h.stopCapture
  observe .serviceStop h.service.waitUntilStopped

/-- The state of the program. -/
def captureStatus (h : Station τ) : Act σ τ Status :=
  h.service.status

/-- Waits for a change to propagate. -/
def waitForPropagation (h : Station τ) : Act σ τ Outcome := do
  let outcome ← h.propagation.wait
  countDelay outcome
  return outcome

/-- Has the program read its registrations again, and waits for that to take hold. -/
def refreshAndWait (h : Station τ) : Act σ τ Outcome := do
  countCommand "reinit"
  h.service.refresh
  h.waitForPropagation

/-- Waits for the snapshot to be complete. -/
def waitForSnapshot (h : Station τ) : Act σ τ (WaitResult τ) :=
  observe .snapshot <|
    h.snapshot.wait (h.monitor.lookup h.snapshotObject h.snapshotAttribute)
      (some snapshotDescription)

/-! ### Tables -/

/-- The schema that a value names; the absent value names the standard schema. -/
def schemaOr (h : Station τ) : Value → Value
  | .null => .text h.defaultSchema
  | schema => schema

/-- Registers a table and activates it. -/
def enableTable (h : Station τ) (schema table : Value) : Act σ τ SourceTable := do
  countCommand "add_table"
  h.registration.enable (h.schemaOr schema) table

/-- Removes the registration of a table. -/
def disableTable (h : Station τ) (schema table : Value) : Act σ τ SourceTable := do
  countCommand "remove_table"
  h.registration.disable (h.schemaOr schema) table

/-- The name under which setting a state is counted. -/
def stateCommand : Activation → String
  | .active => "activate"
  | .inactive => "deactivate"

/-- Activates or deactivates a table, and waits for the change to propagate. -/
def setTableState (h : Station τ) (schema table : Value) (state : Activation) :
    Act σ τ Outcome := do
  countCommand (stateCommand state)
  let outcome ← h.registration.setState (h.schemaOr schema) table state
  countDelay outcome
  return outcome

/-- The table that holds the changes of a table, if it is registered. -/
def changeTable (h : Station τ) (schema table : Value) : Act σ τ (Option String) :=
  h.registration.changeTable (h.schemaOr schema) table

/-- Asks for the base tables of a schema. -/
def listTables (h : Station τ) (schema : String) : Act σ τ (List String) :=
  h.service.gateway.query (h.service.program.text .listTables) (some [.text schema]) Rows.names

/-- Disables capture for the tables of a schema. -/
def releaseTables (h : Station τ) (schema : String) (tables : List String) :
    Act σ τ (List SourceTable) :=
  tables.mapM fun table => do
    Act.note (.releasing schema table)
    h.disableTable (.text schema) (.text table)

/-- Drops tables. -/
def dropTables (h : Station τ) (tables : List SourceTable) : Act σ τ Unit :=
  tables.forM fun t => do
    Act.note (.dropping t)
    h.service.send (.dropTable t) none

/-- Drops tables for which capture was disabled, once that has propagated. Gives their names, or none
if the propagation was interrupted and they were kept. -/
def dropReleased (h : Station τ) (schema : String) (tables : List String)
    (released : List SourceTable) : Act σ τ (List String) := do
  if (← h.waitForPropagation) = .elapsed then
    h.dropTables released
    return tables
  else
    Act.note (.keeping schema)
    return []

/-- Disables capture for all base tables of a schema, and drops them. -/
def dropAllTables (h : Station τ) (schema : Value) : Act σ τ (List String) := do
  let owner ← Act.ofExcept (checkIdentifier "schema" (h.schemaOr schema))
  Act.note (.clearing owner)
  let tables ← h.listTables owner
  if tables.isEmpty then return []
  let released ← h.releaseTables owner tables
  h.dropReleased owner tables released

/-! ### Closing -/

/-- Closes what has to be closed. -/
def close (h : Station τ) : Act σ τ Unit :=
  h.monitor.close

end Station

/-! ### Operations -/

/-- An operation of a control station. -/
inductive Operation where
  /-- Starts the capture program and waits until it runs. -/
  | start
  /-- Has the capture program stop. -/
  | stop
  /-- Has the capture program stop and waits until it has. -/
  | stopAndWait
  /-- Asks for the state of the capture program. -/
  | status
  /-- Has the capture program read its registrations again, and waits. -/
  | refresh
  /-- Waits for a change to propagate. -/
  | waitForPropagation
  /-- Waits for the snapshot to be complete. -/
  | waitForSnapshot
  /-- Registers a table and activates it. -/
  | enable (schema table : Value)
  /-- Removes the registration of a table. -/
  | disable (schema table : Value)
  /-- Activates or deactivates a table, and waits. -/
  | setState (schema table : Value) (state : Activation)
  /-- Asks for the change table of a table. -/
  | changeTable (schema table : Value)
  /-- Drops all tables of a schema. -/
  | dropAll (schema : Value)

/-- What an operation answers. -/
inductive Operation.Result (τ : Type) where
  /-- Nothing. -/
  | done
  /-- The result of a poll. -/
  | polled (result : WaitResult τ)
  /-- The outcome of a delay. -/
  | delayed (outcome : Outcome)
  /-- The state of the capture program. -/
  | status (status : Status)
  /-- A source table. -/
  | table (table : SourceTable)
  /-- A name, if there is one. -/
  | name (name : Option String)
  /-- Names. -/
  | names (names : List String)

/-- Performs an operation. -/
def Station.perform {σ τ : Type} [Time τ] (h : Station τ) :
    Operation → Act σ τ (Operation.Result τ)
  | .start => do return .polled (← h.startCapture)
  | .stop => do
    h.stopCapture
    return .done
  | .stopAndWait => do return .polled (← h.stopCaptureAndWait)
  | .status => do return .status (← h.captureStatus)
  | .refresh => do return .delayed (← h.refreshAndWait)
  | .waitForPropagation => do return .delayed (← h.waitForPropagation)
  | .waitForSnapshot => do return .polled (← h.waitForSnapshot)
  | .enable schema table => do return .table (← h.enableTable schema table)
  | .disable schema table => do return .table (← h.disableTable schema table)
  | .setState schema table state => do return .delayed (← h.setTableState schema table state)
  | .changeTable schema table => do return .name (← h.changeTable schema table)
  | .dropAll schema => do return .names (← h.dropAllTables schema)

end CaptureControl
