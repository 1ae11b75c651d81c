import CaptureControl.CommandLine.Invocation
import CaptureControl.Settings.Environment
import CaptureControl.Station

/-!
# Running commands

A command runs on the station of the settings, tells its outcome in lines for the user, and ends
with a status: zero if everything succeeded, one if a statement or a wait failed or a wait was
interrupted, two if the settings cannot be used. Faults that are not of capture control are passed
on.
-/

namespace CaptureControl.CommandLine

variable {σ τ : Type} [Time τ]

/-- The exit status of a success, or of a failure. -/
def exitOf (success : Bool) : Nat :=
  if success then 0 else 1

/-- Tells the outcome of a delay. -/
def reportDelay (label : String) (outcome : Outcome) : Act σ τ Nat := do
  Act.say (label ++ " " ++ outcome.word)
  return exitOf (outcome = .elapsed)

/-- Tells the result of a poll, and with how many looks. -/
def reportPoll (label : String) (result : WaitResult τ) : Act σ τ Nat := do
  Act.say (label ++ " " ++ result.outcome.word ++ " after " ++ toString result.attempts
    ++ " check(s)")
  return exitOf result.converged

/-- Runs a command about a table. -/
def runTable (h : Station τ) (command : TableCommand) (name : String) (schema : Option String) :
    Act σ τ Nat := do
  let owner : Value := schema.elim .null .text
  let table : Value := .text name
  match command with
  | .enable =>
    let t ← h.enableTable owner table
    Act.say ("capture enabled for " ++ t.qualifiedName)
    reportDelay "propagation" (← h.waitForPropagation)
  | .disable =>
    let t ← h.disableTable owner table
    Act.say ("capture disabled for " ++ t.qualifiedName)
    reportDelay "propagation" (← h.waitForPropagation)
  | .activate => reportDelay "activate" (← h.setTableState owner table .active)
  | .deactivate => reportDelay "deactivate" (← h.setTableState owner table .inactive)
  | .changeTable =>
    match ← h.changeTable owner table with
    | some changes =>
      Act.say changes
      return 0
    | none =>
      Act.say (name ++ " is not registered for capture")
      return 1

/-- Runs a command. -/
def runCommand (h : Station τ) : Command → Act σ τ Nat
  | .start => do reportPoll "capture service" (← h.startCapture)
  | .stop false => do
    h.stopCapture
    Act.say "stop command issued"
    return 0
  | .stop true => do
    let result ← h.stopCaptureAndWait
    Act.say ("capture service stop " ++ result.outcome.word)
    return exitOf result.converged
  | .status => do
    Act.say (← h.captureStatus).word
    return 0
  | .refresh => do reportDelay "refresh" (← h.refreshAndWait)
  | .waitSnapshot => do reportPoll "snapshot" (← h.waitForSnapshot)
  | .table command table schema => runTable h command table schema

/-- Runs a command and closes the station; a fault of capture control ends it with a failure. -/
def runOn (h : Station τ) (command : Command) : Act σ τ Nat := do
  try (runCommand h command).ensuring h.close
  catch e =>
    if e.isA .capture then
      Act.note (.failed command.word e)
      return 1
    else throw e

/-- Runs a command on the station of some settings, unless they cannot be used. -/
def runWith (settings : Except Misconfiguration (Settings τ)) (gateway : Settings τ → Gateway)
    (monitor : Option Monitor) (command : Command) : Act σ τ Nat :=
  match settings.bind fun s => Station.make? s (gateway s) monitor with
  | .ok h => runOn h command
  | .error what => do
    Act.note (.badConfiguration (.misconfigured what))
    return 2

end CaptureControl.CommandLine
