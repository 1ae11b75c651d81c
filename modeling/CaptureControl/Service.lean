import CaptureControl.Gateway
import CaptureControl.Statement
import CaptureControl.Waiting

/-!
# The capture program

Starting, stopping, refreshing and watching the capture program of a database. Starting waits until
the program reports itself running; stopping and refreshing only send their statement, and leave any
waiting to the caller.
-/

namespace CaptureControl

/-- A capture program with the way to reach it and to wait for it. -/
structure Service (τ : Type) where
  /-- The way to the database. -/
  gateway : Gateway
  /-- The program. -/
  program : Program
  /-- The phrases by which its status text tells that it runs. -/
  markers : List String
  /-- The pause between two looks at its status. -/
  interval : τ
  /-- The greatest number of looks at its status in one wait. -/
  maxAttempts : Nat

namespace Service

variable {σ τ : Type} [Time τ]

/-- A capture program, with at least one phrase that tells that it runs, and at least one look at
its status per wait. -/
def make? (gateway : Gateway) (program : Program) (markers : List String) (interval : τ)
    (maxAttempts : Int) : Except Misconfiguration (Service τ) :=
  if markers.isEmpty then .error .markers
  else if maxAttempts < 1 then .error .attemptLimit
  else .ok ⟨gateway, program, markers, interval, maxAttempts.toNat⟩

/-- Runs a control statement for its effect. -/
def send (s : Service τ) (statement : Statement) (params : Option (List Value)) : Act σ τ Unit :=
  s.gateway.execute (s.program.text statement) params

/-- The status text. -/
def statusText (s : Service τ) : Act σ τ (Option String) :=
  s.gateway.query (s.program.text .status) none Rows.firstText

/-- The state that the status text tells. -/
def status (s : Service τ) : Act σ τ Status := do
  let text ← s.statusText
  let status := Status.classify text s.markers
  Act.note (.checked text status)
  return status

/-- The poll for a state of the program. An interval that cannot be used shows here. -/
def poll (s : Service τ) (description : String) : Act σ τ (Poll τ) :=
  Act.ofExcept <| (do
    let allowance ← Allowance.make? (some s.maxAttempts) none
    Poll.make? s.interval allowance [] description).mapError .misconfigured

/-- Waits until the program is in a state. -/
def waitFor (s : Service τ) (description : String) (goal : Status) : Act σ τ (WaitResult τ) := do
  let poll ← s.poll description
  poll.wait (do return (← s.status) = goal) none

/-- What a start waits for. -/
def startDescription : String := "capture service start"

/-- What the wait for a stop waits for. -/
def stopDescription : String := "capture service stop"

/-- A start that failed, because of the fault at hand. -/
def startFault (report : WaitReport τ) (cause : Fault τ) : Fault τ :=
  .because (.wait .startTimedOut { report with description := startDescription }) cause

/-- Starts the program and waits until it runs. A start statement that fails and a wait that fails
both are a start that timed out. -/
def start (s : Service τ) : Act σ τ (WaitResult τ) := do
  Act.note (.starting s.program.server)
  try s.send .start none
  catch e => throw (if e.isA .command then startFault ⟨startDescription, 0, 0⟩ e else e)
  let result ←
    try s.waitFor startDescription .running
    catch e =>
      if e.isA .timeout || e.isA .aborted then
        match e.report? with
        | some report => throw (startFault report e)
        | none => throw e
      else throw e
  if result.converged then
    Act.note (.running s.program.server result.attempts)
  return result

/-- Has the program stop. -/
def stop (s : Service τ) : Act σ τ Unit := do
  Act.note (.stopping s.program.server)
  s.send .stop none

/-- Waits until the program has stopped. -/
def waitUntilStopped (s : Service τ) : Act σ τ (WaitResult τ) :=
  s.waitFor stopDescription .stopped

/-- Has the program read its registrations again. -/
def refresh (s : Service τ) : Act σ τ Unit := do
  Act.note (.refreshing s.program.server)
  s.send .reinit none

end Service

end CaptureControl
