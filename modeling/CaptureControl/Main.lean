import CaptureControl.CommandLine.Run
import CaptureControl.Rehearsal.World

/-!
# The program

Reads settings and arguments, runs the command, and shows the log and the outcome. No database
driver is part of this program and no metrics page is within its reach, so commands run in a world
in which nothing answers: statements fail for lack of a driver, and waiting takes its time.
-/

namespace CaptureControl

/-- The variables that settings are read from. -/
def settingsVariables : List String :=
  ["DB2_HOST", "DB2_PORT", "DB2_DATABASE", "DB2_USER", "DB2_PASSWORD", "DB2_SCHEMA", "DB_MODE",
    "CDC_CAPTURE_SCHEMA", "CDC_CAPTURE_SERVER", "CDC_RUNNING_MARKERS",
    "CDC_START_POLL_INTERVAL_SECONDS", "CDC_START_MAX_ATTEMPTS",
    "CDC_SNAPSHOT_POLL_INTERVAL_SECONDS", "CDC_SNAPSHOT_MAX_ATTEMPTS",
    "CDC_PROPAGATION_DELAY_SECONDS", "CDC_METRICS_URL", "CDC_METRICS_TIMEOUT_SECONDS",
    "CDC_SNAPSHOT_ENDPOINT", "CDC_SNAPSHOT_ATTRIBUTE"]

/-- The environment of the process, as far as settings are read from it. -/
def processEnvironment : IO Environment :=
  settingsVariables.filterMapM fun name => do
    return (← IO.getEnv name).map fun value => (name, value)

/-- The text of the dotenv file, which is empty if there is none. -/
def dotenvText : IO String := do
  try IO.FS.readFile ".env"
  catch _ => return ""

/-- Runs a command where nothing answers. -/
def runOffline (settings : Except Misconfiguration (Settings Float))
    (command : CommandLine.Command) :
    Except (Fault Float) Nat × Session (Rehearsal.Script Float) Float :=
  CommandLine.runWith settings (fun _ => ⟨.noDriver⟩) none command
    (Rehearsal.worldUpTo Rehearsal.longestPause) (Session.start .empty 0.0 "cdc_lifecycle")

/-- The milliseconds of a pause. -/
def milliseconds (seconds : Float) : UInt32 :=
  (seconds * 1000.0).toUInt32

/-- Lets the pauses of a session pass. -/
def passPauses (trace : List (Event Float)) : IO Unit :=
  trace.reverse.forM fun
    | .paused seconds true => IO.sleep (milliseconds seconds)
    | _ => return ()

/-- The line that shows a log entry. -/
def logLine (e : LogEntry Float) : String :=
  e.severity.word ++ " cdc_lifecycle." ++ e.channel ++ " - " ++ e.message

/-- Runs the command that arguments ask for; gives the exit status. -/
def runProgram (arguments : List String) : IO UInt32 := do
  match CommandLine.Invocation.read arguments with
  | .error .help =>
    IO.println "usage: cdc-lifecycle [-h] [--log-level LEVEL] COMMAND [TABLE] [OPTIONS]"
    return 0
  | .error .usage =>
    IO.eprintln "the arguments cannot be used; try --help"
    return 2
  | .ok invocation =>
    let settings := Settings.load (← processEnvironment) (← dotenvText)
    let (result, session) := runOffline settings invocation.command
    passPauses session.trace
    for entry in session.log.reverse do
      if invocation.level.rank ≤ entry.severity.rank then IO.eprintln (logLine entry)
    for line in session.output.reverse do IO.println line
    match result with
    | .ok status => return UInt32.ofNat status
    | .error fault =>
      IO.eprintln fault.message
      return 1

end CaptureControl

/-- Runs the program; its exit status tells whether the command succeeded. -/
def main (arguments : List String) : IO UInt32 :=
  CaptureControl.runProgram arguments
