import CaptureControl.Statement

/-!
# Settings

What can be configured: the way to the database, the capture program, how its status and the
snapshot of the connector are polled, and where the metrics are. Durations are times of any type;
the standard settings are given for doubles.
-/

namespace CaptureControl

/-- Whether the database of the settings is a real one. -/
inductive DatabaseMode where
  /-- It is imitated. -/
  | mock
  /-- It is real. -/
  | live
  deriving Repr, DecidableEq

/-- The word for a mode. -/
def DatabaseMode.word : DatabaseMode → String
  | mock => "mock"
  | live => "local"

/-- The settings. -/
structure Settings (τ : Type) where
  /-- The host of the database. -/
  host : String
  /-- The port on which the database listens. -/
  port : Int
  /-- The name of the database. -/
  database : String
  /-- The user of the database. -/
  user : String
  /-- The user's password. -/
  password : String
  /-- The schema of source tables that are named without schema. -/
  schema : String
  /-- Whether the database is a real one. -/
  mode : DatabaseMode
  /-- The capture program. -/
  program : Program
  /-- The phrases by which a status text tells that the program runs. -/
  markers : List String
  /-- The pause between two looks at the status. -/
  startInterval : τ
  /-- The greatest number of looks at the status in one wait. -/
  startMaxAttempts : Int
  /-- The pause between two looks at the snapshot. -/
  snapshotInterval : τ
  /-- The greatest number of looks at the snapshot in one wait. -/
  snapshotMaxAttempts : Int
  /-- How long a change takes to propagate. -/
  propagationDelay : τ
  /-- The address of the metrics page; empty if there is none. -/
  metricsAddress : String
  /-- How long the server of the metrics page may take to answer. -/
  metricsTimeout : τ
  /-- The metrics object that tells of the snapshot. -/
  snapshotObject : String
  /-- The attribute that tells that the snapshot is complete. -/
  snapshotAttribute : String

namespace Settings

/-- The standard phrases of a running program. -/
def standardMarkers : List String :=
  ["is actively running", "is doing work"]

/-- The standard settings. -/
def standard : Settings Float where
  host := "localhost"
  port := 50000
  database := "testdb"
  user := "db2inst1"
  password := "admin"
  schema := "DB2INST1"
  mode := .mock
  program := { schema := "ASNCDC", server := "asncdc" }
  markers := standardMarkers
  startInterval := 1.0
  startMaxAttempts := 30
  snapshotInterval := 1.0
  snapshotMaxAttempts := 60
  propagationDelay := 15.0
  metricsAddress := ""
  metricsTimeout := 5.0
  snapshotObject := "debezium.db2_server:type=connector-metrics,context=snapshot,server=testdb"
  snapshotAttribute := "SnapshotCompleted"

/-- The connection string of the database: keys and values, each pair ended by a semicolon. -/
def dsn {τ : Type} (s : Settings τ) : String :=
  "DATABASE=" ++ s.database ++ ";HOSTNAME=" ++ s.host ++ ";PORT=" ++ toString s.port
    ++ ";PROTOCOL=TCPIP;UID=" ++ s.user ++ ";PWD=" ++ s.password ++ ";"

end Settings

end CaptureControl
