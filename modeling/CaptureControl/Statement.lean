import CaptureControl.Identifier

/-!
# Control statements

The statements that drive a capture program. The program is controlled through a function and two
procedures of its schema and through the registration table there. The procedures take no bound
parameters, so source tables are written into their calls; all other values are bound.
-/

namespace CaptureControl

/-- A capture program: the schema of its control tables and procedures, and the name of its
server. -/
structure Program where
  /-- The schema of the control tables and procedures. -/
  schema : String
  /-- The name under which the program runs. -/
  server : String
  deriving Repr, DecidableEq

/-- A control statement. -/
inductive Statement where
  /-- Starts the program. -/
  | start
  /-- Stops the program. -/
  | stop
  /-- Asks for the status text. -/
  | status
  /-- Has the program read its registrations again. -/
  | reinit
  /-- Registers a source table. -/
  | addTable (table : SourceTable)
  /-- Removes the registration of a source table. -/
  | removeTable (table : SourceTable)
  /-- Sets the state flag of a registration. -/
  | setState
  /-- Asks for the state flag of a registration. -/
  | registrationState
  /-- Asks for the change table of a registration. -/
  | changeTable
  /-- Asks for the base tables of a schema. -/
  | listTables
  /-- Drops a source table. -/
  | dropTable (table : SourceTable)
  deriving Repr, DecidableEq

namespace Program

/-- The call of the service function for an action. -/
def service (p : Program) (action : String) : String :=
  "VALUES " ++ p.schema ++ ".ASNCDCSERVICES('" ++ action ++ "','" ++ p.server ++ "')"

/-- The call of a registration procedure for a source table. -/
def procedure (p : Program) (name : String) (t : SourceTable) : String :=
  "CALL " ++ p.schema ++ "." ++ name ++ "('" ++ t.schema ++ "', '" ++ t.table ++ "')"

/-- The name of the registration table. -/
def register (p : Program) : String :=
  p.schema ++ ".IBMSNAP_REGISTER"

/-- The condition that picks the registration of a source table. -/
def ofSource : String :=
  " WHERE SOURCE_OWNER = ? AND SOURCE_TABLE = ?"

/-- The text of a statement for a program. -/
def text (p : Program) : Statement → String
  | .start => p.service "start"
  | .stop => p.service "stop"
  | .status => p.service "status"
  | .reinit => p.service "reinit"
  | .addTable t => p.procedure "ADDTABLE" t
  | .removeTable t => p.procedure "REMOVETABLE" t
  | .setState => "UPDATE " ++ p.register ++ " SET STATE = ?" ++ ofSource
  | .registrationState => "SELECT STATE FROM " ++ p.register ++ ofSource
  | .changeTable => "SELECT CD_OWNER, CD_TABLE FROM " ++ p.register ++ ofSource
  | .listTables => "SELECT TABNAME FROM SYSCAT.TABLES WHERE TABSCHEMA = ? AND TYPE = 'T'"
  | .dropTable t => "DROP TABLE IF EXISTS " ++ t.schema ++ "." ++ t.table

end Program

end CaptureControl
