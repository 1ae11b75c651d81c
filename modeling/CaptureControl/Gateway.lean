import CaptureControl.Session

/-!
# The database gateway

Runs single statements on database connections. Outside a session every call opens a connection of
its own and closes it, whatever happens; between `enter` and `exit` one connection is held and used
by all calls.

A call runs its statement on a new cursor, closes the cursor, and then commits, so that nothing is
committed unless the statement, the delivery of its rows and the closing of the cursor succeeded.
Rows are read only after that, on the caller's side. A fault of the database becomes a fault about
the statement, which keeps its cause; a fault in closing the connection is passed on as it is.
-/

namespace CaptureControl

/-- Where connections come from. -/
inductive ConnectionSource where
  /-- From the surroundings, ready for use. -/
  | supplied
  /-- From a database driver, by a connection string. -/
  | driver (dsn : String)
  /-- From a database driver that is not installed. -/
  | noDriver
  deriving Repr, DecidableEq

/-- A way to the database. -/
structure Gateway where
  /-- Where connections come from. -/
  source : ConnectionSource
  deriving Repr, DecidableEq

namespace Gateway

variable {σ τ α : Type}

/-- Asks the source for a connection. -/
def connect (g : Gateway) : Act σ τ Unit :=
  match g.source with
  | .supplied => Act.ask (.connect none)
  | .driver dsn => Act.ask (.connect (some dsn))
  | .noDriver => throw .driverMissing

/-- Opens a connection, and gives its number. An exception in doing so is a fault of the
connection. -/
def openConnection (g : Gateway) : Act σ τ Nat := do
  try g.connect
  catch e => throw (if e.isA .exception then .connection e else e)
  let s ← Act.session
  Act.modify fun s => { s with opened := s.opened + 1 }
  return s.opened

/-- Runs an action on the connection that is held, or else on one of its own, which is closed
afterwards however the action ends. -/
def onConnection (g : Gateway) (x : Nat → Act σ τ α) : Act σ τ α := do
  match (← Act.session).held with
  | some c => x c
  | none =>
    let c ← g.openConnection
    (x c).ensuring (Act.ask (.close c))

/-- Runs an action on a new cursor of a connection, which is closed afterwards however the action
ends, and then commits. An exception on the way is a fault of the statement. -/
def transact (purpose : Purpose) (statement : String) (x : Act σ τ α) (c : Nat) :
    Act σ τ α := do
  try
    Act.ask (.cursor c)
    let a ← x.ensuring (Act.ask (.closeCursor c))
    Act.ask (.commit c)
    pure a
  catch e => throw (if e.isA .exception then .statement purpose statement e else e)

/-- Runs a statement for its effect. -/
def execute (g : Gateway) (statement : String) (params : Option (List Value)) :
    Act σ τ Unit := do
  Act.note (.executing statement params)
  g.onConnection fun c =>
    transact .command statement (Act.ask (.execute c statement params)) c

/-- The rows of a statement; an absent result has none. -/
def fetchRows (c : Nat) (statement : String) (params : Option (List Value)) :
    Act σ τ (List Rows.Row) := do
  Act.ask (.execute c statement params)
  let rows : Option (List Rows.Row) ← Act.ask (.fetch c)
  return rows.getD []

/-- Runs a statement for its rows, and reads them. -/
def query (g : Gateway) (statement : String) (params : Option (List Value))
    (read : List Rows.Row → Except (Fault τ) α) : Act σ τ α := do
  Act.note (.querying statement params)
  let rows ← g.onConnection fun c =>
    transact .query statement (fetchRows c statement params) c
  Act.ofExcept (read rows)

/-- Begins a session: opens the connection that all calls use until it ends. Within a session this
does nothing. -/
def enter (g : Gateway) : Act σ τ Unit := do
  if (← Act.session).held.isNone then
    let c ← g.openConnection
    Act.modify fun s => { s with held := some c }

/-- Ends a session, if one is begun: the connection is no longer held, even if closing it fails. -/
def exit : Act σ τ Unit := do
  match (← Act.session).held with
  | none => return ()
  | some c =>
    Act.modify fun s => { s with held := none }
    Act.ask (.close c)

end Gateway

end CaptureControl
