import CaptureControl.Fault
import CaptureControl.Identifier
import CaptureControl.Status

/-!
# The log

What the library reports while it works. An entry is data; its severity, the part of the library
that it comes from and its wording are functions of it.
-/

namespace CaptureControl

/-- How grave a log entry is. -/
inductive Severity where
  /-- Of interest when looking for a fault. -/
  | debug
  /-- A step taken. -/
  | info
  /-- Something to look at. -/
  | warning
  /-- A failure. -/
  | error
  deriving Repr, DecidableEq

namespace Severity

/-- The word for a severity. -/
def word : Severity → String
  | debug => "DEBUG"
  | info => "INFO"
  | warning => "WARNING"
  | error => "ERROR"

/-- The place of a severity, the gravest last. -/
def rank : Severity → Nat
  | debug => 0
  | info => 1
  | warning => 2
  | error => 3

/-- The severities, the gravest last. -/
def all : List Severity := [debug, info, warning, error]

/-- The severity with a word. -/
def ofWord? (s : String) : Option Severity :=
  all.find? (·.word == s)

end Severity

/-- A log entry. -/
inductive LogEntry (τ : Type) where
  /-- The capture program is being started. -/
  | starting (server : String)
  /-- The capture program was found running. -/
  | running (server : String) (checks : Nat)
  /-- The capture program is being stopped. -/
  | stopping (server : String)
  /-- The capture program reads its registrations again. -/
  | refreshing (server : String)
  /-- A status text was read. -/
  | checked (text : Option String) (status : Status)
  /-- A statement is run for its effect. -/
  | executing (statement : String) (params : Option (List Value))
  /-- A statement is run for its rows. -/
  | querying (statement : String) (params : Option (List Value))
  /-- A table is being registered. -/
  | enabling (table : SourceTable)
  /-- The registration of a table is being removed. -/
  | disabling (table : SourceTable)
  /-- The state flag of a table is being set. -/
  | marking (table : SourceTable) (state : Activation)
  /-- A condition could not be observed yet. -/
  | unobservable (description : String) (attempt : Nat) (fault : Fault τ)
  /-- A condition holds. -/
  | converged (description : String) (attempts : Nat)
  /-- An allowance is used up. -/
  | exhausted (description : String) (attempts : Nat)
  /-- A wait was interrupted. -/
  | interrupted (description : String)
  /-- A delay begins. -/
  | delaying (seconds : τ)
  /-- A delay was interrupted. -/
  | delayInterrupted
  /-- A metrics page is being read. -/
  | reading (address object name : String)
  /-- The tables of a schema are to be dropped. -/
  | clearing (schema : String)
  /-- Capture is disabled for a table that is to be dropped. -/
  | releasing (schema table : String)
  /-- The tables of a schema are kept. -/
  | keeping (schema : String)
  /-- A table is being dropped. -/
  | dropping (table : SourceTable)
  /-- The configuration cannot be used. -/
  | badConfiguration (fault : Fault τ)
  /-- A command of the command line failed. -/
  | failed (command : String) (fault : Fault τ)

namespace LogEntry

variable {τ : Type}

/-- How grave an entry is. -/
def severity : LogEntry τ → Severity
  | starting _ | running _ _ | stopping _ => .info
  | refreshing _ | checked _ _ | executing _ _ | querying _ _ => .debug
  | enabling _ | disabling _ | marking _ _ => .info
  | unobservable _ _ _ | converged _ _ => .debug
  | exhausted _ _ => .warning
  | interrupted _ => .info
  | delaying _ => .debug
  | delayInterrupted => .info
  | reading _ _ _ => .debug
  | clearing _ | releasing _ _ => .info
  | keeping _ | dropping _ => .warning
  | badConfiguration _ | failed _ _ => .error

/-- The part of the program that an entry comes from, as the log names it. -/
def channel : LogEntry τ → String
  | starting _ | running _ _ | stopping _ | refreshing _ | checked _ _ => "capture.service"
  | executing _ _ | querying _ _ => "db"
  | enabling _ | disabling _ | marking _ _ => "capture.registration"
  | unobservable _ _ _ | converged _ _ | exhausted _ _ | interrupted _ | delaying _
  | delayInterrupted => "capture.waiting"
  | reading _ _ _ => "metrics"
  | clearing _ | releasing _ _ | keeping _ | dropping _ => "harness"
  | badConfiguration _ | failed _ _ => "cli"

/-- The bound parameters of a statement, as the log shows them. -/
def paramsText : Option (List Value) → String
  | none => Value.null.literal
  | some params => Value.rowLiteral params

/-- The wording of an entry. -/
def message : LogEntry Float → String
  | starting server => "starting capture service " ++ server
  | running server checks =>
    "capture service " ++ server ++ " running after " ++ toString checks ++ " status check(s)"
  | stopping server => "stopping capture service " ++ server
  | refreshing server => "reinitialising capture service " ++ server
  | checked text status =>
    "Checking capture service status, got " ++ (text.elim Value.null .text).literal
      ++ " (" ++ status.word ++ ")"
  | executing statement params => "executing " ++ statement ++ " params=" ++ paramsText params
  | querying statement params => "querying " ++ statement ++ " params=" ++ paramsText params
  | enabling table => "enabling capture for " ++ table.qualifiedName
  | disabling table => "disabling capture for " ++ table.qualifiedName
  | marking table state => "marking " ++ table.qualifiedName ++ " " ++ state.word
  | unobservable description attempt fault =>
    description ++ " not observable yet (attempt " ++ toString attempt ++ "): " ++ fault.message
  | converged description attempts =>
    description ++ " converged after " ++ toString attempts ++ " attempt(s)"
  | exhausted description attempts =>
    description ++ " still not converged after " ++ toString attempts ++ " attempt(s)"
  | interrupted description => "wait for " ++ description ++ " interrupted"
  | delaying seconds =>
    "waiting " ++ Decimal.fixedText 1 seconds ++ "s for capture changes to propagate"
  | delayInterrupted => "propagation wait interrupted; capture state is indeterminate"
  | reading address object name => "scraping " ++ address ++ " for " ++ object ++ "." ++ name
  | clearing schema => "Attempting to drop all tables in " ++ schema ++ " (if exists)"
  | releasing schema table => "Disabling capture for table " ++ schema ++ "." ++ table
  | keeping schema => "Not dropping tables in " ++ schema ++ ": propagation wait interrupted"
  | dropping table => "Dropping table " ++ table.qualifiedName
  | badConfiguration fault => "invalid configuration: " ++ fault.message
  | failed command fault => command ++ " failed: " ++ fault.message

end LogEntry

end CaptureControl
