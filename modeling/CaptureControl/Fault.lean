import CaptureControl.Time
import CaptureControl.Value

/-!
# Faults

Why an action did not deliver its answer. A fault is kept by its cause and not by its wording, so
that a fault that arose from another still holds it; kinds, causes and wordings are functions of it.

Kinds are ordered by specialisation: a handler for a kind also handles every kind below it. The
interrupt is the one kind that is no exception, so that no handler for exceptions takes it.
-/

namespace CaptureControl

/-- The kinds of faults. -/
inductive Fault.Kind where
  /-- Any exception. -/
  | exception
  /-- A failure at run time. -/
  | runtime
  /-- A value that cannot be accepted. -/
  | value
  /-- A text that cannot be written in a charset. -/
  | encoding
  /-- A value of a wrong type. -/
  | type
  /-- An item that is not there. -/
  | index
  /-- A condition that was taken for granted. -/
  | assertion
  /-- A failure of the operating system. -/
  | system
  /-- A number beyond the range that it has to be in. -/
  | overflow
  /-- A part of the installation that is not there. -/
  | missing
  /-- The interruption of the program; no exception. -/
  | interrupt
  /-- Any failure of capture control. -/
  | capture
  /-- The database rejected or failed to run a statement. -/
  | command
  /-- A name that cannot be substituted into a statement. -/
  | identifier
  /-- A metric that is not there (yet). -/
  | absent
  /-- Metrics that cannot be read. -/
  | metrics
  /-- A wait whose condition could not be evaluated. -/
  | aborted
  /-- A wait whose condition did not come to hold. -/
  | timeout
  /-- A capture program that did not report itself running. -/
  | startTimeout
  /-- A failed transfer of a metrics page. -/
  | transfer
  /-- A metrics page whose server does not answer. -/
  | refused
  /-- An address that is none. -/
  | address
  deriving Repr, DecidableEq

namespace Fault.Kind

/-- A kind and all that it specialises. -/
def ancestry : Kind → List Kind
  | exception => [exception]
  | runtime => [runtime, exception]
  | value => [value, exception]
  | encoding => [encoding, value, exception]
  | type => [type, exception]
  | index => [index, exception]
  | assertion => [assertion, exception]
  | system => [system, exception]
  | overflow => [overflow, exception]
  | missing => [missing, exception]
  | interrupt => [interrupt]
  | capture => [capture, runtime, exception]
  | command => [command, capture, runtime, exception]
  | identifier => [identifier, capture, runtime, value, exception]
  | absent => [absent, capture, runtime, exception]
  | metrics => [metrics, capture, runtime, exception]
  | aborted => [aborted, capture, runtime, exception]
  | timeout => [timeout, capture, runtime, exception]
  | startTimeout => [startTimeout, timeout, capture, runtime, exception]
  | transfer => [transfer, exception]
  | refused => [refused, transfer, exception]
  | address => [address, exception]

/-- Whether a handler for the second kind handles the first. -/
def isA (k handler : Kind) : Bool :=
  k.ancestry.contains handler

@[simp] theorem isA_self (k : Kind) : k.isA k = true := by
  cases k <;> decide

end Fault.Kind

/-- A configuration that cannot be used. -/
inductive Misconfiguration where
  /-- A bound on neither attempts nor time. -/
  | unbounded
  /-- An attempt limit below one. -/
  | attemptLimit
  /-- A time limit that is not positive. -/
  | timeLimit
  /-- A negative polling interval. -/
  | interval
  /-- A negative delay. -/
  | delay
  /-- No phrase that tells a running program. -/
  | markers
  /-- A metrics page without address. -/
  | address
  /-- A variable whose name or value holds the null character. -/
  | nullCharacter
  /-- A variable whose name holds an equals sign. -/
  | variableName
  /-- A text that is no integer. -/
  | integer (text : String)
  /-- An integer with more digits than are read. -/
  | longInteger (digits : Nat)
  /-- A text that is no real number. -/
  | real (text : String)
  deriving Repr, DecidableEq

/-- What a statement is run for. -/
inductive Purpose where
  /-- For its effect. -/
  | command
  /-- For its rows. -/
  | query
  deriving Repr, DecidableEq

/-- How a wait failed. -/
inductive WaitFailure where
  /-- The condition could not be evaluated. -/
  | aborted
  /-- The condition did not come to hold within the allowance. -/
  | timedOut
  /-- The capture program did not report itself running. -/
  | startTimedOut
  deriving Repr, DecidableEq

/-- What a failed wait had come to. -/
structure WaitReport (τ : Type) where
  /-- What was waited for. -/
  description : String
  /-- The number of evaluations. -/
  attempts : Int
  /-- The time since the wait began. -/
  elapsed : τ

/-- How a metrics page could not be read. -/
inductive PageFault where
  /-- The server does not answer. -/
  | unreachable
  /-- The server has no such page. -/
  | unregistered
  /-- The transfer failed. -/
  | transfer
  /-- The server answered with a status that is no success. -/
  | status (code : Nat)
  /-- The page is not a text exposition. -/
  | malformed
  deriving Repr, DecidableEq

/-- Why an action did not deliver its answer. -/
inductive Fault (τ : Type) where
  /-- A fault of the outside world, with its own wording. -/
  | external (kind : Fault.Kind) (wording : String)
  /-- A statement that failed in the database. -/
  | statement (purpose : Purpose) (statement : String) (cause : Fault τ)
  /-- A connection that could not be opened. -/
  | connection (cause : Fault τ)
  /-- No database driver is installed. -/
  | driverMissing
  /-- A row with fewer columns than are read. -/
  | shortRow
  /-- A value that is no identifier, in the role of a schema, a table or the like. -/
  | identifier (role : String) (value : Value)
  /-- A configuration that cannot be used. -/
  | misconfigured (what : Misconfiguration)
  /-- A text that names no metrics object. -/
  | objectName (text : String)
  /-- No sample has the attribute. -/
  | noAttribute (object name : String)
  /-- A metrics page that could not be read. -/
  | page (address : String) (what : PageFault)
  /-- A metrics page that was closed before. -/
  | closedPage
  /-- A text that is not in ASCII: the place and the characters of the first stretch that is not. -/
  | beyondAscii (place : Nat) (stretch : List Char)
  /-- A text in a coding that yields octets. -/
  | octetCoding
  /-- A text in a coding of letters, which has no octets. -/
  | letterCoding
  /-- A media type with parts of a value with and without numbers. The flag tells whether the part
  that cannot be put into order is numbered. -/
  | unorderedParts (numbered : Bool)
  /-- Blank space in the place of a name. -/
  | blankName
  /-- A timestamp beyond the range of doubles. -/
  | timestamp
  /-- A pause that is too long to be timed. -/
  | overlongPause
  /-- A wait that failed. -/
  | wait (failure : WaitFailure) (report : WaitReport τ)
  /-- A wait without attempt limit that ended neither way within its horizon. -/
  | unsettled (description : String) (attempts : Nat)
  /-- A fault that arose from another. -/
  | because (fault cause : Fault τ)

namespace Fault

variable {τ : Type}

/-- The kind of a fault. -/
def kind : Fault τ → Kind
  | external kind _ => kind
  | statement _ _ _ => .command
  | connection _ => .command
  | driverMissing => .runtime
  | shortRow => .index
  | identifier _ _ => .identifier
  | misconfigured _ => .value
  | objectName _ => .value
  | noAttribute _ _ => .absent
  | page _ .unreachable => .absent
  | page _ .unregistered => .absent
  | page _ _ => .metrics
  | closedPage => .runtime
  | beyondAscii _ _ => .encoding
  | octetCoding => .assertion
  | letterCoding => .type
  | unorderedParts _ => .type
  | blankName => .index
  | timestamp => .overflow
  | overlongPause => .overflow
  | wait .aborted _ => .aborted
  | wait .timedOut _ => .timeout
  | wait .startTimedOut _ => .startTimeout
  | unsettled _ _ => .exception
  | because fault _ => fault.kind

/-- Whether a handler for a kind handles the fault. -/
def isA (fault : Fault τ) (handler : Kind) : Bool :=
  fault.kind.isA handler

/-- The faults that a fault arose from, the nearest first. -/
def causes : Fault τ → List (Fault τ)
  | statement _ _ cause => cause :: cause.causes
  | connection cause => cause :: cause.causes
  | driverMissing => [external .missing "import of ibm_db_dbi halted; None in sys.modules"]
  | because _ cause => cause :: cause.causes
  | _ => []

/-- The statement that a fault is about. -/
def statement? : Fault τ → Option String
  | statement _ text _ => some text
  | because fault _ => fault.statement?
  | _ => none

/-- The report of a failed wait. -/
def report? : Fault τ → Option (WaitReport τ)
  | wait _ report => some report
  | because fault _ => fault.report?
  | _ => none

end Fault

/-! ### Wordings -/

/-- The wording of an unusable configuration. A quoted text that is no integer is cut off after two
hundred characters. -/
def Misconfiguration.message : Misconfiguration → String
  | unbounded => "a retry budget needs max_attempts or max_duration"
  | attemptLimit => "max_attempts must be at least 1"
  | timeLimit => "max_duration must be positive"
  | interval => "interval must not be negative"
  | delay => "delay_seconds must not be negative"
  | markers => "at least one running marker is required"
  | address => "url must be provided"
  | nullCharacter => "embedded null byte"
  | variableName => "illegal environment variable name"
  | integer text =>
    "invalid literal for int() with base 10: "
      ++ String.ofList ((Text.quoted text).toList.take 200)
  | longInteger digits =>
    "Exceeds the limit (4300 digits) for integer string conversion: value has "
      ++ toString digits ++ " digits; use sys.set_int_max_str_digits() to increase the limit"
  | real text => "could not convert string to float: " ++ Text.quoted text

/-- The wording of an unreadable metrics page. -/
def PageFault.message (address : String) : PageFault → String
  | unreachable => "metrics endpoint " ++ address ++ " not reachable"
  | unregistered => "metrics endpoint " ++ address ++ " not registered"
  | transfer => "metrics scrape of " ++ address ++ " failed"
  | status code => "metrics scrape of " ++ address ++ " returned " ++ toString code
  | malformed => "metrics exposition from " ++ address ++ " is malformed"

/-- The wording of a failed wait. -/
def WaitFailure.message (failure : WaitFailure) (report : WaitReport Float) : String :=
  report.description
    ++ (match failure with
      | aborted => " failed after "
      | timedOut | startTimedOut => " did not converge after ")
    ++ toString report.attempts ++ " attempt(s) in "
    ++ Decimal.fixedText 2 report.elapsed ++ "s"

/-- The wording of a fault. -/
def Fault.message : Fault Float → String
  | external _ wording => wording
  | statement .command _ cause => "command failed: " ++ cause.message
  | statement .query _ cause => "query failed: " ++ cause.message
  | connection cause => "unable to connect: " ++ cause.message
  | driverMissing => "ibm_db is required for live Db2 access; install the 'db2' extra"
  | shortRow => "tuple index out of range"
  | identifier role value => "invalid " ++ role ++ " identifier: " ++ value.literal
  | misconfigured what => what.message
  | objectName text => "malformed endpoint id: " ++ Text.quoted text
  | noAttribute object name => object ++ " has no attribute " ++ name
  | page address what => what.message address
  | closedPage => "Cannot send a request, as the client has been closed."
  | beyondAscii place stretch =>
    "'ascii' codec can't encode character"
      ++ (match stretch with
        | [c] => " '" ++ String.ofList (Text.escapeByCode c) ++ "' in position " ++ toString place
        | _ => "s in position " ++ toString place ++ "-"
          ++ toString (place + stretch.length - 1))
      ++ ": ordinal not in range(128)"
  | octetCoding => ""
  | letterCoding => "descriptor 'translate' for 'str' objects doesn't apply to a 'bytes' object"
  | unorderedParts numbered =>
    let (part, first) := if numbered then ("int", "NoneType") else ("NoneType", "int")
    "'<' not supported between instances of '" ++ part ++ "' and '" ++ first ++ "'"
  | blankName => "string index out of range"
  | timestamp => "integer division result too large for a float"
  | overlongPause => "timestamp out of range for platform time_t"
  | wait failure report => failure.message report
  | unsettled description attempts =>
    description ++ " unsettled after " ++ toString attempts ++ " attempt(s)"
  | because fault _ => fault.message

end CaptureControl
