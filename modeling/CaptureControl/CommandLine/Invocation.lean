import CaptureControl.CommandLine.Options
import CaptureControl.Log

/-!
# Invocations

The commands of the command line and how they are read from the arguments. Options of the program
stand before the command, options of the command after it.
-/

namespace CaptureControl.CommandLine

/-- A command about a table. -/
inductive TableCommand where
  /-- Registers and activates the table. -/
  | enable
  /-- Removes the registration of the table. -/
  | disable
  /-- Activates the table. -/
  | activate
  /-- Deactivates the table. -/
  | deactivate
  /-- Tells the table that holds the changes. -/
  | changeTable
  deriving Repr, DecidableEq

/-- A command. -/
inductive Command where
  /-- Starts the capture program and waits until it runs. -/
  | start
  /-- Has the capture program stop, and perhaps waits until it has. -/
  | stop (wait : Bool)
  /-- Tells the state of the capture program. -/
  | status
  /-- Has the capture program read its registrations again, and waits. -/
  | refresh
  /-- Waits for the snapshot to be complete. -/
  | waitSnapshot
  /-- Does something about a table. -/
  | table (command : TableCommand) (table : String) (schema : Option String)
  deriving Repr, DecidableEq

/-- The word for a command about a table. -/
def TableCommand.word : TableCommand → String
  | enable => "enable-table"
  | disable => "disable-table"
  | activate => "activate"
  | deactivate => "deactivate"
  | changeTable => "cdc-table"

/-- The commands about tables. -/
def TableCommand.all : List TableCommand := [enable, disable, activate, deactivate, changeTable]

/-- The word for a command. -/
def Command.word : Command → String
  | start => "start"
  | stop _ => "stop"
  | status => "status"
  | refresh => "refresh"
  | waitSnapshot => "wait-snapshot"
  | table command _ _ => command.word

/-- What the program is asked to do. -/
structure Invocation where
  /-- The least severity of log entries that are shown. -/
  level : Severity
  /-- The command. -/
  command : Command
  deriving Repr, DecidableEq

/-! ### Commands and their options -/

/-- What a command takes: options, and perhaps the name of a table. -/
structure CommandForm where
  /-- The options, besides that for help. -/
  options : List OptionSpec
  /-- Whether a table must be named. -/
  wantsTable : Bool
  /-- The command that the arguments make. -/
  make : Parsed → Command

/-- The switch to wait for the capture program to have stopped. -/
def waitOption : OptionSpec := ⟨["--wait"], .switch⟩

/-- The schema of a table. -/
def schemaOption : OptionSpec := ⟨["--schema"], .setting none⟩

/-- The least severity of log entries that are shown. -/
def levelOption : OptionSpec := ⟨["--log-level"], .setting (some (Severity.all.map (·.word)))⟩

/-- The form of a command without arguments. -/
def plainForm (command : Command) : CommandForm := ⟨[], false, fun _ => command⟩

/-- The form of a command about a table. -/
def tableForm (command : TableCommand) : CommandForm :=
  ⟨[schemaOption], true, fun p => .table command (p.plain.head?.getD "") (p.value? "--schema")⟩

/-- The commands by their words. -/
def forms : KeyedList String CommandForm :=
  [("start", plainForm .start),
    ("stop", ⟨[waitOption], false, fun p => .stop (p.value? "--wait").isSome⟩),
    ("status", plainForm .status), ("refresh", plainForm .refresh),
    ("wait-snapshot", plainForm .waitSnapshot)]
    ++ TableCommand.all.map fun c => (c.word, tableForm c)

/-! ### Reading -/

/-- Reads the arguments of a command. The table is the first plain argument; a mark next to it is
passed over, and any other is left over. -/
def readArguments (names : List Named) :
    Nat → Bool → Parsed → List Argument → Except Refusal (Bool × Parsed)
  | _, wanted, p, [] => .ok (wanted, p)
  | 0, wanted, p, _ :: _ => .ok (wanted, p)
  | n + 1, wanted, p, argument :: rest =>
    match argument, rest with
    | .option named attached, rest => do
      let (p, rest) ← takeOption names named attached rest p
      readArguments names n wanted p rest
    | .unknown, rest => readArguments names n wanted { p with leftOver := true } rest
    | .plain text, rest =>
      if wanted then
        let rest := if rest.head? = some .mark then rest.drop 1 else rest
        readArguments names n false { p with plain := text :: p.plain } rest
      else readArguments names n wanted { p with leftOver := true } rest
    | .mark, .plain text :: rest =>
      if wanted then readArguments names n false { p with plain := text :: p.plain } rest
      else .ok (wanted, { p with leftOver := true })
    | .mark, _ => .ok (wanted, { p with leftOver := true })

/-- Reads a command and its arguments; also tells whether anything was left over. -/
def readCommand (form : CommandForm) (arguments : List String) :
    Except Refusal (Command × Bool) := do
  let names := namesOf (helpOption :: form.options)
  let arguments ← classifyAll names arguments
  let (wanted, p) ← readArguments names arguments.length form.wantsTable Parsed.start arguments
  if wanted then throw .usage
  return (form.make p, p.leftOver)

/-- Reads the options of the program and then the command; `texts` are the arguments as they were
written. -/
def readProgram (names : List Named) :
    Nat → Parsed → List Argument → List String → Except Refusal (Parsed × Command)
  | 0, _, _, _ => .error .usage
  | n + 1, p, arguments, texts =>
    match arguments with
    | .option named attached :: rest => do
      let (p, left) ← takeOption names named attached rest p
      readProgram names n p left (texts.drop (arguments.length - left.length))
    | .unknown :: rest => readProgram names n { p with leftOver := true } rest (texts.drop 1)
    | .plain word :: _ =>
      match forms.get? word with
      | none => .error .usage
      | some form => do
        let (command, leftOver) ← readCommand form (texts.drop 1)
        if p.leftOver || leftOver then throw .usage
        return (p, command)
    | .mark :: _ => .error .usage
    | [] => .error .usage

/-- Reads the arguments of the program. -/
def Invocation.read (arguments : List String) : Except Refusal Invocation := do
  let names := namesOf [helpOption, levelOption]
  let classified ← classifyAll names arguments
  let (p, command) ← readProgram names (classified.length + 1) Parsed.start classified arguments
  let level := ((p.value? "--log-level").bind Severity.ofWord?).getD .info
  return { level, command }

end CaptureControl.CommandLine
