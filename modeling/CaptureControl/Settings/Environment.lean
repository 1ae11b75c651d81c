import CaptureControl.Decimal.Numeral
import CaptureControl.KeyedList
import CaptureControl.Settings.Basic
import CaptureControl.Settings.Dotenv
import CaptureControl.Text.LetterCase

/-!
# Settings from the environment

Settings are read from environment variables. Variables of a dotenv file count where the environment
has none of that name, not even an empty one; their values may refer to other variables. Numbers
must be numerals; names that would be blank, an unknown mode and an empty list of phrases give way
to the standard ones.
-/

namespace CaptureControl

/-- The variables of a process, each name once. -/
abbrev Environment := KeyedList String String

namespace Environment

/-- What a reference in a file stands for: the variable of the environment, or else the one that the
file gave before, which is empty if it has no value. -/
def valueOf (env : Environment) (before : List Dotenv.Binding) (r : Dotenv.Reference) :
    List Char :=
  match env.get? (String.ofList r.name), KeyedList.get? r.name before.reverse with
  | some value, _ => value.toList
  | none, some value => value.getD []
  | none, none => r.fallback

/-- The variables of a file with the references in their values replaced, one after the other. -/
def resolve (env : Environment) (bindings : List Dotenv.Binding) : List Dotenv.Binding :=
  bindings.foldl (fun before (key, value) =>
    before ++ [(key, value.map (Dotenv.expand (env.valueOf before)))]) []

/-- The last value that a file gives a variable. -/
def lastOf (bindings : List Dotenv.Binding) (key : List Char) : Option (List Char) :=
  (KeyedList.get? key bindings.reverse).join

/-- The environment with a variable more, unless no process can have such a variable: neither the
name nor the value holds the null character, and the name holds no equals sign. A variable that the
environment has stays as it is. -/
def extend (env : Environment) (name value : List Char) : Except Misconfiguration Environment :=
  if (env.get? (String.ofList name)).isSome then .ok env
  else if name.contains '\x00' || value.contains '\x00' then .error .nullCharacter
  else if name.contains '=' then .error .variableName
  else .ok (env ++ [(String.ofList name, String.ofList value)])

/-- The environment with the variables of a file that it lacks, in the order in which the file names
them first. -/
def withFile (env : Environment) (bindings : List Dotenv.Binding) :
    Except Misconfiguration Environment :=
  let bindings := env.resolve bindings
  bindings.foldlM (fun env (key, _) =>
    match lastOf bindings key with
    | some value => env.extend key value
    | none => .ok env) env

end Environment

/-- The mode that a word stands for, in any letter case and between blanks; any other word means an
imitated database. -/
def DatabaseMode.ofWord (word : Option String) : DatabaseMode :=
  match word with
  | none => .mock
  | some word =>
    if String.ofList (Text.lower (Text.strip word).toList) = DatabaseMode.live.word then .live
    else .mock

namespace Settings

/-- The entries of a list between commas, without blank space around them and without blank
entries. -/
def entries (list : String) : List String :=
  ((Text.pieces ',' list.toList).map fun entry =>
    String.ofList (Text.trim entry)).filter (!·.isEmpty)

/-- A text, or the other one if it is empty. -/
def orElse (text fallback : String) : String :=
  if text.isEmpty then fallback else text

/-- An integer variable. -/
def integer (env : Environment) (name : String) (standard : Int) : Except Misconfiguration Int :=
  match env.get? name with
  | none => .ok standard
  | some text =>
    match Decimal.readInteger text.toList with
    | .ok n => .ok n
    | .error .malformed => .error (.integer text)
    | .error (.tooLong digits) => .error (.longInteger digits)

/-- A real variable. -/
def real (env : Environment) (name : String) (standard : Float) : Except Misconfiguration Float :=
  match env.get? name with
  | none => .ok standard
  | some text =>
    match Decimal.readReal? text.toList with
    | some x => .ok x
    | none => .error (.real text)

/-- A variable with text, as it is. -/
def text (env : Environment) (name standard : String) : String :=
  (env.get? name).getD standard

/-- A variable with a name, which must not be blank. -/
def name (env : Environment) (variableName standard : String) : String :=
  orElse (Text.strip (text env variableName standard)) standard

/-- Reads the settings from an environment. Of several numbers that cannot be read, the first is
told. -/
def ofEnvironment (env : Environment) : Except Misconfiguration (Settings Float) := do
  let port ← integer env "DB2_PORT" standard.port
  let startInterval ← real env "CDC_START_POLL_INTERVAL_SECONDS" standard.startInterval
  let startMaxAttempts ← integer env "CDC_START_MAX_ATTEMPTS" standard.startMaxAttempts
  let snapshotInterval ← real env "CDC_SNAPSHOT_POLL_INTERVAL_SECONDS" standard.snapshotInterval
  let snapshotMaxAttempts ← integer env "CDC_SNAPSHOT_MAX_ATTEMPTS" standard.snapshotMaxAttempts
  let propagationDelay ← real env "CDC_PROPAGATION_DELAY_SECONDS" standard.propagationDelay
  let metricsTimeout ← real env "CDC_METRICS_TIMEOUT_SECONDS" standard.metricsTimeout
  let markers := entries (text env "CDC_RUNNING_MARKERS" "")
  return {
    host := text env "DB2_HOST" standard.host
    port
    database := text env "DB2_DATABASE" standard.database
    user := text env "DB2_USER" standard.user
    password := text env "DB2_PASSWORD" standard.password
    schema := name env "DB2_SCHEMA" standard.schema
    mode := DatabaseMode.ofWord (env.get? "DB_MODE")
    program := {
      schema := name env "CDC_CAPTURE_SCHEMA" standard.program.schema
      server := name env "CDC_CAPTURE_SERVER" standard.program.server }
    markers := if markers.isEmpty then standard.markers else markers
    startInterval
    startMaxAttempts
    snapshotInterval
    snapshotMaxAttempts
    propagationDelay
    metricsAddress := Text.strip (text env "CDC_METRICS_URL" standard.metricsAddress)
    metricsTimeout
    snapshotObject := Text.strip (text env "CDC_SNAPSHOT_ENDPOINT" standard.snapshotObject)
    snapshotAttribute :=
      Text.strip (text env "CDC_SNAPSHOT_ATTRIBUTE" standard.snapshotAttribute) }

/-- The settings that an environment and the text of a dotenv file give. -/
def load (env : Environment) (file : String) : Except Misconfiguration (Settings Float) :=
  (env.withFile (Dotenv.read file)).bind ofEnvironment

end Settings

end CaptureControl
