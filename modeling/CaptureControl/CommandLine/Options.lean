import CaptureControl.KeyedList
import CaptureControl.Text.Digit
import CaptureControl.Text.Split

/-!
# Reading arguments

Arguments are options, the mark `--`, or plain. After the mark all arguments are plain. An option
may be written in full, or as the start of a long name if no other option starts so; its value is
the next argument, or stands behind an equals sign. An argument that looks like an option but is
none is plain if it is a negative number or holds a space, and otherwise left over.

What is left over is not refused at once: a request for help that comes after it is still met.
-/

namespace CaptureControl.CommandLine

/-- What an option asks for. -/
inductive OptionRole where
  /-- Help, instead of anything else. -/
  | help
  /-- A switch. -/
  | switch
  /-- A setting with a value, possibly one of some. -/
  | setting (choices : Option (List String))
  deriving Repr, DecidableEq

/-- An option. -/
structure OptionSpec where
  /-- Its names, with their dashes. -/
  names : List String
  /-- What it asks for. -/
  role : OptionRole
  deriving Repr, DecidableEq

/-- The option that asks for help. -/
def helpOption : OptionSpec := ⟨["-h", "--help"], .help⟩

/-- A name of an option. -/
structure Named where
  /-- The name. -/
  name : String
  /-- The option. -/
  spec : OptionSpec
  deriving Repr, DecidableEq

/-- An argument. -/
inductive Argument where
  /-- A plain argument. -/
  | plain (text : String)
  /-- The mark after which all arguments are plain. -/
  | mark
  /-- An option, with the text that stands in its argument behind the name, if any does. -/
  | option (named : Named) (attached : Option String)
  /-- What looks like an option and is none. -/
  | unknown
  deriving Repr, DecidableEq

/-- Why no command is run. -/
inductive Refusal where
  /-- Help was asked for. -/
  | help
  /-- The arguments cannot be used. -/
  | usage
  deriving Repr, DecidableEq

/-- The names of some options. -/
def namesOf (options : List OptionSpec) : List Named :=
  options.flatMap fun spec => spec.names.map fun name => ⟨name, spec⟩

/-- Whether a text is a negative number: a dash, digits, and perhaps a point before the last of
them. -/
def isNegativeNumber (s : String) : Bool :=
  let isDigit (c : Char) : Bool := (Text.digitValue? c).isSome
  match Text.withoutFinalBreak s.toList with
  | '-' :: cs =>
    match Text.cut '.' cs with
    | (whole, none) => !whole.isEmpty && whole.all isDigit
    | (whole, some fraction) => whole.all isDigit && !fraction.isEmpty && fraction.all isDigit
  | _ => false

/-- The options that an argument may mean which is no name of any: a start of long names, with or
without a value behind an equals sign, or a short name with more text behind it. -/
def candidates (names : List Named) (text : String) : List (Named × Option String) :=
  let cs := text.toList
  if "--".toList.isPrefixOf cs then
    let (start, value) := Text.cut '=' cs
    (names.filter fun n => start.isPrefixOf n.name.toList).map fun n =>
      (n, value.map String.ofList)
  else
    names.filterMap fun n =>
      if n.name.toList = cs.take 2 then some (n, some (String.ofList (cs.drop 2)))
      else if cs.isPrefixOf n.name.toList then some (n, none)
      else none

/-- What an argument is. One that may mean several options is refused. -/
def classify (names : List Named) (text : String) : Except Refusal Argument :=
  let cs := text.toList
  let find (name : List Char) : Option Named := names.find? fun n => n.name.toList = name
  if text = "--" then .ok .mark
  else if cs.head? ≠ some '-' then .ok (.plain text)
  else if let some n := find cs then .ok (.option n none)
  else if cs.length = 1 then .ok (.plain text)
  else match Text.cut '=' cs with
    | (name, some value) =>
      match find name with
      | some n => .ok (.option n (some (String.ofList value)))
      | none => ofCandidates
    | (_, none) => ofCandidates
where
  /-- What an argument is that is no name of an option. -/
  ofCandidates : Except Refusal Argument :=
    match candidates names text with
    | _ :: _ :: _ => .error .usage
    | [(n, attached)] => .ok (.option n attached)
    | [] =>
      .ok (if isNegativeNumber text || text.toList.contains ' ' then .plain text else .unknown)

/-- What the arguments are. -/
def classifyAll (names : List Named) : List String → Except Refusal (List Argument)
  | [] => .ok []
  | text :: rest => do
    match ← classify names text with
    | .mark => return .mark :: rest.map .plain
    | argument => return argument :: (← classifyAll names rest)

/-! ### Reading options -/

/-- What was read: settings and switches, the plain arguments that were wanted, and whether anything
was left over. -/
structure Parsed where
  /-- The options given, by their last names, each with its value; the latest first. -/
  given : KeyedList String String
  /-- The plain arguments that were wanted, the latest first. -/
  plain : List String
  /-- Whether anything was left over. -/
  leftOver : Bool
  deriving Repr, DecidableEq

namespace Parsed

/-- Nothing has been read. -/
def start : Parsed := ⟨[], [], false⟩

/-- The value of an option, if it was given. -/
def value? (p : Parsed) (option : String) : Option String :=
  p.given.get? option

/-- Notes an option. -/
def give (p : Parsed) (spec : OptionSpec) (value : String) : Parsed :=
  { p with given := (spec.names.getLast?.getD "", value) :: p.given }

end Parsed

/-- Takes a value for an option. -/
def takeValue (choices : Option (List String)) (spec : OptionSpec) (value : String) (p : Parsed) :
    Except Refusal Parsed :=
  if choices.all (·.contains value) then .ok (p.give spec value) else .error .usage

/-- Whether the text behind a short name is made of more short names. -/
def isMoreNames (names : List Named) (text : List Char) : Bool :=
  !text.isEmpty && text.all fun c => names.any fun n => n.name.toList = ['-', c]

/-- Reads an option and its value; gives what was read and the arguments that follow. -/
def takeOption (names : List Named) (named : Named) (attached : Option String)
    (rest : List Argument) (p : Parsed) : Except Refusal (Parsed × List Argument) :=
  match named.spec.role, attached with
  | .setting choices, some a => do return (← takeValue choices named.spec a p, rest)
  | .setting choices, none =>
    match rest with
    | .plain value :: rest => do return (← takeValue choices named.spec value p, rest)
    | _ => .error .usage
  | .switch, none => .ok (p.give named.spec "", rest)
  | .switch, some _ => .error .usage
  | .help, none => .error .help
  | .help, some a =>
    if !"--".toList.isPrefixOf named.name.toList && isMoreNames names a.toList then
      .error .help
    else .error .usage

end CaptureControl.CommandLine
