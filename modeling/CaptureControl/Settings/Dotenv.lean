import CaptureControl.Text.Blank
import CaptureControl.Text.Split

/-!
# Dotenv files

Variables in a file, one a line, as `KEY=VALUE`, with `export` in front or not. Comments start with
a hash sign, in a value only after blank space, and the blank space after the equals sign counts.
Values may stand between single or double quotes, where they may hold line breaks and escapes; a
backslash takes the next character with it, so that an escaped quote closes nothing. A key alone
names a variable without value, and the rest of a line that makes no sense is passed over. A byte
order mark may stand in front of the file.
-/

namespace CaptureControl.Dotenv

open Text

/-- A variable of a file, which may have no value. -/
abbrev Binding := List Char × Option (List Char)

/-! ### Lines -/

/-- Whether a character ends a line. -/
def isBreak (c : Char) : Bool :=
  c == '\n' || c == '\r'

/-- The text after the blank space in front, up to the end of the line. -/
def skipGap (cs : List Char) : List Char :=
  cs.dropWhile fun c => isBlank c && !isBreak c

/-- The text after the end of the first line. -/
def nextLine (cs : List Char) : List Char :=
  (cs.dropWhile fun c => !isBreak c).drop 1

/-- Whether nothing but a comment is left of a line. -/
def isLineEnd (cs : List Char) : Bool :=
  match skipGap cs with
  | [] => true
  | c :: _ => c == '#' || isBreak c

/-! ### Values -/

/-- A value without quotes, from what stands between the equals sign and the end of the line: up to
a hash sign after blank space, and without the blank space at its ends. -/
def plainValue (line : List Char) : List Char :=
  trim (beforeComment false line)
where
  /-- The text before a hash sign that blank space precedes. -/
  beforeComment (afterBlank : Bool) : List Char → List Char
    | [] => []
    | c :: cs => if c = '#' && afterBlank then [] else c :: beforeComment (isBlank c) cs

/-- The text before the first quote that is not escaped, and the text after that quote. The flag
tells whether the first character is escaped. -/
def untilQuote? (quote : Char) (escaped : Bool) : List Char → Option (List Char × List Char)
  | [] => none
  | c :: cs =>
    if c = quote && !escaped then some ([], cs)
    else (untilQuote? quote (c = '\\' && !escaped) cs).map fun (value, rest) => (c :: value, rest)

/-- The control character of an escape between double quotes. -/
def controlOf? : Char → Option Char
  | 'a' => some '\x07'
  | 'b' => some '\x08'
  | 'f' => some '\x0c'
  | 'n' => some '\n'
  | 'r' => some '\r'
  | 't' => some '\t'
  | 'v' => some '\x0b'
  | _ => none

/-- The character that an escape stands for. Single quotes know fewer escapes. -/
def escaped? (quote c : Char) : Option Char :=
  if c = '\\' ∨ c = '\'' then some c
  else if quote = '\'' then none
  else if c = '"' then some c
  else controlOf? c

/-- The text that a text between quotes stands for. -/
def unescape (quote : Char) : List Char → List Char
  | '\\' :: c :: cs =>
    match escaped? quote c with
    | some d => d :: unescape quote cs
    | none => '\\' :: unescape quote (c :: cs)
  | c :: cs => c :: unescape quote cs
  | [] => []

/-- Reads a value from behind the equals sign; gives the value, unless a quote is left open, and the
text after it. -/
def readValue (cs : List Char) : Option (List Char) × List Char :=
  let inLine (d : Char) : Bool := !isBreak d
  let plain := (some (plainValue (cs.takeWhile inLine)), cs.dropWhile inLine)
  match skipGap cs with
  | [] => plain
  | c :: inner =>
    if c = '\'' ∨ c = '"' then
      match untilQuote? c false inner with
      | some (value, rest) => (some (unescape c value), rest)
      | none => (none, inner)
    else plain

/-! ### Variables -/

/-- The text after the word `export` and the blank space that follows it, if it starts so. -/
def skipExport (cs : List Char) : List Char :=
  let word := "export".toList
  let rest := cs.drop word.length
  if word.isPrefixOf cs && (skipGap rest).length < rest.length then skipGap rest else cs

/-- Whether a key may hold a character. -/
def isKeyChar (c : Char) : Bool :=
  c != '=' && c != '#' && !isBlank c

/-- Reads a key, which may stand between single quotes, and gives the text after it. -/
def readKey? : List Char → Option (List Char × List Char)
  | '\'' :: cs =>
    match cut '\'' cs with
    | (key, some rest) => if key.isEmpty then none else some (key, rest)
    | (_, none) => none
  | cs =>
    if (cs.takeWhile isKeyChar).isEmpty then none
    else some (cs.takeWhile isKeyChar, cs.dropWhile isKeyChar)

/-- Ends a line after a variable, which counts only if nothing else is in the line. -/
def endLine (binding : Binding) (rest : List Char) : Option Binding × List Char :=
  (if isLineEnd rest then some binding else none, nextLine rest)

/-- Reads a line, and gives the text after it. -/
def readLine (cs : List Char) : Option Binding × List Char :=
  let cs := skipExport cs
  match readKey? cs with
  | none => (none, nextLine cs)
  | some (key, rest) =>
    match skipGap rest with
    | '=' :: rest =>
      match readValue rest with
      | (some value, rest) => endLine (key, some value) rest
      | (none, rest) => (none, nextLine rest)
    | rest => endLine (key, none) rest

/-- Reads at most so many lines. -/
def readLines : Nat → List Char → List Binding
  | 0, _ => []
  | n + 1, cs =>
    match cs.dropWhile isBlank with
    | [] => []
    | c :: cs =>
      let (binding, rest) := readLine (c :: cs)
      binding.toList ++ readLines n rest

/-- A text without the byte order mark that it may begin with. -/
def withoutMark : List Char → List Char
  | '\uFEFF' :: cs => cs
  | cs => cs

/-- Reads a file. Every line takes a character at least. -/
def read (text : String) : List Binding :=
  let cs := withoutMark text.toList
  readLines cs.length cs

/-! ### References -/

/-- A reference to another variable, `${NAME}` or `${NAME:-FALLBACK}`. -/
structure Reference where
  /-- The name of the variable. -/
  name : List Char
  /-- What stands for a variable that is not set. -/
  fallback : List Char
  /-- The number of characters after the dollar sign. -/
  width : Nat
  deriving Repr, DecidableEq

/-- Reads a reference after its dollar sign. -/
def Reference.read? : List Char → Option Reference
  | '{' :: cs =>
    match cut '}' cs with
    | (_, none) => none
    | (inside, some _) =>
      match inside.dropWhile (· != ':') with
      | [] => some ⟨inside, [], inside.length + 2⟩
      | ':' :: '-' :: fallback =>
        some ⟨inside.takeWhile (· != ':'), fallback, inside.length + 2⟩
      | _ => none
  | _ => none

/-- A value with its references replaced, after some characters that are passed over. -/
def expandAfter (value : Reference → List Char) : Nat → List Char → List Char
  | _, [] => []
  | n + 1, _ :: cs => expandAfter value n cs
  | 0, c :: cs =>
    match if c = '$' then Reference.read? cs else none with
    | some r => value r ++ expandAfter value r.width cs
    | none => c :: expandAfter value 0 cs

/-- A value with its references replaced. -/
def expand (value : Reference → List Char) (cs : List Char) : List Char :=
  expandAfter value 0 cs

end CaptureControl.Dotenv
