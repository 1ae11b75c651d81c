import CaptureControl.Text.Blank
import CaptureControl.Text.Split

/-!
# Quoted terms of a text exposition

Names and label values may stand between double quotes, with backslash escapes. Separators inside
quotes do not separate. A quote that an odd number of backslashes precedes is no quote, inside
quotes or outside. Blank space alone in the place of a name is a fault of its own.
-/

namespace CaptureControl.Exposition

/-- Why a text exposition cannot be read. -/
inductive ReadFault where
  /-- It breaks the rules of the format. -/
  | malformed
  /-- Blank space stands in the place of a name. -/
  | blankName
  /-- A timestamp, in seconds, is beyond the range of doubles. -/
  | timestamp
  deriving Repr, DecidableEq

/-- Cuts a text before the first character of a class that is outside quotes. The second part is
empty if there is none. The flags tell whether the text starts inside quotes and whether its first
character is escaped. -/
def cutAt (stop : Char → Bool) (quoted escaped : Bool) : List Char → List Char × List Char
  | [] => ([], [])
  | c :: cs =>
    let quoted := if c = '"' && !escaped then !quoted else quoted
    if !quoted && stop c then ([], c :: cs)
    else
      let (before, rest) := cutAt stop quoted (c = '\\' && !escaped) cs
      (c :: before, rest)

/-- Cuts a text before the first character of a class that is outside quotes. -/
def cutUnquoted (stop : Char → Bool) (cs : List Char) : List Char × List Char :=
  cutAt stop false false cs

/-- The text that escapes stand for: the backslash, the line break and the double quote have
escapes, and any other backslash is itself. -/
def unescape : List Char → List Char
  | '\\' :: '\\' :: cs => '\\' :: unescape cs
  | '\\' :: 'n' :: cs => '\n' :: unescape cs
  | '\\' :: '"' :: cs => '"' :: unescape cs
  | c :: cs => c :: unescape cs
  | [] => []

/-- A name as it was written. -/
structure WrittenName where
  /-- The name. -/
  name : List Char
  /-- Whether it stood between quotes. -/
  quoted : Bool
  deriving Repr, DecidableEq

/-- Reads a name, with or without quotes around it. A quote that is not closed at the end is
refused, and so is blank space alone. -/
def WrittenName.read (cs : List Char) : Except ReadFault WrittenName :=
  match Text.trim cs with
  | [] => if cs.isEmpty then .ok ⟨[], false⟩ else .error .blankName
  | '"' :: rest =>
    if rest.getLast? = some '"' then .ok ⟨unescape rest.dropLast, true⟩ else .error .malformed
  | cs => .ok ⟨unescape cs, false⟩

/-- Whether a name may be written without quotes. -/
def isPlainName : List Char → Bool
  | [] => false
  | c :: cs =>
    (c.isAlpha || c == '_' || c == ':') && cs.all fun d => d.isAlphanum || d == '_' || d == ':'

/-- Reads a name that is quoted or need not be; an escaped line break at the end does not call for
quotes. -/
def WrittenName.readChecked (cs : List Char) : Except ReadFault (List Char) := do
  let w ← WrittenName.read cs
  if w.quoted || isPlainName (Text.withoutFinalBreak w.name) then return w.name
  else throw .malformed

/-- The text up to a closing quote, which must be the last character. -/
def untilClosed? (escaped : Bool) : List Char → Option (List Char)
  | [] => none
  | c :: cs =>
    if c = '"' && !escaped then if cs.isEmpty then some [] else none
    else (untilClosed? (c = '\\' && !escaped) cs).map (c :: ·)

/-- Reads a text between quotes. -/
def readQuoted? : List Char → Option (List Char)
  | '"' :: cs => (untilClosed? false cs).map unescape
  | _ => none

end CaptureControl.Exposition
