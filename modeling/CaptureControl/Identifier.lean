import CaptureControl.Fault
import CaptureControl.Text.Blank
import CaptureControl.Text.Split

/-!
# Identifiers

The names of schemas and tables that may stand unquoted in a statement, and the source tables that
two of them name. A name is checked before it is put into any statement; nothing else is.
-/

namespace CaptureControl

/-- The greatest number of characters of an identifier. -/
def maxIdentifierLength : Nat := 128

/-- Whether an identifier may start with a character. -/
def isIdentifierStart (c : Char) : Bool :=
  c.isAlpha || c == '_' || c == '@' || c == '#' || c == '$'

/-- Whether an identifier may go on with a character. -/
def isIdentifierRest (c : Char) : Bool :=
  isIdentifierStart c || c.isDigit

/-- Whether a text is a letter or one of `_@#$`, followed by such characters and digits. -/
def isIdentifierWord : List Char → Bool
  | [] => false
  | c :: cs => isIdentifierStart c && cs.all isIdentifierRest

/-- Whether a text is accepted as an identifier: a word of the grammar, which a line break may
follow, of at most `maxIdentifierLength` characters in all. -/
def isIdentifier (s : String) : Bool :=
  s.toList.length ≤ maxIdentifierLength && isIdentifierWord (Text.withoutFinalBreak s.toList)

/-- Accepts a value as an identifier in a role. The values are plain ones: a text is written as it
is, and an integer has at most `Decimal.digitLimit` digits. -/
def checkIdentifier {τ : Type} (role : String) (value : Value) : Except (Fault τ) String :=
  match value with
  | .text s => if isIdentifier s then .ok s else .error (.identifier role value)
  | _ => .error (.identifier role value)

/-! ### Source tables -/

/-- A table whose changes are captured. -/
structure SourceTable where
  /-- The schema that owns the table. -/
  schema : String
  /-- The name of the table. -/
  table : String
  deriving Repr, DecidableEq

namespace SourceTable

/-- The table that two values name; the schema is checked first. -/
def ofValues {τ : Type} (schema table : Value) : Except (Fault τ) SourceTable := do
  let schema ← checkIdentifier "schema" schema
  let table ← checkIdentifier "table" table
  return { schema, table }

/-- The name of a table with its schema. -/
def qualifiedName (t : SourceTable) : String :=
  t.schema ++ "." ++ t.table

end SourceTable

/-! ### Activation -/

/-- Whether the changes of a registered table are being captured. -/
inductive Activation where
  /-- They are. -/
  | active
  /-- They are not. -/
  | inactive
  deriving Repr, DecidableEq

namespace Activation

/-- The letter that the registration table holds for a state. -/
def flag : Activation → String
  | active => "A"
  | inactive => "I"

/-- The word for a state. -/
def word : Activation → String
  | active => "active"
  | inactive => "inactive"

/-- The state that a text stands for: one letter between blanks. The letters in either case count,
and so does the dotless i, whose capital is the plain I. -/
def ofText? (s : String) : Option Activation :=
  match Text.trim s.toList with
  | [c] =>
    if c = 'A' ∨ c = 'a' then some active
    else if c = 'I' ∨ c = 'i' ∨ c = 'ı' then some inactive
    else none
  | _ => none

end Activation

end CaptureControl
