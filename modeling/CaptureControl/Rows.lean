import CaptureControl.Identifier
import CaptureControl.Text.Utf8

/-!
# Reading result rows

What the control queries are read as. Large objects arrive as octet strings, whose content is text.
A row with fewer columns than are read is a fault.
-/

namespace CaptureControl.Rows

variable {τ : Type}

/-- A row of a result. -/
abbrev Row := List Value

/-- A column of a row. -/
def column (row : Row) (i : Nat) : Except (Fault τ) Value :=
  match row[i]? with
  | some value => .ok value
  | none => .error .shortRow

/-- The text in a value: octet strings are read as UTF-8. -/
def textOf : Value → Option String
  | .null => none
  | .bytes octets => some (Text.readUtf8 octets)
  | .buffer octets => some (Text.readUtf8 octets)
  | value => some value.toText

/-- The text in the first column of the first row. -/
def firstText : List Row → Except (Fault τ) (Option String)
  | [] => .ok none
  | row :: _ => do return textOf (← column row 0)

/-- The name of a change table: the first two columns of the first row. -/
def changeTable : List Row → Except (Fault τ) (Option String)
  | [] => .ok none
  | row :: _ => do
    match ← column row 0, ← column row 1 with
    | .null, _ => return none
    | _, .null => return none
    | owner, table => return some (Text.strip owner.toText ++ "." ++ Text.strip table.toText)

/-- The names in the first column. -/
def names (rows : List Row) : Except (Fault τ) (List String) :=
  rows.mapM fun row => do return Text.strip (← column row 0).toText

end CaptureControl.Rows
