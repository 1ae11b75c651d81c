import CaptureControl.Decimal.RealText
import CaptureControl.Text.Quoted

/-!
# Database values

The values that result rows hold and that statements bind, with their two written forms: the text of
a value, and its literal, in which texts are quoted.
-/

namespace CaptureControl

/-- A value of a result row or of a bound parameter. -/
inductive Value where
  /-- The absent value. -/
  | null
  /-- A truth value. -/
  | bool (b : Bool)
  /-- An integer. -/
  | int (n : Int)
  /-- A real number. -/
  | real (x : Float)
  /-- A text. -/
  | text (s : String)
  /-- An octet string, as large objects are delivered. -/
  | bytes (octets : List UInt8)
  /-- A writable octet string. -/
  | buffer (octets : List UInt8)
  /-- A list of values. -/
  | list (items : List Value)
  deriving Inhabited

namespace Value

/-- Items between commas. -/
def joined (items : List String) : String :=
  String.intercalate ", " items

mutual

/-- The literal of a value. It is meant for plain values: integers of at most `Decimal.digitLimit`
digits, and texts, octet strings and lists without a written form of their own. -/
def literal : Value → String
  | null => "None"
  | bool b => if b then "True" else "False"
  | int n => toString n
  | real x => Decimal.realText x
  | text s => Text.quoted s
  | bytes octets => Text.quotedOctets octets
  | buffer octets => "bytearray(" ++ Text.quotedBuffer octets ++ ")"
  | list items => "[" ++ joined (literals items) ++ "]"

/-- The literals of the items of a list. -/
def literals : List Value → List String
  | [] => []
  | v :: vs => literal v :: literals vs

end

/-- The text of a value: a text is its own, any other value has its literal. -/
def toText : Value → String
  | text s => s
  | v => v.literal

/-- The literal of a row of values: a single value keeps its comma. -/
def rowLiteral : List Value → String
  | [v] => "(" ++ v.literal ++ ",)"
  | vs => "(" ++ joined (vs.map literal) ++ ")"

end Value

end CaptureControl
