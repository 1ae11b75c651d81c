import CaptureControl.Fault
import CaptureControl.KeyedList
import CaptureControl.Text.Blank
import CaptureControl.Text.LetterCase
import CaptureControl.Text.Split

/-!
# Names of metrics objects

A metrics object is named by a domain and key properties, as in `domain:key=value,key=value`. Names
of samples follow other rules, so texts are compared by their *slugs*: lower-case letters and digits
of ASCII, with one underscore for each run of other characters between them.
-/

namespace CaptureControl

/-! ### Slugs -/

/-- Whether a character stands for itself in a slug. -/
def isSlugChar (c : Char) : Bool :=
  c.isLower || c.isDigit

/-- Writes the characters of slugs, with an underscore before each that follows other characters;
`gap` tells whether such characters are pending. -/
def slugFrom (gap : Bool) : List Char → List Char
  | [] => []
  | c :: cs =>
    if isSlugChar c then
      if gap then '_' :: c :: slugFrom false cs else c :: slugFrom false cs
    else slugFrom true cs

/-- The slug of a text in lower case. Nothing is written for what precedes the first character of a
slug and for what follows the last one. -/
def slugOfLower (cs : List Char) : List Char :=
  slugFrom false (cs.dropWhile fun c => !isSlugChar c)

/-- The slug of a text. -/
def slug (cs : List Char) : List Char :=
  slugOfLower (Text.lower cs)

/-! ### Object names -/

/-- The name of a metrics object. -/
structure ObjectName where
  /-- The domain. -/
  domain : List Char
  /-- The key properties, each key once. -/
  properties : KeyedList (List Char) (List Char)
  deriving Repr, DecidableEq

namespace ObjectName

/-- Adds a piece `key=value` to the properties. A blank piece adds nothing; one without `=` or
without key is refused. -/
def addPiece? (properties : KeyedList (List Char) (List Char)) (piece : List Char) :
    Option (KeyedList (List Char) (List Char)) :=
  if piece.all Text.isBlank then some properties
  else match Text.cut '=' piece with
    | (_, none) => none
    | (key, some value) =>
      if key.all Text.isBlank then none
      else some (properties.put (Text.trim key) (Text.trim value))

/-- Reads the name of a metrics object. What stands after the first colon are properties between
commas; of a key that is given twice the last value counts. -/
def parse? (text : List Char) : Option ObjectName := do
  let (domain, rest) := Text.cut ':' text
  let properties ← (Text.pieces ',' (rest.getD [])).foldlM addPiece? []
  return { domain := Text.trim domain, properties }

/-- Reads the name of a metrics object, or fails. -/
def parse {τ : Type} (text : String) : Except (Fault τ) ObjectName :=
  match parse? text.toList with
  | some name => .ok name
  | none => .error (.objectName text)

end ObjectName

end CaptureControl
