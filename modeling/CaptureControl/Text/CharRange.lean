/-!
# Sets of characters given by ranges

Properties of characters that a standard fixes by table are stored as lists of closed ranges of
code points. Membership is a search through the list; the tables are short enough for that.
-/

namespace CaptureControl.Text

/-- The characters from one code point to another, both included. -/
structure CharRange where
  /-- The least code point. -/
  first : Nat
  /-- The greatest code point. -/
  last : Nat
  deriving Repr, DecidableEq

/-- Whether a character lies in a range. -/
def CharRange.contains (r : CharRange) (c : Char) : Bool :=
  r.first ≤ c.toNat && c.toNat ≤ r.last

/-- Whether a character lies in one of the ranges of a table. -/
def inRanges (table : List CharRange) (c : Char) : Bool :=
  table.any (·.contains c)

end CaptureControl.Text
