import CaptureControl.Text.Utf8

/-!
# Sets of characters in rows and cells

The sets that need more than an octet are laid out in numbered rows of numbered cells. A `Grid`
keeps the cells that have characters, stretch by stretch. Where consecutive codes stand for
consecutive characters, a `Run` keeps the first of them only.
-/

namespace CaptureControl.Text.Charset

/-- Characters in consecutive cells of a row. The replacement character marks a cell without
character. -/
structure Stretch where
  /-- The number of the row. -/
  row : Nat
  /-- The number of the first cell. -/
  cell : Nat
  /-- The characters. -/
  text : String

/-- The character in a cell of a stretch. -/
def Stretch.get? (s : Stretch) (row cell : Nat) : Option Char :=
  if s.row = row ∧ s.cell ≤ cell then
    (s.text.toList[cell - s.cell]?).filter fun c => c ≠ replacement
  else none

/-- A set of characters in rows and cells. -/
structure Grid where
  /-- The stretches of cells that have characters. -/
  stretches : List Stretch

namespace Grid

/-- The character in a cell. -/
def get? (g : Grid) (row cell : Nat) : Option Char :=
  g.stretches.findSome? fun s => s.get? row cell

/-- The characters in two octets that count rows and cells from a base on. Nothing has the number
zero. -/
def at? (g : Grid) (base b c : Nat) : Option Char :=
  g.get? (b - base) (c - base)

/-- All characters of a set. -/
def chars (g : Grid) : List Char :=
  g.stretches.flatMap fun s => s.text.toList.filter fun c => c ≠ replacement

/-- The characters of a range of code points that a set lacks, in order. -/
def lacking (g : Grid) (first count : Nat) : Array Char :=
  let known := g.chars.foldl (fun (marks : Array Bool) c => marks.setIfInBounds c.toNat true)
    (Array.replicate (first + count) false)
  (((List.range' first count).filter fun n => !known.getD n true).map Char.ofNat).toArray

end Grid

/-- Consecutive codes that stand for consecutive characters. -/
structure Run where
  /-- The first code. -/
  first : Nat
  /-- The last code. -/
  last : Nat
  /-- The code point of the first character. -/
  char : Nat

/-- The character of a code in a run. -/
def Run.get? (r : Run) (code : Nat) : Option Char :=
  if r.first ≤ code ∧ code ≤ r.last then some (Char.ofNat (r.char + (code - r.first))) else none

/-- The character of a code in one of several runs. -/
def charInRuns? (runs : List Run) (code : Nat) : Option Char :=
  runs.findSome? fun r => r.get? code

end CaptureControl.Text.Charset
