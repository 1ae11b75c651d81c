import CaptureControl.Decimal.Numeral
import CaptureControl.Exposition.Quoting
import CaptureControl.Exposition.Sample
import CaptureControl.Text.Split

/-!
# Sample lines of a text exposition

A sample line is `name{label="value",…} value timestamp`, where the labels and the timestamp may be
missing. The name may also be the only quoted term among the labels, or the label `__name__`.
Numbers are numerals without underscores, integers or reals.
-/

namespace CaptureControl.Exposition

/-! ### Labels -/

/-- The label that holds the name of a sample. -/
def nameLabel : List Char := "__name__".toList

/-- The labels of a sample, each name once. -/
abbrev Labels := KeyedList (List Char) (List Char)

/-- The next term of a list of labels: the name, the value, and what follows. A term without `=` is
the name of the sample. A comma may stand before the term, but not two. -/
def nextTerm? (cs : List Char) : Option (List Char × List Char × List Char) :=
  let terms := match cs with
    | ',' :: rest => if rest.head? = some ',' then none else some rest
    | cs => some cs
  terms.map fun cs =>
    match cutUnquoted (fun c => c == '=' || c == ',') cs with
    | (name, '=' :: rest) =>
      let (value, rest) := cutUnquoted (· == ',') rest
      (name, Text.trim value, Text.trim rest)
    | (value, rest) => (nameLabel, Text.trim value, Text.trim rest)

/-- Whether a label may have a name: two underscores in front are reserved, but for the label that
holds the name of the sample, and but for names of several lines. -/
def isLabelName (name : List Char) : Bool :=
  name = nameLabel || !"__".toList.isPrefixOf name || (Text.withoutFinalBreak name).contains '\n'

/-- Adds a label, whose name must be new. A term without value adds none. -/
def addLabel (labels : Labels) (name value : List Char) : Except ReadFault Labels :=
  if value.isEmpty then .ok labels
  else do
    let name ← WrittenName.readChecked name
    match readQuoted? value with
    | some value =>
      if isLabelName name && (labels.get? name).isNone then return labels ++ [(name, value)]
      else throw .malformed
    | none => throw .malformed

/-- Reads terms until none is left; every term but a last comma takes at least one character. -/
def readTerms : Nat → Labels → List Char → Except ReadFault Labels
  | _, labels, [] => .ok labels
  | 0, _, _ :: _ => .error .malformed
  | n + 1, labels, cs =>
    match nextTerm? cs with
    | some (name, value, rest) => do readTerms n (← addLabel labels name value) rest
    | none => .error .malformed

/-- Reads the labels between the braces. -/
def readLabels (cs : List Char) : Except ReadFault Labels :=
  let cs := Text.trim cs
  readTerms cs.length [] cs

/-! ### Numbers -/

/-- A number of a sample line. -/
inductive Number where
  /-- An integer. -/
  | integer (n : Int)
  /-- A real number. -/
  | real (x : Float)

/-- Reads a number. -/
def Number.read? (cs : List Char) : Option Number :=
  if cs.contains '_' then none
  else match Decimal.readInteger cs with
    | .ok n => some (.integer n)
    | .error _ => (Decimal.readReal? cs).map .real

/-- Whether a number is other than zero; the undefined number is. -/
def Number.holds : Number → Bool
  | .integer n => n ≠ 0
  | .real x => !(x == 0.0)

/-- The least integer of milliseconds whose seconds round beyond the range of doubles. -/
def timestampLimit : Nat := 1000 * (Nat.pow 2 1024 - Nat.pow 2 970)

/-- Whether a number can be a timestamp: a real number can, and an integer unless its seconds are
beyond the range of doubles. -/
def Number.isTimestamp : Number → Bool
  | .integer n => n.natAbs < timestampLimit
  | .real _ => true

/-- Reads the value of a sample, and checks the timestamp, which is the last number if there are
several. Numbers stand between spaces, or between tabs if there is no space. -/
def readNumbers (cs : List Char) : Except ReadFault Bool :=
  let cs := cs.dropWhile Text.isBlank
  let separator := if cs.contains ' ' then ' ' else '\t'
  match ((Text.pieces separator cs).map Text.trim).filter (!·.isEmpty) with
  | [] => .error .malformed
  | value :: more =>
    match Number.read? value, more.getLast?.map Number.read? with
    | none, _ => .error .malformed
    | some value, none => .ok value.holds
    | some _, some none => .error .malformed
    | some value, some (some time) =>
      if time.isTimestamp then .ok value.holds else .error .timestamp

/-! ### Lines -/

/-- What must not stand before labels: from there on a line is about an exemplar. -/
def exemplarMark : List Char := " # ".toList

/-- A sample line without labels. The name ends at the first gap; in a line without gap the value is
the whole line, and the name all but its last character. -/
def readPlain (line : List Char) : Except ReadFault Sample :=
  let (name, rest) := match cutUnquoted (fun c => c == ' ' || c == '\t') line with
    | (_, []) => (line.dropLast, line)
    | (name, _ :: rest) => (name, rest)
  let name := Text.trim name
  if isPlainName name then do
    return { name, labels := [], holds := ← readNumbers rest }
  else .error .malformed

/-- The name of a sample, from before the labels or from among them, and the other labels. -/
def nameOf? (name : List Char) (labels : Labels) : Option (List Char × Labels) :=
  match labels.get? nameLabel with
  | none => if name.isEmpty then none else some (name, labels)
  | some labelled =>
    if name.isEmpty then some (labelled, labels.filter fun l => !decide (l.1 = nameLabel)) else none

/-- A sample line with labels after a name; the text starts at the opening brace. Labels that are
never closed are malformed; without a name in front they are looked through for another fault first,
but for the last character. -/
def readLabelled (name cs : List Char) : Except ReadFault Sample :=
  match cutUnquoted (· == '}') (cs.drop 1) with
  | (_, []) => do
    if name.isEmpty then discard (readLabels (cs.drop 1).dropLast)
    throw .malformed
  | (labels, _ :: rest) => do
    match nameOf? (Text.trim name) (← readLabels labels) with
    | some (name, labels) => return { name, labels, holds := ← readNumbers rest }
    | none => throw .malformed

/-- Reads a sample line. -/
def readSample (line : List Char) : Except ReadFault Sample :=
  match cutUnquoted (· == '{') line with
  | (_, []) => readPlain line
  | (name, rest) =>
    if Text.occursIn exemplarMark name then readPlain line else readLabelled name rest

end CaptureControl.Exposition
