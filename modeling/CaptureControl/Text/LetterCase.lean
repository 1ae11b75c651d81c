import CaptureControl.Text.LetterCaseTable

/-!
# Lower case

The full lower-case form of a text. It is taken letter by letter, with two exceptions of the
standard: the capital I with a dot above becomes two characters, and a capital sigma at the end of
a word becomes the final form of the letter. A sigma ends a word if the nearest character before it
has letter case and the nearest character after it has not, where apostrophes, combining marks and
the like are looked past on both sides.
-/

namespace CaptureControl.Text

/-- Whether case rules look past a character. -/
def isCaseIgnorable (c : Char) : Bool :=
  inRanges caseIgnorableRanges c

/-- Whether a character has letter case. -/
def isCased (c : Char) : Bool :=
  inRanges casedRanges c

/-- The lower-case form of a letter on its own. -/
def lowerLetter (c : Char) : List Char :=
  if c.toNat < 0x80 then [c.toLower]
  else if c = 'İ' then ['i', '\u0307']
  else match caseRuns.find? (·.contains c) with
    | some r => [Char.ofNat (c.toNat + r.shift).toNat]
    | none => [c]

/-- Whether the first character that case rules do not look past has letter case. -/
def startsCased (cs : List Char) : Bool :=
  match cs.dropWhile isCaseIgnorable with
  | [] => false
  | c :: _ => isCased c

/-- Lowers a text that follows a character with letter case, or one without. -/
def lowerAfter (afterCased : Bool) : List Char → List Char
  | [] => []
  | c :: cs =>
    let lowered :=
      if c = 'Σ' then [if afterCased && !startsCased cs then 'ς' else 'σ'] else lowerLetter c
    lowered ++ lowerAfter (if isCaseIgnorable c then afterCased else isCased c) cs

/-- The lower-case form of a text. -/
def lower (cs : List Char) : List Char :=
  lowerAfter false cs

end CaptureControl.Text
