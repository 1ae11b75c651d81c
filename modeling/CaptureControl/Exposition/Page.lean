import CaptureControl.Exposition.Line

/-!
# Text expositions

A text exposition is read line by line. `TYPE` and `HELP` lines open a family; the samples that
follow belong to it as long as their names are among those that its type allows. A sample with
another name ends the family and stands alone. The samples of a family of counters are given the
suffix of counters unless the family's name has it.

A fault anywhere makes the whole page unreadable, also after a sample that would have answered.
-/

namespace CaptureControl.Exposition

/-- The family that is being read. Without name there is none. -/
structure OpenFamily where
  /-- The name of the family. -/
  name : List Char
  /-- The type of its metric. -/
  type : List Char
  /-- The names of its samples. -/
  allowed : List (List Char)
  /-- The samples so far, the newest first. -/
  samples : List Sample
  deriving Repr

namespace OpenFamily

/-- No family. -/
def none : OpenFamily := ⟨[], "untyped".toList, [], []⟩

/-- The types of metrics. -/
def types : List String :=
  ["counter", "gauge", "summary", "histogram", "gaugehistogram", "unknown", "untyped", "info",
    "stateset"]

/-- The suffixes of the samples of a metric. -/
def suffixes (type : List Char) : List String :=
  if type = "summary".toList then ["_count", "_sum", ""]
  else if type = "histogram".toList then ["_count", "_sum", "_bucket"]
  else [""]

/-- The suffix of counters. -/
def totalSuffix : List Char := "_total".toList

/-- The samples of a finished family, unless its type is unknown or no name is left of it. -/
def close? (f : OpenFamily) : Option Family :=
  let samples := f.samples.reverse
  if !types.any fun t => f.type = t.toList then Option.none
  else if f.type = "counter".toList then
    if Text.endsIn totalSuffix f.name then
      if f.name = totalSuffix then Option.none else some samples
    else some (samples.map fun s => { s with name := s.name ++ totalSuffix })
  else some samples

end OpenFamily

/-- The families that have been read, the newest first, and the one that is being read. -/
structure Reading where
  /-- The finished families, the newest first. -/
  families : List Family
  /-- The family that is being read. -/
  current : OpenFamily

namespace Reading

/-- Nothing has been read. -/
def start : Reading := ⟨[], .none⟩

/-- Finishes the current family, if there is one. -/
def finish (r : Reading) : Except ReadFault (List Family) :=
  if r.current.name.isEmpty then .ok r.families
  else match r.current.close? with
    | some family => .ok (family :: r.families)
    | none => .error .malformed

/-- Makes way for a family of another name. -/
def turnTo (name : List Char) (fresh : OpenFamily) (r : Reading) : Except ReadFault Reading :=
  if name = r.current.name then .ok r
  else do return ⟨← r.finish, fresh⟩

/-- Reads a `HELP` line about a family. -/
def help (name : List Char) (r : Reading) : Except ReadFault Reading :=
  r.turnTo name ⟨name, "untyped".toList, [name], []⟩

/-- Reads a `TYPE` line about a family. -/
def type (name type : List Char) (r : Reading) : Except ReadFault Reading := do
  let r ← r.turnTo name ⟨name, type, [], []⟩
  let allowed := (OpenFamily.suffixes type).map fun suffix => name ++ suffix.toList
  return { r with current := { r.current with type, allowed } }

/-- Reads a sample. -/
def sample (s : Sample) (r : Reading) : Except ReadFault Reading :=
  if r.current.allowed.contains s.name then
    .ok { r with current := { r.current with samples := s :: r.current.samples } }
  else if s.name.isEmpty then .error .malformed
  else do return ⟨[s] :: (← r.finish), .none⟩

/-- The characters that separate the fields of a comment line. -/
def isFieldGap (c : Char) : Bool :=
  c == ' ' || (0x09 ≤ c.toNat && c.toNat ≤ 0x0D)

/-- The fields of a line outside quotes, and at most so many cuts. -/
def fields : Nat → List Char → List (List Char)
  | 0, cs => [cs.dropWhile isFieldGap]
  | n + 1, cs =>
    match cutUnquoted isFieldGap (cs.dropWhile isFieldGap) with
    | (field, []) => [field]
    | (field, _ :: rest) => field :: fields n rest

/-- Reads a comment line. It is about a family if its second field says so; then the third field is
the name of the family, and a type line has a fourth one. -/
def comment (line : List Char) (r : Reading) : Except ReadFault Reading :=
  match fields 3 line with
  | [_, keyword] =>
    if keyword = "HELP".toList then r.help []
    else if keyword = "TYPE".toList then .error .malformed
    else .ok r
  | _ :: keyword :: field :: more =>
    if keyword = "HELP".toList then do r.help (← WrittenName.readChecked field)
    else if keyword = "TYPE".toList then do
      let name ← WrittenName.readChecked field
      match more with
      | [] => .error .malformed
      | type :: _ => r.type name type
    else .ok r
  | _ => .ok r

/-- Reads a line. Blank lines say nothing. -/
def line (r : Reading) (text : List Char) : Except ReadFault Reading :=
  match Text.trim text with
  | [] => .ok r
  | '#' :: rest => r.comment ('#' :: rest)
  | cs => do r.sample (← readSample cs)

end Reading

/-- Reads a text exposition: its families in the order in which they end. -/
def readPage (body : String) : Except ReadFault (List Family) := do
  let r ← (Text.pieces '\n' body.toList).foldlM Reading.line Reading.start
  return (← r.finish).reverse

end CaptureControl.Exposition
