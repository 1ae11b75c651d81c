import CaptureControl.ObjectName

/-!
# Samples and attributes

Metrics are exposed as samples, grouped into families. The truth of an attribute of a metrics object
is the truth of the first sample that matches: its name, as a slug, starts with the domain and ends
with the attribute, and each key property is borne out by the label of that name or, if the sample
has no such label, by the sample's name.
-/

namespace CaptureControl

/-- A sample. -/
structure Sample where
  /-- Its name. -/
  name : List Char
  /-- Its labels. -/
  labels : KeyedList (List Char) (List Char)
  /-- Whether its value is other than zero. -/
  holds : Bool
  deriving Repr, DecidableEq

/-- The samples of one metric. -/
abbrev Family := List Sample

namespace Sample

/-- The value of a label. -/
def label? (s : Sample) (key : List Char) : Option (List Char) :=
  s.labels.get? key

/-- Whether a sample bears out a key property: by its label of that name or, only if it has none, by
its name. -/
def bearsOut (s : Sample) (key value : List Char) : Bool :=
  match s.label? key with
  | some labelled => labelled = value
  | none => Text.occursIn (slug value) (slug s.name)

/-- Whether a sample shows an attribute of a metrics object. -/
def shows (s : Sample) (object : ObjectName) (attr : List Char) : Bool :=
  (slug object.domain).isPrefixOf (slug s.name)
    && Text.endsIn (slug attr) (slug s.name)
    && object.properties.all fun (key, value) => s.bearsOut key value

end Sample

/-- The truth of an attribute of a metrics object among families of samples. -/
def findAttribute {τ : Type} (families : List Family) (object attr : String) :
    Except (Fault τ) Bool := do
  let name ← ObjectName.parse object
  match families.flatten.find? fun s => s.shows name attr.toList with
  | some s => return s.holds
  | none => throw (.noAttribute object attr)

end CaptureControl
