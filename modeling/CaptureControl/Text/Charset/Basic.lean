import CaptureControl.Text.Utf8

/-!
# Charsets

A charset says how octets are read as characters. Octets that are ill-formed are read as replacement
characters; a charset may also refuse octets as a whole, when they cannot be a text of it. Octets
that are there as a whole, and not arriving, may have to be well-formed.

Most charsets are given by a `Reader`: a state, and a function that tells what stands at the front
of the octets that are left. Every front has at least one octet, so a text is read octet by octet,
with a count of those that the last front still covers.
-/

namespace CaptureControl.Text

/-- A text in which no character is replaced. -/
def unlessReplaced (text : Option (List Char)) : Option (List Char) :=
  text.filter fun cs => !cs.contains replacement

/-- A charset. -/
structure Charset where
  /-- Reads octets that arrive, or refuses them. -/
  read? : List UInt8 → Option (List Char)
  /-- Reads octets that are there as a whole, or refuses them if they are ill-formed. -/
  readWhole? : List UInt8 → Option (List Char) := fun octets => unlessReplaced (read? octets)

namespace Charset

/-- What stands at the front of octets. -/
inductive Front (σ : Type) where
  /-- Characters that so many octets write, and the state after them. -/
  | chars (cs : List Char) (width : Nat) (next : σ)
  /-- So many octets that are ill-formed. -/
  | illFormed (width : Nat)
  /-- The beginning of something that the octets do not finish. -/
  | unfinished
  /-- Octets that are refused. -/
  | refused

/-- A charset that is read from front to back. -/
structure Reader (σ : Type) where
  /-- The state at the start. -/
  start : σ
  /-- What stands at the front, given its first octet and the others. -/
  front : σ → UInt8 → List UInt8 → Front σ
  /-- What the end of the octets adds. -/
  atEnd : σ → List Char := fun _ => []

/-- Reads octets from a state on, after some that the last front covers. -/
def Reader.readFrom {σ : Type} (r : Reader σ) : Nat → σ → List UInt8 → Option (List Char)
  | _, s, [] => some (r.atEnd s)
  | n + 1, s, _ :: bs => r.readFrom n s bs
  | 0, s, b :: bs =>
    match r.front s b bs with
    | .chars cs width next => (r.readFrom (width - 1) next bs).map (cs ++ ·)
    | .illFormed width => (r.readFrom (width - 1) s bs).map (replacement :: ·)
    | .unfinished => some [replacement]
    | .refused => none

/-- The charset of a reader. -/
def ofReader {σ : Type} (r : Reader σ) : Charset where
  read? := r.readFrom 0 r.start

/-- The charset of fronts that do not depend on what was read before. -/
def ofFront (front : UInt8 → List UInt8 → Front Unit) : Charset :=
  ofReader { start := (), front := fun _ => front }

/-- The charset in which the characters of ASCII stand for themselves, and all other octets start a
front of their own. -/
def overAscii (front : UInt8 → List UInt8 → Front Unit) : Charset :=
  ofFront fun b bs => if b < 0x80 then .chars [Char.ofNat b.toNat] 1 () else front b bs

/-- The front that a look-up of so many octets gives. If it finds nothing, one octet is ill-formed,
and the next may be the front of something else. -/
def Front.found (width : Nat) : Option (List Char) → Front Unit
  | some cs => .chars cs width ()
  | none => .illFormed 1

/-- The front of two octets that are looked up together. -/
def Front.pair (lookUp : Nat → Nat → Option (List Char)) (b : UInt8) : List UInt8 → Front Unit
  | [] => .unfinished
  | c :: _ => .found 2 (lookUp b.toNat c.toNat)

/-- The text of one character. -/
def one (c : Option Char) : Option (List Char) :=
  c.map ([·])

end Charset

end CaptureControl.Text
