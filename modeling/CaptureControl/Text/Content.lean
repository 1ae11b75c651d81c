import CaptureControl.Text.Coding
import CaptureControl.Text.MediaType

/-!
# Received texts

A text is received as octets, with a media type that may name its charset. A charset that is not
named or not known is UTF-8, and a text without octets is empty in any coding.
-/

namespace CaptureControl.Text

/-- Why octets cannot be read as a text. -/
inductive ContentFault where
  /-- The charset refuses them. -/
  | refused
  /-- The coding yields octets. -/
  | octets
  /-- The coding is one of letters. -/
  | letters
  /-- The media type has parts of a value with and without numbers. The flag tells whether the one
  that cannot be put into order is numbered. -/
  | unordered (numbered : Bool)
  deriving Repr, DecidableEq

namespace MediaType

/-- The charset in which a value is written that tells none. -/
def defaultValueCharset : List Char := "us-ascii".toList

/-- The text of a value. An extended value that is ill-formed in its charset is taken as it is. -/
def Value.text : Value → List Char
  | plain text => text
  | extended charset octets =>
    let name := if charset.isEmpty then defaultValueCharset else charset
    match Coding.ofName? name with
    | some (.charset c) => (c.readWhole? (octets.map fun o => UInt8.ofNat o.toNat)).getD octets
    | _ => octets

/-- The coding that a media type names, which is UTF-8 unless another one is known. -/
def coding (mediaType : Option String) : Except ContentFault Coding :=
  let value := match mediaType with
    | some text => value? "charset".toList text.toList
    | none => .ok none
  match value with
  | .error part => .error (.unordered part.number.isSome)
  | .ok value =>
    let name := (value.map Value.text).filter fun cs => cs.all fun c => c.toNat < 0x80
    .ok ((name.bind Coding.ofName?).getD (.charset .utf8))

end MediaType

/-- Reads the octets of a text that was received with a media type. -/
def readContent (mediaType : Option String) (octets : List UInt8) : Except ContentFault String :=
  if octets.isEmpty then .ok ""
  else match MediaType.coding mediaType with
    | .error fault => .error fault
    | .ok (.charset c) =>
      match c.read? octets with
      | some text => .ok (String.ofList text)
      | none => .error .refused
    | .ok .octets => .error .octets
    | .ok .letters => .error .letters

end CaptureControl.Text
