import CaptureControl.Text.Charset.Basic
import CaptureControl.Text.Digit

/-!
# Charsets of backslash escapes

Every octet is a character of Latin-1, but a backslash starts an escape for any other character. The
short form knows only escapes by code point; the full form has those of string literals too, but no
characters by name.
-/

namespace CaptureControl.Text.Charset

/-- The front of an escape by code point with so many hexadecimal digits, given the octets after its
first two. -/
def codeFront (count : Nat) (bs : List UInt8) : Front Unit :=
  let digits := (bs.take count).map fun b => hexDigit? (Char.ofNat b.toNat)
  let good := digits.takeWhile Option.isSome
  if good.length = count then
    let code : Nat := good.foldl (fun n d => 0x10 * n + d.getD 0) 0
    if code < 0x110000 then
      .chars [if code.isValidChar then Char.ofNat code else replacement] (2 + count) ()
    else .illFormed (2 + count)
  else if good.length = bs.length then .unfinished
  else .illFormed (2 + good.length)

/-- A character by itself. -/
def plainFront (b : UInt8) : Front Unit :=
  .chars [Char.ofNat b.toNat] 1 ()

/-- The front of a text in the short form. -/
def shortEscapeFront (b : UInt8) (bs : List UInt8) : Front Unit :=
  if b = 0x5C then
    match bs with
    | [] => plainFront b
    | c :: rest =>
      match Char.ofNat c.toNat with
      | 'u' => codeFront 4 rest
      | 'U' => codeFront 8 rest
      | other => .chars ['\\', other] 2 ()
  else plainFront b

/-- The short form. -/
def shortEscapes : Charset := ofFront shortEscapeFront

/-- The characters of escapes of one character. -/
def simpleEscapes : List (Char × List Char) :=
  [('\n', []), ('\\', ['\\']), ('\'', ['\'']), ('"', ['"']), ('a', ['\x07']), ('b', ['\x08']),
    ('f', ['\x0c']), ('n', ['\n']), ('r', ['\r']), ('t', ['\t']), ('v', ['\x0b'])]

/-- Whether an octet is an octal digit. -/
def isOctal (b : UInt8) : Bool :=
  0x30 ≤ b && b ≤ 0x37

/-- The front of an escape by name, given the octets after its first two. No name is known. -/
def nameFront : List UInt8 → Front Unit
  | [] => .unfinished
  | c :: bs =>
    if c = 0x7B then
      let name := bs.takeWhile fun b => b != 0x7D
      if name.length = bs.length then .unfinished
      else .illFormed (3 + if name.isEmpty then 0 else name.length + 1)
    else .illFormed 2

/-- The front of an escape in the full form, given the octets after the backslash. -/
def fullEscapeFront : List UInt8 → Front Unit
  | [] => .unfinished
  | c :: rest =>
    match simpleEscapes.lookup (Char.ofNat c.toNat) with
    | some cs => .chars cs 2 ()
    | none =>
      if isOctal c then
        let digits := (c :: rest.take 2).takeWhile isOctal
        let code := digits.foldl (fun n d => 8 * n + (d.toNat - 0x30)) 0
        .chars [Char.ofNat code] (1 + digits.length) ()
      else match Char.ofNat c.toNat with
        | 'x' => codeFront 2 rest
        | 'u' => codeFront 4 rest
        | 'U' => codeFront 8 rest
        | 'N' => nameFront rest
        | other => .chars ['\\', other] 2 ()

/-- The full form. -/
def fullEscapes : Charset :=
  ofFront fun b bs => if b = 0x5C then fullEscapeFront bs else plainFront b

end CaptureControl.Text.Charset
