import CaptureControl.Text.Charset.Basic

/-!
# The charsets of Unicode

UTF-8, with or without a signature in front, and UTF-16 and UTF-32, in a byte order that is fixed or
that a mark in front tells. A text that arrives in an order neither fixed nor told is refused,
unless it is shorter than a unit; one that is there as a whole has the order with the least
significant octets first.
-/

namespace CaptureControl.Text.Charset

/-- UTF-8. -/
def utf8 : Charset where
  read? octets := some (readUtf8From none octets)

/-- The signature that texts in UTF-8 may begin with. -/
def signature : List UInt8 := [0xEF, 0xBB, 0xBF]

/-- UTF-8 after a signature, which may be missing; what could still become one is passed over. -/
def utf8Signed : Charset where
  read? octets :=
    if octets.isPrefixOf signature then some []
    else if signature.isPrefixOf octets then utf8.read? (octets.drop signature.length)
    else utf8.read? octets

/-- The order of the octets of a unit. -/
inductive ByteOrder where
  /-- The least significant octet comes first. -/
  | little
  /-- The most significant octet comes first. -/
  | big
  deriving Repr, DecidableEq

/-- The unit that octets make up. -/
def ByteOrder.unit (order : ByteOrder) (octets : List UInt8) : Nat :=
  let bigFirst := match order with
    | little => octets.reverse
    | big => octets
  bigFirst.foldl (fun n b => 0x100 * n + b.toNat) 0

/-- The front of a text in UTF-16: a unit, or a pair of surrogates. -/
def utf16Front (order : ByteOrder) (a : UInt8) : List UInt8 → Front Unit
  | [] => .unfinished
  | b :: rest =>
    let unit := order.unit [a, b]
    if unit < 0xD800 ∨ 0xE000 ≤ unit then .chars [Char.ofNat unit] 2 ()
    else if 0xDC00 ≤ unit then .illFormed 2
    else match rest with
      | c :: d :: _ =>
        let low := order.unit [c, d]
        if 0xDC00 ≤ low ∧ low < 0xE000 then
          .chars [Char.ofNat (0x10000 + 0x400 * (unit - 0xD800) + (low - 0xDC00))] 4 ()
        else .illFormed 2
      | _ => .unfinished

/-- The front of a text in UTF-32. -/
def utf32Front (order : ByteOrder) (a : UInt8) : List UInt8 → Front Unit
  | b :: c :: d :: _ =>
    let unit := order.unit [a, b, c, d]
    if unit < 0xD800 ∨ (0xE000 ≤ unit ∧ unit < 0x110000) then .chars [Char.ofNat unit] 4 ()
    else .illFormed 4
  | _ => .unfinished

/-- UTF-16 in a fixed order. -/
def utf16In (order : ByteOrder) : Charset :=
  ofFront (utf16Front order)

/-- UTF-32 in a fixed order. -/
def utf32In (order : ByteOrder) : Charset :=
  ofFront (utf32Front order)

/-- The charset whose order a mark tells, given the mark in the one order. -/
def marked (mark : List UInt8) (charset : ByteOrder → Charset) : Charset where
  read? octets := (byMark? octets).getD <|
    if octets.isEmpty then some []
    else if octets.length < mark.length then some [replacement]
    else none
  readWhole? octets := unlessReplaced ((byMark? octets).getD ((charset .little).read? octets))
where
  /-- What octets after a mark are read as. -/
  byMark? (octets : List UInt8) : Option (Option (List Char)) :=
    if mark.isPrefixOf octets then some ((charset .little).read? (octets.drop mark.length))
    else if mark.reverse.isPrefixOf octets then
      some ((charset .big).read? (octets.drop mark.length))
    else none

/-- UTF-16 after a mark. -/
def utf16 : Charset := marked [0xFF, 0xFE] utf16In

/-- UTF-32 after a mark. -/
def utf32 : Charset := marked [0xFF, 0xFE, 0x00, 0x00] utf32In

end CaptureControl.Text.Charset
