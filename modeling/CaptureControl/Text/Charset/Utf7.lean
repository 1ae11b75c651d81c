import CaptureControl.Text.Charset.Basic

/-!
# UTF-7

ASCII stands for itself, and everything else in shifted stretches: after a plus sign come the bits
of UTF-16 in base 64, up to a minus sign, which is passed over, or another octet outside base 64,
which is not. Bits that are left over must be fewer than a digit has, and zero.
-/

namespace CaptureControl.Text.Charset

/-- What is left over of the digits of a shifted stretch. -/
structure Shift where
  /-- The bits that have not become a unit yet, as a number. -/
  bits : Nat
  /-- How many bits these are. -/
  count : Nat
  /-- A high surrogate that waits for its other half. -/
  high : Option Nat
  deriving Repr, DecidableEq

namespace Shift

/-- Nothing is left over. -/
def none : Shift := ⟨0, 0, .none⟩

/-- Whether left-over bits break the rules. -/
def isLoose (s : Shift) : Bool :=
  decide (6 ≤ s.count) || decide (s.bits ≠ 0)

/-- The character of a unit that is no low surrogate after a high one. A surrogate by itself is no
character. -/
def unit (u : Nat) : List Char × Shift :=
  if 0xD800 ≤ u ∧ u < 0xDC00 then ([], ⟨0, 0, some u⟩)
  else if 0xDC00 ≤ u ∧ u < 0xE000 then ([replacement], none)
  else ([Char.ofNat u], none)

/-- Takes a unit in. -/
def takeUnit (high : Option Nat) (u : Nat) : List Char × Shift :=
  match high with
  | .none => unit u
  | some h =>
    if 0xDC00 ≤ u ∧ u < 0xE000 then
      ([Char.ofNat (0x10000 + 0x400 * (h - 0xD800) + (u - 0xDC00))], none)
    else (replacement :: (unit u).1, (unit u).2)

/-- Takes a digit in, which may complete a unit. -/
def takeDigit (s : Shift) (digit : Nat) : List Char × Shift :=
  let bits := 0x40 * s.bits + digit
  let count := s.count + 6
  if count < 16 then ([], ⟨bits, count, s.high⟩)
  else
    let rest := Nat.pow 2 (count - 16)
    let (cs, next) := takeUnit s.high (bits / rest)
    (cs, { next with bits := bits % rest, count := count - 16 })

end Shift

/-- The value of a digit in base 64. -/
def base64Digit? (b : UInt8) : Option Nat :=
  let c := Char.ofNat b.toNat
  if c.isUpper then some (c.toNat - 'A'.toNat)
  else if c.isLower then some (c.toNat - 'a'.toNat + 26)
  else if c.isDigit then some (c.toNat - '0'.toNat + 52)
  else if c = '+' then some 62
  else if c = '/' then some 63
  else none

/-- The front of a text outside shifted stretches. -/
def utf7Direct (b : UInt8) (bs : List UInt8) : Front (Option Shift) :=
  if b = 0x2B then
    match bs with
    | [] => .chars [] 1 (some .none)
    | c :: _ =>
      if c = 0x2D then .chars ['+'] 2 none
      else if (base64Digit? c).isSome then .chars [] 1 (some .none)
      else .illFormed 2
  else if b < 0x80 then .chars [Char.ofNat b.toNat] 1 none
  else .illFormed 1

/-- The front of a text inside a shifted stretch. -/
def utf7Shifted (s : Shift) (b : UInt8) : Front (Option Shift) :=
  match base64Digit? b with
  | some digit =>
    let (cs, next) := s.takeDigit digit
    .chars cs 1 (some next)
  | none =>
    if s.isLoose then .chars [replacement] 1 none
    else if b < 0x80 then
      let lone := if s.high.isSome then [replacement] else []
      .chars (if b = 0x2D then lone else lone ++ [Char.ofNat b.toNat]) 1 none
    else .chars [replacement] 1 none

/-- UTF-7. -/
def utf7 : Charset :=
  ofReader {
    start := none
    front := fun s b bs =>
      match s with
      | none => utf7Direct b bs
      | some s => utf7Shifted s b
    atEnd := fun s =>
      match s with
      | some s => if s.high.isSome || s.isLoose then [replacement] else []
      | none => [] }

end CaptureControl.Text.Charset
