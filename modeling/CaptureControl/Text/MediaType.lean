import CaptureControl.Text.Blank
import CaptureControl.Text.Digit
import CaptureControl.Text.Split

/-!
# Parameters of media types

A media type such as `text/plain; charset=utf-8` has parameters between semicolons. A value may
stand between double quotes, in which semicolons do not separate, or between angle brackets. A long
value may be continued over several parameters, `name*0`, `name*1` and so on. Parts with an asterisk
behind the number are written with percent signs, and such a value tells a charset and a language in
front.
-/

namespace CaptureControl.Text.MediaType

/-! ### Parameters -/

/-- The parts of a media type between semicolons that are outside quotes. The flags tell whether the
text starts inside quotes, and whether a backslash precedes it, after which a quote does not
count. -/
def parts (quoted escaped : Bool) : List Char → List (List Char)
  | [] => [[]]
  | c :: cs =>
    if c = ';' && !quoted then [] :: parts false false cs
    else
      let quoted := if c = '"' && !escaped then !quoted else quoted
      match parts quoted (c = '\\') cs with
      | part :: more => (c :: part) :: more
      | [] => [[c]]

/-- A parameter. -/
structure Parameter where
  /-- The name, in lower case. -/
  name : List Char
  /-- The value without the quotes or brackets around it. -/
  value : List Char
  deriving Repr, DecidableEq

/-- The text that escapes between quotes stand for: first a pair of backslashes is one, and then a
backslash before a quote is nothing. -/
def unescaped (cs : List Char) : List Char :=
  quotes (backslashes cs)
where
  /-- Turns pairs of backslashes into one. -/
  backslashes : List Char → List Char
    | '\\' :: '\\' :: cs => '\\' :: backslashes cs
    | c :: cs => c :: backslashes cs
    | [] => []
  /-- Drops the backslashes before quotes. -/
  quotes : List Char → List Char
    | '\\' :: '"' :: cs => '"' :: quotes cs
    | c :: cs => c :: quotes cs
    | [] => []

/-- A value without the quotes or brackets around it. -/
def bare : List Char → List Char
  | '"' :: c :: cs =>
    if (c :: cs).getLast? = some '"' then unescaped (c :: cs).dropLast else '"' :: c :: cs
  | '<' :: c :: cs => if (c :: cs).getLast? = some '>' then (c :: cs).dropLast else '<' :: c :: cs
  | cs => cs

/-- Reads a parameter; one without equals sign has no value. -/
def Parameter.read (part : List Char) : Parameter :=
  let (name, value) := cut '=' part
  ⟨(trim name).map Char.toLower, bare (trim (value.getD []))⟩

/-! ### Continued values -/

/-- A part of a continued value. -/
structure Continuation where
  /-- Its number, if it has one. -/
  number : Option Nat
  /-- Its text. -/
  text : List Char
  /-- Whether it is written with percent signs. -/
  encoded : Bool
  deriving Repr, DecidableEq

/-- What follows the name in a parameter that is part of a continued value: a number, if there is
one, and whether the part is written with percent signs. -/
def continuationMark? (cs : List Char) : Option (Option Nat × Bool) :=
  match cs with
  | ['*'] => some (none, true)
  | '*' :: cs =>
    let digits := cs.takeWhile Char.isDigit
    let number := digits.foldl (fun n d => 10 * n + (d.toNat - '0'.toNat)) 0
    if digits.isEmpty then none
    else match cs.drop digits.length with
      | [] => some (some number, false)
      | ['*'] => some (some number, true)
      | _ => none
  | _ => none

/-- Whether a character may stand in the name of a continued value. -/
def isNameCharacter (c : Char) : Bool :=
  c.isAlphanum || c = '_'

/-- The part of a continued value that a parameter is, with the name of that value. -/
def Continuation.ofParameter? (p : Parameter) : Option (List Char × Continuation) :=
  let name := p.name.takeWhile isNameCharacter
  if name.isEmpty then none
  else (continuationMark? (p.name.drop name.length)).map fun (number, encoded) =>
    (name, ⟨number, p.value, encoded⟩)

/-- The order of parts: by number, and if they have the same one by text. -/
def Continuation.precedes (a b : Continuation) : Bool :=
  let key (c : Continuation) : Nat := c.number.elim 0 (· + 1)
  let (x, y) := (String.ofList a.text, String.ofList b.text)
  decide (key a < key b) || (key a == key b
    && (decide (x < y) || (x == y && (!a.encoded || b.encoded))))

/-- A text with every percent sign and two digits replaced by the character of that code. -/
def percentDecoded : List Char → List Char
  | '%' :: a :: b :: cs =>
    match hexDigit? a, hexDigit? b with
    | some x, some y => Char.ofNat (0x10 * x + y) :: percentDecoded cs
    | _, _ => '%' :: percentDecoded (a :: b :: cs)
  | c :: cs => c :: percentDecoded cs
  | [] => []

/-- The text that a part stands for. -/
def Continuation.decoded (c : Continuation) : List Char :=
  if c.encoded then percentDecoded c.text else c.text

/-! ### Values -/

/-- The value of a parameter. -/
inductive Value where
  /-- A text. -/
  | plain (text : List Char)
  /-- The octets of a text in a charset, each as a character. No charset may be told. -/
  | extended (charset octets : List Char)
  deriving Repr, DecidableEq

/-- The value that parts make up, in their order. -/
def joined (sorted : List Continuation) : Value :=
  let text := sorted.flatMap Continuation.decoded
  if sorted.any Continuation.encoded then
    match cut '\'' text with
    | (charset, some rest) =>
      match cut '\'' rest with
      | (_, some octets) => .extended charset octets
      | (_, none) => .extended [] text
    | (_, none) => .extended [] text
  else .plain text

/-- The first part that has a number although the first of all has none, or the other way round. -/
def Continuation.misfit? : List Continuation → Option Continuation
  | [] => none
  | first :: more => more.find? fun c => c.number.isSome != first.number.isSome

/-- The parts of a value. -/
def partsOf (name : List Char) (parts : List (List Char × Continuation)) : List Continuation :=
  parts.filterMap fun (n, part) => if n = name then some part else none

/-- The value of a parameter of a media type: that of the first parameter with the name, or else one
that is continued. The first parameter of all, which usually is the type itself, continues none.
Parts with and without numbers have no order, and one that cannot be put into the order of its value
spoils the whole media type, whatever it is a part of. -/
def value? (name : List Char) (mediaType : List Char) : Except Continuation (Option Value) :=
  let parameters := (parts false false mediaType).map Parameter.read
  let continued := (parameters.drop 1).filterMap Continuation.ofParameter?
  match (continued.map Prod.fst).findSome? fun n => Continuation.misfit? (partsOf n continued) with
  | some part => .error part
  | none =>
    match parameters.find? fun p => p.name = name with
    | some p => .ok (some (.plain p.value))
    | none =>
      match partsOf name continued with
      | [] => .ok none
      | first :: more => .ok (some (joined ((first :: more).mergeSort Continuation.precedes)))

end CaptureControl.Text.MediaType
