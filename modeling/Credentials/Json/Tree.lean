import Credentials.Text.Utf8

/-!
# JSON as read

A `Json.Tree` is what a JSON text says before anyone asks for the meaning of its strings and numbers.
That question is put only where a value is wanted: a string that is skipped may hold bytes that are
no text, and a number that is skipped may be as large as it likes.

* `Json.Piece` — a piece of a string: a byte, or a code unit from an escape `\uXXXX`.
* `Json.Number` — the digits of a number.
* `Json.text?` — the text that the pieces of a string spell, if they spell one: surrogate code units
  must come in pairs, and the bytes must be UTF-8.
* `Json.Number.int?` — the integer that a number without fraction and exponent spells. Minus zero is
  none.
-/

namespace Credentials.Json

/-! ## Strings -/

/-- A piece of a string. -/
inductive Piece where
  /-- A byte that stands for itself, or comes from a short escape. -/
  | byte (b : UInt8)
  /-- A UTF-16 code unit from an escape of four hexadecimal digits. -/
  | unit (u : UInt16)
  deriving DecidableEq, Repr

/-- A code unit that begins a surrogate pair. -/
def isHighSurrogate (u : UInt16) : Bool := 0xD800 ≤ u && u ≤ 0xDBFF

/-- A code unit that ends a surrogate pair. -/
def isLowSurrogate (u : UInt16) : Bool := 0xDC00 ≤ u && u ≤ 0xDFFF

/-- The character of a surrogate pair. -/
def ofSurrogates (high low : UInt16) : Char :=
  Char.ofNat (0x10000 + (high.toNat - 0xD800) * 0x400 + (low.toNat - 0xDC00))

/-- The bytes that a string spells, unless a surrogate stands alone. -/
def bytes? : List Piece → Option Bytes
  | [] => some []
  | .byte b :: rest => (bytes? rest).map (b :: ·)
  | .unit u :: rest =>
    if isLowSurrogate u then none
    else if isHighSurrogate u then
      match rest with
      | .unit v :: rest =>
        if isLowSurrogate v then
          (bytes? rest).map (String.utf8EncodeChar (ofSurrogates u v) ++ ·)
        else none
      | _ => none
    else (bytes? rest).map (String.utf8EncodeChar (Char.ofNat u.toNat) ++ ·)

/-- The text that a string spells. -/
def text? (pieces : List Piece) : Option String := (bytes? pieces).bind Utf8.string?

/-! ## Numbers -/

/-- The exponent of a number. -/
structure Exponent where
  /-- It has a minus sign. -/
  negative : Bool
  /-- Its digits. -/
  digits : List Nat
  deriving DecidableEq, Repr

/-- A number, digit by digit. -/
structure Number where
  /-- It has a minus sign. -/
  negative : Bool
  /-- The digits before the point. -/
  whole : List Nat
  /-- The digits after the point; none if there is no point. -/
  fraction : List Nat
  /-- The exponent, if there is one. -/
  exponent : Option Exponent
  deriving DecidableEq, Repr

/-- The natural number that a row of decimal digits spells. -/
def ofDigits (ds : List Nat) : Nat := ds.foldl (fun n d => n * 10 + d) 0

/-- The integer that a number spells, if it has neither fraction nor exponent and is not minus
zero. -/
def Number.int? (n : Number) : Option Int :=
  if n.fraction = [] ∧ n.exponent = none then
    if n.negative then
      (if ofDigits n.whole = 0 then none else some (-(ofDigits n.whole : Int)))
    else some (ofDigits n.whole)
  else none

/-! ## Trees -/

/-- A JSON text as read. -/
inductive Tree where
  /-- The value `null`. -/
  | null
  /-- A truth value. -/
  | bool (b : Bool)
  /-- A number. -/
  | number (n : Number)
  /-- A string. -/
  | string (pieces : List Piece)
  /-- A list of values. -/
  | array (elements : List Tree)
  /-- Named values, in order of appearance. -/
  | object (members : List (List Piece × Tree))

namespace Tree

/-- The text of a string. -/
def text? : Tree → Option String
  | .string pieces => Json.text? pieces
  | _ => none

/-- The integer of a number, if it lies between the bounds. -/
def intWithin? (least greatest : Int) : Tree → Option Int
  | .number n => n.int?.filter fun i => least ≤ i && i ≤ greatest
  | _ => none

/-- A 64-bit signed integer. -/
def int64? : Tree → Option Int := intWithin? (-9223372036854775808) 9223372036854775807

/-- A 64-bit unsigned integer. -/
def nat64? (t : Tree) : Option Nat := (t.intWithin? 0 18446744073709551615).map Int.toNat

/-- A byte. -/
def byte? (t : Tree) : Option UInt8 := (t.intWithin? 0 255).map fun i => UInt8.ofNat i.toNat

/-- The elements of a list. -/
def elements? : Tree → Option (List Tree)
  | .array es => some es
  | _ => none

end Tree

end Credentials.Json
