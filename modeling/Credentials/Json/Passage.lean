import Credentials.Json.Tree

/-!
# Getting past a value

A reader that cares for a value looks at it closely: strings must be texts, numbers must fit double
precision, and values may not be nested too deeply. When it gives up, what matters is where it stands.
If it stands behind the value, the value can be left out and reading goes on; if it stands inside, the
text around it is lost.

* `Passage.read` — the value is read.
* `Passage.skipped` — the value cannot be read, but the reader stands behind it.
* `Passage.stuck` — the value cannot be read, and the reader stands inside it.

`Tree.passage` says which of the three happens when nothing is asked of the value but to be well
formed in all its parts.
-/

namespace Credentials.Json

/-- How a close reading of a value ends. -/
inductive Passage where
  /-- The value is read. -/
  | read
  /-- The reader gives up behind the value. -/
  | skipped
  /-- The reader gives up inside the value. -/
  | stuck
  deriving DecidableEq, Repr

/-! ## Strings

A surrogate that stands alone is noticed at once, except that after a leading surrogate one more byte
is taken to see that no escape follows. If that byte is the closing quote, the reader stands behind
the string. Bytes that are no text are noticed only when the whole string has been taken. -/

/-- The part of a string from the first surrogate that stands alone, if there is one. -/
def loneSurrogate? : List Piece → Option (List Piece)
  | [] => none
  | .byte _ :: rest => loneSurrogate? rest
  | .unit u :: rest =>
    if isLowSurrogate u then some (.unit u :: rest)
    else if isHighSurrogate u then
      match rest with
      | .unit v :: more => if isLowSurrogate v then loneSurrogate? more else some (.unit u :: rest)
      | _ => some (.unit u :: rest)
    else loneSurrogate? rest

/-- How the close reading of a string ends. -/
def passageOfString (pieces : List Piece) : Passage :=
  match loneSurrogate? pieces with
  | some [.unit u] => if isHighSurrogate u then .skipped else .stuck
  | some _ => .stuck
  | none => if (text? pieces).isSome then .read else .skipped

/-! ## Numbers

A number is taken as a significand below 2^64 times a power of ten. Digits before the point that no
longer fit the significand raise the power; digits after it are dropped. The number is too large if
the product, with both factors and itself rounded to the nearest double, is infinite. An exponent of
more than 31 bits is too large as soon as its digits exceed that, with the rest of them not taken. -/

/-- Significands are below 2^64. -/
def significandBound : Nat := Nat.pow 2 64

/-- Exponents are below 2^31. -/
def exponentBound : Nat := Nat.pow 2 31

/-- What rounds to infinity is at least 2^1024 - 2^970. -/
def infinityBound : Nat := Nat.pow 2 1024 - Nat.pow 2 970

/-- Rounds to 53 significant bits, a half to the even neighbour. -/
def roundDouble (n : Nat) : Nat :=
  let excess := n.log2 - 52
  let unit := Nat.pow 2 excess
  let q := n / unit
  let r := n % unit * 2
  if r < unit || (r = unit && q % 2 = 0) then q * unit else (q + 1) * unit

/-- The significand and the power of ten after the digits before the point. -/
def wholePart (ds : List Nat) : Nat × Int :=
  ds.foldl (fun (n, e) d => if e = 0 && n * 10 + d < significandBound then (n * 10 + d, 0) else (n, e + 1))
    (0, 0)

/-- The significand and the power of ten after the digits that follow the point. -/
def fractionPart (start : Nat × Int) : List Nat → Nat × Int
  | [] => start
  | d :: ds =>
    if start.1 * 10 + d < significandBound then fractionPart (start.1 * 10 + d, start.2 - 1) ds
    else start

/-- A significand times a power of ten rounds to infinity. -/
def isInfinite (significand : Nat) (power : Int) : Bool :=
  significand != 0 && 0 ≤ power &&
    (308 < power ||
      infinityBound ≤ roundDouble significand * roundDouble (Nat.pow 10 power.toNat))

/-- How many digits of an exponent are taken until it exceeds 31 bits; none if it never does. -/
def exceedsAfter? (taken value : Nat) : List Nat → Option Nat
  | [] => none
  | d :: ds =>
    if exponentBound ≤ value * 10 + d then some (taken + 1)
    else exceedsAfter? (taken + 1) (value * 10 + d) ds

/-- How the close reading of a number ends. -/
def Number.passage (n : Number) : Passage :=
  let (significand, power) := fractionPart (wholePart n.whole) n.fraction
  match n.exponent with
  | none => if isInfinite significand power then .skipped else .read
  | some e =>
    match exceedsAfter? 0 0 e.digits with
    | some taken =>
      if significand = 0 || e.negative then .read
      else if taken = e.digits.length then .skipped else .stuck
    | none =>
      let power := if e.negative then power - ofDigits e.digits else power + ofDigits e.digits
      if isInfinite significand power then .skipped else .read

/-! ## Values -/

namespace Passage

/-- How a container ends after an element: what was skipped must be the last element. -/
def before (p : Passage) (isLast : Bool) (rest : Passage) : Passage :=
  match p with
  | .read => rest
  | .skipped => if isLast then .skipped else .stuck
  | .stuck => .stuck

end Passage

namespace Tree

mutual

/-- How the close reading of a value ends that has room for `room` more levels of nesting. -/
def passage (room : Nat) : Tree → Passage
  | .null => .read
  | .bool _ => .read
  | .number n => n.passage
  | .string pieces => passageOfString pieces
  | .array es => if room = 0 then .stuck else passageOfElements (room - 1) es
  | .object ms => if room = 0 then .stuck else passageOfMembers (room - 1) ms

/-- How the close reading of the elements of a list ends. -/
def passageOfElements (room : Nat) : List Tree → Passage
  | [] => .read
  | e :: es => (passage room e).before es.isEmpty (passageOfElements room es)

/-- How the close reading of the members of an object ends. -/
def passageOfMembers (room : Nat) : List (List Piece × Tree) → Passage
  | [] => .read
  | (k, v) :: ms =>
    if (Json.text? k).isSome then (passage room v).before ms.isEmpty (passageOfMembers room ms)
    else .stuck

end

end Tree

end Credentials.Json
