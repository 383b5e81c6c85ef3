import Credentials.Text.Decimal

/-!
# Spans of time

A `Span` is a length of time with nanosecond precision, possibly negative. It is kept as whole
seconds, rounded down, and the nanoseconds above them, and it never exceeds 2^63 - 1 milliseconds in
either direction.

* `Span.total` — the length in nanoseconds.
* `Span.wholeSeconds`, `Span.subsecond` — the length split toward zero, so that both parts carry its
  sign.
* `Span.ofUnits?` — a whole number of units, if that is a span.
* `Span.text`, `Span.describe` — the ISO 8601 form, and the form in descriptions of settings.
-/

namespace Credentials

/-- Nanoseconds in a second. -/
abbrev nanosPerSecond : Nat := 1000000000

/-- A length of time. -/
structure Span where
  /-- Whole seconds, rounded down. -/
  second : Int
  /-- Nanoseconds above the whole seconds. -/
  nano : Nat
  /-- The nanoseconds do not make up a second. -/
  nano_lt : nano < 1000000000
  /-- The length fits 64 bits when counted in milliseconds. -/
  inRange : -9223372036854775807000000 ≤ second * 1000000000 + nano ∧
    second * 1000000000 + nano ≤ 9223372036854775807000000
  deriving DecidableEq

namespace Span

/-- The span of these seconds and nanoseconds, if there is one. -/
def of? (second : Int) (nano : Nat) : Option Span :=
  if h : nano < 1000000000 ∧ -9223372036854775807000000 ≤ second * 1000000000 + nano ∧
      second * 1000000000 + nano ≤ 9223372036854775807000000 then
    some ⟨second, nano, h.1, h.2⟩
  else none

/-- The span of `count` units of `unit` seconds each, if there is one. -/
def ofUnits? (unit count : Int) : Option Span := of? (count * unit) 0

/-! ## Parts -/

/-- The length in nanoseconds. -/
def total (d : Span) : Int := d.second * nanosPerSecond + d.nano

/-- The whole seconds of the length, rounded toward zero. -/
def wholeSeconds (d : Span) : Int := d.total.tdiv nanosPerSecond

/-- What is left of the length in nanoseconds; it has the sign of the length. -/
def subsecond (d : Span) : Int := d.total.tmod nanosPerSecond

/-! ## Text -/

/-- The digits of a fraction of a second without the zeros at their end. -/
def fractionText (nano : Nat) : List Char :=
  ((Decimal.padded 9 nano).reverse.dropWhile (· = '0')).reverse

/-- The ISO 8601 form in seconds, such as `PT3600S`, `-PT0.5S`, or `P0D` for no time at all. -/
def text (d : Span) : List Char :=
  let size := d.total.natAbs
  let nano := size % nanosPerSecond
  (if d.total < 0 then ['-'] else []) ++ 'P' ::
    (if size = 0 then ['0', 'D']
    else 'T' :: Decimal.ofNat (size / nanosPerSecond) ++
      (if nano = 0 then [] else '.' :: fractionText nano) ++ ['S'])

/-- The two parts by name, as descriptions of settings show them. -/
def describe (d : Span) : String :=
  "TimeDelta \x7b secs: " ++ String.ofList (Decimal.ofInt d.second) ++ ", nanos: " ++
    String.ofList (Decimal.ofNat d.nano) ++ " \x7d"

end Span

end Credentials
