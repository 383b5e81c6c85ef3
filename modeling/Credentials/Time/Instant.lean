import Credentials.Time.Calendar
import Credentials.Time.Span

/-!
# Instants

An `Instant` is a point of Coordinated Universal Time with nanosecond precision: the Unix second,
rounded down, and the nanoseconds above it. Nanoseconds from 1000000000 on mean a leap second, which
can only follow the last second of a minute. The range runs from the first second of year -262143 to
the last second of year 262142.

* `Instant.shift?` — an instant moved by a span. Away from leap seconds this is exact addition of
  nanoseconds. From inside a leap second, a shift that stays within it or goes back into the second
  before keeps the second; any other shift first leaves the leap second in its own direction.
* `Instant.text` — the RFC 3339 form in UTC.
-/

namespace Credentials

/-- A point of time. -/
structure Instant where
  /-- The Unix second, rounded down. -/
  second : Int
  /-- The nanoseconds above the second; from 1000000000 on, a leap second. -/
  nano : Nat
  /-- The second lies in the range of the calendar. -/
  inRange : -8334601228800 ≤ second ∧ second ≤ 8210266876799
  /-- A second and its leap second have two billion nanoseconds. -/
  nano_lt : nano < 2000000000
  /-- A leap second follows the last second of a minute. -/
  leap : 1000000000 ≤ nano → second % 60 = 59
  deriving DecidableEq

namespace Instant

/-- The instant of these seconds and nanoseconds, if there is one. -/
def of? (second : Int) (nano : Nat) : Option Instant :=
  if h : (-8334601228800 ≤ second ∧ second ≤ 8210266876799) ∧ nano < 2000000000 ∧
      (1000000000 ≤ nano → second % 60 = 59) then
    some ⟨second, nano, h.1, h.2.1, h.2.2⟩
  else none

/-- The beginning of a Unix second, if it is in range. -/
def ofSecond? (second : Int) : Option Instant := of? second 0

/-- The instant falls in a leap second. -/
def isLeap (t : Instant) : Bool := nanosPerSecond ≤ t.nano

/-! ## Shifting -/

/-- Exact addition: `second` and `nano` moved by `shift` nanoseconds, as a second and the nanoseconds
above it. -/
def exactly (second nano shift : Int) : Int × Nat :=
  let total := second * nanosPerSecond + nano + shift
  (total / nanosPerSecond, (total % nanosPerSecond).toNat)

/-- The second and the nanoseconds that a shift leads to, before the range is looked at. -/
def shifted (t : Instant) (d : Span) : Int × Nat :=
  if !t.isLeap then exactly t.second t.nano d.total
  else if d.wholeSeconds < 0 then
    exactly (t.second + 1) (t.nano - nanosPerSecond) d.total
  else if d.wholeSeconds = 0 && t.nano + d.subsecond < 2 * nanosPerSecond then
    (t.second, (t.nano + d.subsecond).toNat)
  else exactly t.second (t.nano - nanosPerSecond) d.total

/-- The instant moved by a span, if that stays in range. -/
def shift? (t : Instant) (d : Span) : Option Instant :=
  of? (t.shifted d).1 (t.shifted d).2

/-! ## Text -/

/-- The time of a day as `HH:MM:SS`, a leap second as second 60. -/
def timeText (secondOfDay : Nat) (isLeap : Bool) : List Char :=
  Decimal.padded 2 (secondOfDay / 3600) ++ ':' :: Decimal.padded 2 (secondOfDay / 60 % 60) ++
    ':' :: Decimal.padded 2 (secondOfDay % 60 + (if isLeap then 1 else 0))

/-- A fraction of a second in none, three, six or nine digits, whichever is exact first. -/
def fractionText (nano : Nat) : List Char :=
  if nano = 0 then []
  else if nano % 1000000 = 0 then '.' :: Decimal.padded 3 (nano / 1000000)
  else if nano % 1000 = 0 then '.' :: Decimal.padded 6 (nano / 1000)
  else '.' :: Decimal.padded 9 nano

/-- The RFC 3339 form in UTC. -/
def text (t : Instant) : List Char :=
  (Date.ofDay (t.second / 86400)).text ++ 'T' ::
    timeText (t.second % 86400).toNat t.isLeap ++ fractionText (t.nano % nanosPerSecond) ++ ['Z']

end Instant

end Credentials
