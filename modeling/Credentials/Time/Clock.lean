import Credentials.Time.Instant

/-!
# A settable clock

A clock shows one instant until it is told otherwise. It can be set to another instant and advanced
by a span. An advance out of range is refused: the clock keeps its instant and goes on working.

`Clock.run` answers a whole list of steps in order.
-/

namespace Credentials.Clock

/-- Something to do with a clock. -/
inductive Step where
  /-- Read it. -/
  | now
  /-- Set it to an instant. -/
  | set (target : Instant)
  /-- Move it by a span. -/
  | advance (shift : Span)
  deriving DecidableEq

/-- What a step says. -/
inductive Answer where
  /-- The instant that the clock shows after the step. -/
  | shows (t : Instant)
  /-- The advance leads out of range. -/
  | outOfRange
  deriving DecidableEq

/-- The words for an advance out of range. -/
def outOfRangeMessage : String := "`DateTime + TimeDelta` overflowed"

/-- The instant that the clock shows after a step. -/
def after (t : Instant) : Step → Instant
  | .now => t
  | .set target => target
  | .advance shift => (t.shift? shift).getD t

/-- The answer of a step. -/
def answer (t : Instant) : Step → Answer
  | .now => .shows t
  | .set target => .shows target
  | .advance shift => ((t.shift? shift).map .shows).getD .outOfRange

/-- The answers of a list of steps, and the instant that the clock shows in the end. -/
def run (t : Instant) : List Step → List Answer × Instant
  | [] => ([], t)
  | s :: steps =>
    let (answers, last) := run (after t s) steps
    (answer t s :: answers, last)

end Credentials.Clock
