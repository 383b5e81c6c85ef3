/-!
# The fraction of π

The first bits of the fraction of π are numbers with nothing up their sleeve: `Blowfish` starts from
them. They are computed by Machin's formula, π = 16 arctan(1/5) - 4 arctan(1/239), in integers scaled
by a power of two; sixty-four more bits than asked for absorb the errors of truncation.
-/

namespace Credentials.PiFraction

/-- The terms of the arctangent series that are left, of which the next is `power / k`, with
alternating signs. -/
def series (square : Nat) : (terms : Nat) → (k power : Nat) → Int
  | 0, _, _ => 0
  | terms + 1, k, power =>
    if power = 0 then 0 else power / k - series square terms (k + 2) (power / square)

/-- The arctangent of `1 / x`, times `unit`. -/
def arctanOfInverse (x unit : Nat) : Int := series (x * x) unit.log2 1 (unit / x)

/-- The first `bits` bits of the fraction of π, as a number. -/
def bits (bits : Nat) : Nat :=
  let unit := Nat.pow 2 (bits + 64)
  let pi := 16 * arctanOfInverse 5 unit - 4 * arctanOfInverse 239 unit
  pi.toNat % unit / Nat.pow 2 64

/-- The first `count` words of 32 bits of the fraction of π. -/
def words (count : Nat) : Array UInt32 :=
  let n := bits (32 * count)
  Array.ofFn fun i : Fin count => UInt32.ofNat (n >>> (32 * (count - 1 - i)))

end Credentials.PiFraction
