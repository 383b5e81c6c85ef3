import Credentials.Bytes

/-!
# Hexadecimal text

`Hex.encode` writes two lower-case digits for each byte. `Hex.decode` reads digits of either case,
and refuses an odd number of characters and every character that is not an ASCII hexadecimal digit.
-/

namespace Credentials.Hex

/-- The lower-case hexadecimal digit of a number below sixteen. -/
def digitChar (d : Nat) : Char := Char.ofNat (if d < 10 then 0x30 + d else 0x57 + d)

/-- The value of an ASCII hexadecimal digit of either case. -/
def digit? (c : Char) : Option Nat :=
  let n := c.toNat
  if 0x30 ≤ n ∧ n ≤ 0x39 then some (n - 0x30)
  else if 0x61 ≤ n ∧ n ≤ 0x66 then some (n - 0x57)
  else if 0x41 ≤ n ∧ n ≤ 0x46 then some (n - 0x37)
  else none

/-- Two lower-case digits for each byte. -/
def encode (bs : Bytes) : List Char :=
  bs.flatMap fun b => [digitChar (b.toNat / 16), digitChar (b.toNat % 16)]

/-- The byte that two digits spell. -/
def byte? (hi lo : Char) : Option UInt8 := do
  let h ← digit? hi
  let l ← digit? lo
  return UInt8.ofNat (h * 16 + l)

/-- The bytes that a row of digit pairs spells. -/
def decode : List Char → Option Bytes
  | [] => some []
  | [_] => none
  | hi :: lo :: rest => do
    let b ← byte? hi lo
    let bs ← decode rest
    return b :: bs

end Credentials.Hex
