/-!
# Decimal numbers as text

* `Decimal.ofNat`, `Decimal.ofInt` — the shortest decimal spelling, with a minus sign for a negative
  number.
* `Decimal.padded` — a natural number filled up with zeros to a given width.
* `Decimal.int?` — reads an optional sign and at least one ASCII digit, and nothing else.
* `Decimal.nat?` — the same without the minus sign.
-/

namespace Credentials.Decimal

/-! ## Writing -/

/-- The ASCII digit of a number below ten. -/
def digitChar (d : Nat) : Char := Char.ofNat (0x30 + d)

/-- The decimal spelling of a natural number. -/
def ofNat (n : Nat) : List Char :=
  if n < 10 then [digitChar n] else ofNat (n / 10) ++ [digitChar (n % 10)]

/-- The decimal spelling of an integer. -/
def ofInt (i : Int) : List Char :=
  if i < 0 then '-' :: ofNat i.natAbs else ofNat i.natAbs

/-- A natural number with leading zeros up to `width` digits. -/
def padded (width n : Nat) : List Char :=
  List.replicate (width - (ofNat n).length) '0' ++ ofNat n

/-! ## Reading -/

/-- The value of an ASCII digit. -/
def digit? (c : Char) : Option Nat :=
  if 0x30 ≤ c.toNat ∧ c.toNat ≤ 0x39 then some (c.toNat - 0x30) else none

/-- The number that a non-empty row of ASCII digits spells. -/
def digits? (cs : List Char) : Option Nat :=
  if cs = [] then none else cs.foldlM (fun n c => (digit? c).map (n * 10 + ·)) 0

/-- Reads digits after an optional plus sign. -/
def nat? : List Char → Option Nat
  | '+' :: cs => digits? cs
  | cs => digits? cs

/-- Reads digits after an optional sign. -/
def int? : List Char → Option Int
  | '-' :: cs => (digits? cs).map fun n => -(n : Int)
  | cs => (nat? cs).map fun n => (n : Int)

end Credentials.Decimal
