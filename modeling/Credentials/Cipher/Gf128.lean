/-!
# The field of 2^128 elements

Elements are blocks of 128 bits; the leftmost bit is the coefficient of 1, the rightmost that of
x^127. The field is that of polynomials modulo x^128 + x^7 + x^2 + x + 1. Addition is exclusive or.

* `Gf128.mulX` — multiplication by x.
* `Gf128.mul` — the product: the sum of the multiples of one factor by the powers of x that occur in
  the other.
-/

namespace Credentials.Gf128

/-- A field element. -/
abbrev Element := BitVec 128

/-- What x^128 is equal to: x^7 + x^2 + x + 1. -/
def reduction : Element := 0xE1#8 ++ 0#120

/-- Multiplication by x. -/
def mulX (a : Element) : Element :=
  if a.getLsbD 0 then (a >>> 1) ^^^ reduction else a >>> 1

/-- The sum of the multiples of `b` by the powers of x in the last `n` coefficients of `a`, where
`b` itself goes with the first of them. -/
def mulFrom (a : Element) : (n : Nat) → (b : Element) → Element
  | 0, _ => 0
  | n + 1, b => (if a.getLsbD n then b else 0) ^^^ mulFrom a n (mulX b)

/-- The product of two elements. -/
def mul (a b : Element) : Element := mulFrom a 128 b

end Credentials.Gf128
