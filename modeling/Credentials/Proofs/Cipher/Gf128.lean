import Mathlib.FieldTheory.Finite.Basic
import Mathlib.RingTheory.AdjoinRoot
import Mathlib.Tactic.ComputeDegree
import Credentials.Cipher.Gf128

/-!
# Cancelling in the field of 2^128 elements

An element stands for a polynomial over the field of two elements, of degree less than 128, and two
elements are multiplied as polynomials modulo x^128 + x^7 + x^2 + x + 1.

* `residue` — the class of an element modulo this polynomial. Different elements have different
  classes (`residue_injective`), and sums and products are those of the classes (`residue_xor`,
  `residue_mul`).
* `irreducible_modulus` — **the polynomial is irreducible**: squared 128 times, x comes back modulo
  every factor, and squared 64 times it does not.
* `mul_right_cancel` — hence a factor other than zero can be cancelled.
-/

namespace Credentials.Gf128

open Polynomial

/-! ## Elements as polynomials -/

/-- The coefficient that a bit stands for. -/
def coefficient (b : Bool) : ZMod 2 := if b then 1 else 0

/-- Bits are added as coefficients. -/
theorem coefficient_xor (a b : Bool) :
    coefficient (a ^^ b) = coefficient a + coefficient b := by
  cases a <;> cases b <;> decide

/-- A coefficient tells its bit. -/
theorem coefficient_injective : Function.Injective coefficient := by
  decide

/-- The polynomial of an element; its leftmost bit is the coefficient of 1. -/
@[irreducible] noncomputable def polynomial (a : Element) : (ZMod 2)[X] :=
  ∑ i ∈ Finset.range 128, monomial i (coefficient (a.getMsbD i))

/-- The bit at place `i` from the left is the coefficient of `X ^ i`. -/
@[simp] theorem coeff_polynomial (a : Element) (i : Nat) :
    (polynomial a).coeff i = coefficient (a.getMsbD i) := by
  unfold polynomial
  simp only [finsetSum_coeff, coeff_monomial, Finset.sum_ite_eq', Finset.mem_range]
  split
  case isTrue => rfl
  case isFalse h =>
    rw [BitVec.getMsbD_of_ge a i (Nat.le_of_not_lt h)]
    rfl

/-- No bits are the zero polynomial. -/
theorem polynomial_zero : polynomial 0 = 0 := by
  ext i
  simp [coefficient]

/-- Elements are added as polynomials. -/
theorem polynomial_xor (a b : Element) : polynomial (a ^^^ b) = polynomial a + polynomial b := by
  ext i
  rw [coeff_add, coeff_polynomial, coeff_polynomial, coeff_polynomial, BitVec.getMsbD_xor,
    coefficient_xor]

/-- A polynomial tells its element. -/
theorem polynomial_injective : Function.Injective polynomial := by
  intro a b h
  apply BitVec.eq_of_getMsbD_eq
  intro i _
  have same : (polynomial a).coeff i = (polynomial b).coeff i := by rw [h]
  rw [coeff_polynomial, coeff_polynomial] at same
  exact coefficient_injective same

/-! ## The modulus -/

/-- The polynomial x^128 + x^7 + x^2 + x + 1. -/
@[irreducible] noncomputable def modulus : (ZMod 2)[X] := X ^ 128 + (X ^ 7 + X ^ 2 + X + 1)

/-- The modulus, its leading power apart. -/
theorem modulus_eq : modulus = X ^ 128 + (X ^ 7 + X ^ 2 + X + 1) := by
  unfold modulus
  rfl

/-- The modulus has degree 128. -/
theorem degree_modulus : modulus.degree = 128 := by
  unfold modulus
  compute_degree!

/-- The bits that stand for the modulus without its leading power. -/
theorem getMsbD_reduction (i : Nat) :
    reduction.getMsbD i = decide (i = 7 ∨ i = 2 ∨ i = 1 ∨ i = 0) := by
  by_cases h : i < 128
  · revert i
    decide
  · rw [BitVec.getMsbD_of_ge _ i (Nat.le_of_not_lt h), eq_comm, decide_eq_false_iff_not]
    omega

/-- An element is a remainder already: its polynomial has a lower degree than the modulus. -/
theorem degree_polynomial_lt (a : Element) : (polynomial a).degree < modulus.degree := by
  rw [degree_modulus]
  apply (degree_lt_iff_coeff_zero _ 128).2
  intro i h
  rw [coeff_polynomial, BitVec.getMsbD_of_ge a i h]
  rfl

/-- What x^128 is replaced by. -/
theorem polynomial_reduction : polynomial reduction = X ^ 7 + X ^ 2 + X + 1 := by
  ext i
  rw [coeff_polynomial, getMsbD_reduction]
  simp only [coeff_add, coeff_X_pow, coeff_X, coeff_one, coefficient, decide_eq_true_eq]
  by_cases h7 : i = 7
  · subst h7
    decide
  by_cases h2 : i = 2
  · subst h2
    decide
  by_cases h1 : i = 1
  · subst h1
    decide
  by_cases h0 : i = 0
  · subst h0
    decide
  simp [h7, h2, h1, h0, eq_comm]

/-! ## Elements modulo the modulus -/

/-- The class of an element. -/
noncomputable def residue (a : Element) : AdjoinRoot modulus := AdjoinRoot.mk modulus (polynomial a)

/-- The class of x. -/
noncomputable abbrev root : AdjoinRoot modulus := AdjoinRoot.root modulus

/-- A single bit is a power of the root, or zero. -/
theorem mk_monomial (i : Nat) (b : Bool) :
    AdjoinRoot.mk modulus (monomial i (coefficient b)) = if b then root ^ i else 0 := by
  cases b with
  | false => simp [coefficient]
  | true => simp [coefficient, ← C_mul_X_pow_eq_monomial]

/-- The class of an element, by its bits. -/
theorem residue_eq_sum (a : Element) :
    residue a = ∑ i ∈ Finset.range 128, if a.getMsbD i then root ^ i else 0 := by
  unfold residue polynomial
  rw [map_sum]
  apply Finset.sum_congr rfl
  intro i _
  exact mk_monomial i _

/-- The residue of zero. -/
theorem residue_zero : residue 0 = 0 := by
  rw [residue, polynomial_zero, map_zero]

/-- Elements are added as residues. -/
theorem residue_xor (a b : Element) : residue (a ^^^ b) = residue a + residue b := by
  simp only [residue, polynomial_xor, map_add]

/-- In characteristic two a sum is a difference too. -/
theorem residue_xor_eq_sub (a b : Element) : residue (a ^^^ b) = residue a - residue b := by
  simp only [residue, polynomial_xor, ← CharTwo.sub_eq_add, map_sub]

/-- A residue tells its element, since no polynomial of an element is reduced. -/
theorem residue_injective : Function.Injective residue := by
  intro a b h
  simp only [residue, AdjoinRoot.mk_eq_mk] at h
  have small : (polynomial a - polynomial b).degree < modulus.degree :=
    (degree_sub_le _ _).trans_lt (max_lt (degree_polynomial_lt a) (degree_polynomial_lt b))
  exact polynomial_injective (sub_eq_zero.1 (eq_zero_of_dvd_of_degree_lt h small))

/-- The reduction stands for x^128. -/
theorem residue_reduction : residue reduction = root ^ 128 := by
  have zero : AdjoinRoot.mk modulus (X ^ 128 - polynomial reduction) = 0 := by
    rw [polynomial_reduction, CharTwo.sub_eq_add, ← modulus_eq]
    exact AdjoinRoot.mk_self
  rw [map_sub, map_pow, AdjoinRoot.mk_X, sub_eq_zero] at zero
  exact zero.symm

/-- A shift of the bits to the right is a multiplication by x, up to the bit that falls out. -/
theorem X_mul_polynomial (a : Element) :
    X * polynomial a = polynomial (a >>> 1) + monomial 128 (coefficient (a.getMsbD 127)) := by
  ext i
  cases i with
  | zero => simp [coefficient, coeff_monomial, BitVec.getMsbD_ushiftRight]
  | succ i =>
    rw [coeff_X_mul, coeff_add, coeff_polynomial, coeff_polynomial, coeff_monomial,
      BitVec.getMsbD_ushiftRight]
    by_cases last : i = 127
    · subst last
      simp [coefficient]
    · have other : 128 ≠ i + 1 := by omega
      rw [if_neg other, add_zero, Nat.add_sub_cancel]
      by_cases within : i + 1 < 128
      · simp [within]
      · rw [BitVec.getMsbD_of_ge a i (by omega)]
        simp [within]

/-- To multiply an element by x is to multiply its residue by the root. -/
theorem residue_mulX (a : Element) : residue (mulX a) = root * residue a := by
  have shifted := congrArg (AdjoinRoot.mk modulus) (X_mul_polynomial a)
  rw [map_mul, map_add, AdjoinRoot.mk_X, mk_monomial] at shifted
  have last : a.getLsbD 0 = a.getMsbD 127 := by rw [BitVec.getLsbD_eq_getMsbD]; rfl
  unfold mulX
  rw [last]
  split
  case isTrue h =>
    rw [residue_xor, residue_reduction]
    rw [if_pos h] at shifted
    exact shifted.symm
  case isFalse h =>
    rw [if_neg h, add_zero] at shifted
    exact shifted.symm

/-! ## Products -/

/-- The classes of `b` times x, x^2 and so on, as the bits of `a` pick them. -/
theorem residue_mulFrom (a : Element) (n : Nat) (b : Element) :
    residue (mulFrom a n b) =
      (∑ i ∈ Finset.range n, if a.getLsbD (n - 1 - i) then root ^ i else 0) * residue b := by
  induction n generalizing b with
  | zero => rw [mulFrom, residue_zero, Finset.range_zero, Finset.sum_empty, zero_mul]
  | succ n ih =>
    have first : residue (if a.getLsbD n then b else 0) =
        (if a.getLsbD n then root ^ 0 else 0) * residue b := by
      split
      · rw [pow_zero, one_mul]
      · rw [residue_zero, zero_mul]
    have later : ∀ i ∈ Finset.range n,
        (if a.getLsbD (n + 1 - 1 - (i + 1)) then root ^ (i + 1) else 0) =
          (if a.getLsbD (n - 1 - i) then root ^ i else 0) * root := by
      intro i _
      rw [show n + 1 - 1 - (i + 1) = n - 1 - i by omega, ite_mul, zero_mul, pow_succ]
    rw [mulFrom, residue_xor, ih, residue_mulX, first, Finset.sum_range_succ',
      Finset.sum_congr rfl later, ← Finset.sum_mul, Nat.add_sub_cancel, Nat.sub_zero]
    ring

/-- The product of elements is the product of their classes. -/
theorem residue_mul (a b : Element) : residue (mul a b) = residue a * residue b := by
  have bits : ∀ i ∈ Finset.range 128, (if a.getLsbD (128 - 1 - i) then root ^ i else 0) =
      if a.getMsbD i then root ^ i else 0 := by
    intro i h
    rw [BitVec.getMsbD_eq_getLsbD, decide_eq_true (Finset.mem_range.1 h), Bool.true_and]
  rw [mul, residue_mulFrom, Finset.sum_congr rfl bits, ← residue_eq_sum]

/-! ## The modulus is irreducible -/

/-- The element x. -/
def x : Element := 0x40000000000000000000000000000000

/-- The element 1. -/
def one : Element := 0x80000000000000000000000000000000

/-- An element multiplied by itself. -/
def square (a : Element) : Element := mul a a

/-- An element with one bit is a power of x. -/
theorem residue_eq_pow {a : Element} {k : Nat} (hk : k < 128)
    (bits : ∀ i < 128, a.getMsbD i = decide (i = k)) : residue a = root ^ k := by
  rw [residue_eq_sum, Finset.sum_eq_single_of_mem k (Finset.mem_range.2 hk)]
  · simp [bits k hk]
  · intro i hi other
    simp [bits i (Finset.mem_range.1 hi), other]

/-- The residue of x is the root of the modulus. -/
theorem residue_x : residue x = root := by
  rw [residue_eq_pow (k := 1) (by decide) (by decide), pow_one]

/-- The residue of one. -/
theorem residue_one : residue one = 1 := by
  rw [residue_eq_pow (k := 0) (by decide) (by decide), pow_zero]

/-- To square an element so often is to raise its residue to that power of two. -/
theorem residue_square_iterate (a : Element) (n : Nat) :
    residue (square^[n] a) = residue a ^ 2 ^ n := by
  induction n with
  | zero => simp
  | succ n ih =>
    rw [Function.iterate_succ_apply', square, residue_mul, ih, pow_succ, pow_mul, pow_two]

/-- What x becomes when it is squared 64 times. -/
def halfway : Element := 0x6f9945a9e519a7229d4c1ad657f8a686

/-- The first 64 squarings of x, computed. -/
theorem square_iterate_x : square^[64] x = halfway := by
  decide +kernel

/-- The other 64 squarings lead back to x. -/
theorem square_iterate_halfway : square^[64] halfway = x := by
  decide +kernel

/-- The difference between the two is invertible. -/
theorem mul_inverse : mul (halfway ^^^ x) 0x180da934bf53158251c13dbb149f5279 = one := by
  decide +kernel

/-- The root to the power of 2 ^ 64, as an element. -/
theorem root_pow_halfway : root ^ 2 ^ 64 = residue halfway := by
  rw [← residue_x, ← residue_square_iterate, square_iterate_x]

/-- Squared 128 times, x comes back. -/
theorem root_pow : root ^ 2 ^ 128 = root := by
  rw [show 128 = 64 + 64 from rfl, pow_add, pow_mul, root_pow_halfway, ← residue_square_iterate,
    square_iterate_halfway, residue_x]

section factor

variable {q : (ZMod 2)[X]} [Fact (Irreducible q)] (divides : q ∣ modulus)

open FiniteField

/-- Squaring is an automorphism of the field of a factor, which depends on what it does to x. -/
theorem frobenius_pow_eq_one_iff (n : Nat) :
    frobeniusAlgHom (ZMod 2) (AdjoinRoot q) ^ n = 1 ↔
      AdjoinRoot.root q ^ 2 ^ n = AdjoinRoot.root q := by
  have apply_pow (y : AdjoinRoot q) :
      (frobeniusAlgHom (ZMod 2) (AdjoinRoot q) ^ n) y = y ^ 2 ^ n := by
    rw [AlgHom.coe_pow, coe_frobeniusAlgHom, pow_iterate, ZMod.card]
  constructor
  · intro h
    rw [← apply_pow, h, AlgHom.one_apply]
  · intro h
    apply AdjoinRoot.algHom_ext
    rw [apply_pow, h, AlgHom.one_apply]

/-- Classes modulo the modulus, taken modulo a factor. -/
noncomputable def reduce : AdjoinRoot modulus →ₐ[ZMod 2] AdjoinRoot q :=
  AdjoinRoot.algHomOfDvd (ZMod 2) modulus q divides

/-- Modulo a factor the root becomes the factor's root. -/
theorem reduce_root : reduce divides root = AdjoinRoot.root q :=
  AdjoinRoot.algHomOfDvd_root modulus q divides

include divides

/-- The root of any factor is its own power of 2 ^ 128, as that of the modulus is. -/
theorem root_pow_of_dvd : AdjoinRoot.root q ^ 2 ^ 128 = AdjoinRoot.root q := by
  rw [← reduce_root divides, ← map_pow, root_pow]

/-- In the field of a factor too the difference stays invertible. -/
theorem root_pow_halfway_of_dvd : AdjoinRoot.root q ^ 2 ^ 64 ≠ AdjoinRoot.root q := by
  intro h
  have vanishes : reduce divides (residue (halfway ^^^ x)) = 0 := by
    rw [residue_xor_eq_sub, residue_x, ← root_pow_halfway, map_sub, map_pow, reduce_root, h,
      sub_self]
  have product := congrArg (fun a => reduce divides (residue a)) mul_inverse
  simp only [residue_mul, residue_one, map_mul, map_one, vanishes, zero_mul] at product
  exact zero_ne_one product

/-- A factor has the degree of the modulus. -/
theorem natDegree_eq_of_dvd : q.natDegree = 128 := by
  have irreducible : Irreducible q := Fact.out
  let basis := AdjoinRoot.powerBasis irreducible.ne_zero
  have := basis.finite
  have : Finite (AdjoinRoot q) := Module.finite_of_finite (ZMod 2)
  -- squaring as an automorphism has the degree for its order, so this divides 128 and not 64
  have order : orderOf (frobeniusAlgHom (ZMod 2) (AdjoinRoot q)) = q.natDegree := by
    rw [orderOf_frobeniusAlgHom, basis.finrank, AdjoinRoot.powerBasis_dim]
  have period := orderOf_dvd_of_pow_eq_one
    ((frobenius_pow_eq_one_iff 128).2 (root_pow_of_dvd divides))
  rw [order, show 128 = 2 ^ 7 from rfl, Nat.dvd_prime_pow Nat.prime_two] at period
  obtain ⟨k, hk, degree⟩ := period
  rcases hk.eq_or_lt with rfl | lt
  · exact degree
  · exfalso
    have shorter : q.natDegree ∣ 64 := by
      rw [degree]
      exact pow_dvd_pow 2 (Nat.le_of_lt_succ lt)
    rw [← order, orderOf_dvd_iff_pow_eq_one, frobenius_pow_eq_one_iff] at shorter
    exact root_pow_halfway_of_dvd divides shorter

end factor

/-- The modulus has degree 128, as a number. -/
theorem natDegree_modulus : modulus.natDegree = 128 :=
  natDegree_eq_of_degree_eq_some degree_modulus

/-- The modulus is irreducible. -/
theorem irreducible_modulus : Irreducible modulus := by
  have positive : 0 < modulus.natDegree := by
    rw [natDegree_modulus]
    decide
  obtain ⟨q, irreducible, divides⟩ := exists_irreducible_of_natDegree_pos positive
  have : Fact (Irreducible q) := ⟨irreducible⟩
  have associated : Associated q modulus := by
    apply associated_of_dvd_of_natDegree_le divides (ne_zero_of_natDegree_gt positive)
    rw [natDegree_modulus, natDegree_eq_of_dvd divides]
  exact associated.irreducible irreducible

/-! ## Cancelling -/

instance : Fact (Irreducible modulus) := ⟨irreducible_modulus⟩

/-- A factor other than zero can be cancelled. -/
theorem mul_right_cancel {a b key : Element} (nonzero : key ≠ 0) (h : mul a key = mul b key) :
    a = b := by
  have hkey : residue key ≠ 0 := by
    rw [← residue_zero, residue_injective.ne_iff]
    exact nonzero
  apply residue_injective
  apply mul_right_cancel₀ hkey
  rw [← residue_mul, ← residue_mul, h]

end Credentials.Gf128
