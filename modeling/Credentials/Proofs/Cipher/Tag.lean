import Credentials.Proofs.Bytes
import Credentials.Proofs.Cipher.Gcm
import Credentials.Proofs.Cipher.Gf128

/-!
# Tags of changed texts

A tag notices every change that stays within one block of a masked text, unless the hash key of the
block cipher is zero. This is so for all keys but that one and needs no other property of the cipher.

* `evaluate_ne` — at a key other than zero, polynomials that differ in one coefficient differ in value.
* `DifferAt` — two texts of one length that differ within one block, and `DifferAt.coefficients_eq`:
  as polynomials they differ in one coefficient.
* `DifferAt.tag_ne`, `DifferAt.openText_eq_none` — **the tag of the one is not the tag of the other**,
  and so does not open it.
-/

namespace Credentials.Gcm

/-! ## Bytes of field elements -/

/-- A block of sixteen bytes is a number of 128 bits. -/
theorem toNat_block_lt {bs : Bytes} (length : bs.length = 16) : bs.toNat < 2 ^ 128 := by
  have h := Bytes.toNat_lt bs
  rw [length] at h
  exact h.trans_eq (by norm_num)

/-- Pieces of one length stand for different elements. -/
theorem element_inj {as bs : Bytes} (length : as.length = bs.length) (short : as.length ≤ 16) :
    element as = element bs ↔ as = bs := by
  constructor
  · intro h
    have numbers := congrArg BitVec.toNat h
    have filled : (as ++ List.replicate (16 - as.length) 0).length = 16 := by
      simp
      omega
    have filled' : (bs ++ List.replicate (16 - bs.length) 0).length = 16 := by
      simp
      omega
    simp only [element, BitVec.toNat_ofNat] at numbers
    rw [Nat.mod_eq_of_lt (toNat_block_lt filled), Nat.mod_eq_of_lt (toNat_block_lt filled'),
      Bytes.toNat_inj (filled.trans filled'.symm)] at numbers
    exact List.append_inj_left numbers length
  · rintro rfl
    rfl

/-- The bytes of an element tell it. -/
theorem bytesOf_injective : Function.Injective bytesOf := by
  intro a b h
  have numbers := congrArg Bytes.toNat h
  simp only [bytesOf, Bytes.toNat_ofNat] at numbers
  have bound : 256 ^ 16 = 2 ^ 128 := by norm_num
  rw [bound, Nat.mod_eq_of_lt a.isLt, Nat.mod_eq_of_lt b.isLt] at numbers
  exact BitVec.eq_of_toNat_eq numbers

/-! ## Values of polynomials -/

section evaluate

variable {key : Gf128.Element} (nonzero : key ≠ 0)

include nonzero

/-- Sums that differ go on differing, whatever is added to both. -/
theorem foldl_ne {y y' : Gf128.Element} (differ : y ≠ y') (coefficients : List Gf128.Element) :
    coefficients.foldl (fun y x => Gf128.mul (y ^^^ x) key) y ≠
      coefficients.foldl (fun y x => Gf128.mul (y ^^^ x) key) y' := by
  induction coefficients generalizing y y' with
  | nil => exact differ
  | cons x coefficients ih =>
    apply ih
    intro h
    exact differ ((BitVec.xor_left_inj x).1 (Gf128.mul_right_cancel nonzero h))

/-- Polynomials that differ in one coefficient have different values. -/
theorem evaluate_ne {c c' : Gf128.Element} (differ : c ≠ c') (front back : List Gf128.Element) :
    evaluate key (front ++ c :: back) ≠ evaluate key (front ++ c' :: back) := by
  unfold evaluate
  rw [List.foldl_append, List.foldl_append, List.foldl_cons, List.foldl_cons]
  apply foldl_ne nonzero
  intro h
  exact differ ((BitVec.xor_right_inj _).1 (Gf128.mul_right_cancel nonzero h))

end evaluate

/-! ## Changes within one block -/

/-- The coefficients before a block, the block, and those behind it. -/
theorem coefficients_split {k : Nat} {bs : Bytes} (h : bs.drop (16 * k) ≠ []) :
    coefficients bs = (Bytes.chunks 16 (bs.take (16 * k))).map element ++
      element ((bs.drop (16 * k)).take 16) ::
        ((Bytes.chunks 16 (bs.drop (16 * k + 16))).map element ++
          [BitVec.ofNat 128 (bs.length * 8)]) := by
  rw [coefficients, Bytes.chunks_take_drop (by decide) k, Bytes.chunks_of_ne_nil (by decide) h,
    List.map_append, List.map_cons, List.append_assoc, List.cons_append, List.drop_drop]

/-- The byte strings have one length and differ, but only within the block at place `k`. -/
structure DifferAt (k : Nat) (bs bs' : Bytes) : Prop where
  length_eq : bs.length = bs'.length
  take_eq : bs.take (16 * k) = bs'.take (16 * k)
  drop_eq : bs.drop (16 * k + 16) = bs'.drop (16 * k + 16)
  ne : bs ≠ bs'

namespace DifferAt

variable {k : Nat} {bs bs' : Bytes}

/-- It does not matter which of the two comes first. -/
theorem symm (h : DifferAt k bs bs') : DifferAt k bs' bs :=
  ⟨h.length_eq.symm, h.take_eq.symm, h.drop_eq.symm, h.ne.symm⟩

/-- What the block holds differs. -/
theorem block_ne (h : DifferAt k bs bs') :
    (bs.drop (16 * k)).take 16 ≠ (bs'.drop (16 * k)).take 16 := by
  intro same
  apply h.ne
  rw [← List.take_append_drop (16 * k) bs, ← List.take_append_drop (16 * k) bs', h.take_eq,
    ← List.take_append_drop 16 (bs.drop (16 * k)), ← List.take_append_drop 16 (bs'.drop (16 * k)),
    same, List.drop_drop, List.drop_drop, h.drop_eq]

/-- The block in which they differ is not beyond the end. -/
theorem drop_ne_nil (h : DifferAt k bs bs') : bs.drop (16 * k) ≠ [] := by
  intro empty
  have empty' : bs'.drop (16 * k) = [] := by
    rwa [List.drop_eq_nil_iff, ← h.length_eq, ← List.drop_eq_nil_iff]
  exact h.block_ne (by rw [empty, empty'])

/-- The blocks in which they differ have one length. -/
theorem length_block (h : DifferAt k bs bs') :
    ((bs.drop (16 * k)).take 16).length = ((bs'.drop (16 * k)).take 16).length := by
  rw [List.length_take, List.length_take, List.length_drop, List.length_drop, h.length_eq]

/-- As polynomials the texts differ in one coefficient. -/
theorem coefficients_eq (h : DifferAt k bs bs') :
    ∃ front back, coefficients bs = front ++ element ((bs.drop (16 * k)).take 16) :: back ∧
      coefficients bs' = front ++ element ((bs'.drop (16 * k)).take 16) :: back := by
  refine ⟨(Bytes.chunks 16 (bs.take (16 * k))).map element,
    (Bytes.chunks 16 (bs.drop (16 * k + 16))).map element ++
      [BitVec.ofNat 128 (bs.length * 8)], coefficients_split h.drop_ne_nil, ?_⟩
  rw [h.take_eq, h.drop_eq, h.length_eq]
  exact coefficients_split h.symm.drop_ne_nil

variable {E : Block → Block} {nonce : Nonce}

/-- The tags of the two texts differ. -/
theorem tag_ne (h : DifferAt k bs bs') (nonzero : hashKey E ≠ 0) :
    tag E nonce bs ≠ tag E nonce bs' := by
  obtain ⟨front, back, hbs, hbs'⟩ := h.coefficients_eq
  have differ : element ((bs.drop (16 * k)).take 16) ≠ element ((bs'.drop (16 * k)).take 16) := by
    rw [ne_eq, element_inj h.length_block (List.length_take_le _ _)]
    exact h.block_ne
  intro same
  have values := (BitVec.xor_left_inj _).1 (bytesOf_injective same)
  rw [hbs, hbs'] at values
  exact evaluate_ne nonzero differ front back values

/-- The tag of the one does not open the other. -/
theorem openText_eq_none (h : DifferAt k bs bs') (nonzero : hashKey E ≠ 0) :
    openText E nonce (bs' ++ tag E nonce bs) = none := by
  rw [openText_append _ _ _ (length_tag E nonce bs), if_neg (h.tag_ne nonzero)]

end DifferAt

end Credentials.Gcm
