import Mathlib.Algebra.Group.Nat.Defs
import Mathlib.Data.List.Induction
import Credentials.Bytes

/-!
# Numbers and pieces of byte strings

* `toNat_lt`, `toNat_inj` — a byte string spells a number below 256 to the power of its length, and
  of all byte strings of this length it is the only one that does.
* `toNat_ofNat` — the spelling of a number in a length is read as its remainder.
* `exists_block` — a byte string of the right length is a block.
* `chunks_take_drop` — a byte string can be cut at the end of any piece before it is cut into
  pieces.
-/

namespace Credentials.Bytes

/-! ## Numbers -/

/-- A byte behind the others counts as the last digit to the base 256. -/
theorem toNat_concat (bs : Bytes) (b : UInt8) : toNat (bs ++ [b]) = toNat bs * 256 + b.toNat := by
  rw [toNat, List.foldl_append]
  rfl

/-- A byte string is a number of as many digits to the base 256 as it has bytes. -/
theorem toNat_lt (bs : Bytes) : toNat bs < 256 ^ bs.length := by
  induction bs using List.reverseRecOn with
  | nil => decide
  | append_singleton bs b ih =>
    have hb : b.toNat < 256 := b.toNat_lt
    rw [toNat_concat, List.length_append, List.length_singleton, pow_succ]
    omega

/-- Of all byte strings of one length, only one spells a number. -/
theorem toNat_inj {as bs : Bytes} (length : as.length = bs.length) :
    toNat as = toNat bs ↔ as = bs := by
  constructor
  · intro h
    induction as using List.reverseRecOn generalizing bs with
    | nil => exact (List.eq_nil_of_length_eq_zero length.symm).symm
    | append_singleton as a ih =>
      rcases List.eq_nil_or_concat bs with rfl | ⟨bs, b, rfl⟩
      · simp at length
      · -- the last digits are the remainders by 256, and the rest spell the quotients
        rw [List.concat_eq_append] at h length ⊢
        have ha : a.toNat < 256 := a.toNat_lt
        have hb : b.toNat < 256 := b.toNat_lt
        rw [toNat_concat, toNat_concat] at h
        have last : a = b := UInt8.toNat_inj.1 (by omega)
        have rest : as = bs := ih (by simpa using length) (by omega)
        rw [last, rest]
  · rintro rfl
    rfl

/-- A number that is written at a fixed length loses what does not fit in. -/
theorem toNat_ofNat (len n : Nat) : toNat (ofNat len n) = n % 256 ^ len := by
  induction len generalizing n with
  | zero => rw [pow_zero, Nat.mod_one]; rfl
  | succ len ih =>
    have last : (UInt8.ofNat n).toNat = n % 256 := UInt8.toNat_ofNat'
    rw [ofNat, toNat_concat, ih, last, pow_succ', Nat.mod_mul]
    omega

/-! ## Blocks -/

/-- A byte string of the right length is a block. -/
theorem exists_block {n : Nat} {bs : Bytes} (h : bs.length = n) :
    ∃ v : Vector UInt8 n, v.toList = bs := by
  have block : bs.block? n = some ⟨bs.toArray, by simpa using h⟩ := dif_pos h
  exact ⟨_, block?_eq_some_iff.1 block⟩

/-! ## Pieces -/

/-- There is nothing to cut in the empty byte string. -/
@[simp] theorem chunks_nil (size : Nat) : chunks size [] = [] := by
  rw [chunks]
  exact dif_pos (.inl rfl)

/-- The first chunk of a byte string is its front, and the others are those of the rest. -/
theorem chunks_of_ne_nil {size : Nat} (positive : size ≠ 0) {bs : Bytes} (h : bs ≠ []) :
    chunks size bs = bs.take size :: chunks size (bs.drop size) := by
  rw [chunks]
  exact dif_neg (not_or.2 ⟨h, positive⟩)

/-- A cut between two chunks leaves the chunks as they are. -/
theorem chunks_take_drop {size : Nat} (positive : size ≠ 0) (k : Nat) (bs : Bytes) :
    chunks size bs = chunks size (bs.take (size * k)) ++ chunks size (bs.drop (size * k)) := by
  induction k generalizing bs with
  | zero => simp
  | succ k ih =>
    by_cases h : bs = []
    · simp [h]
    · have front : bs.take (size * (k + 1)) ≠ [] := by
        rw [ne_eq, List.take_eq_nil_iff, not_or]
        exact ⟨Nat.mul_ne_zero positive k.succ_ne_zero, h⟩
      have first : (bs.take (size * (k + 1))).take size = bs.take size := by
        rw [List.take_take, Nat.min_eq_left (Nat.le_mul_of_pos_right size k.succ_pos)]
      have later : (bs.take (size * (k + 1))).drop size = (bs.drop size).take (size * k) := by
        rw [List.drop_take, Nat.mul_succ, Nat.add_sub_cancel]
      rw [chunks_of_ne_nil positive h, chunks_of_ne_nil positive front, first, later,
        ih (bs.drop size), List.drop_drop, Nat.mul_succ, Nat.add_comm, List.cons_append]

end Credentials.Bytes
