import Mathlib.Data.List.OfFn
import Credentials.Cipher.Blowfish
import Credentials.Proofs.Bytes

/-!
# Keys repeated without end

Of a key only the words count that its bytes make when they are repeated without end.

* `repeated` — the byte at a place of the repeated key.
* `word_inj` — four bytes make one word, and no other four bytes make it.
* `cycle_eq_iff` — **two keys make the same words if and only if their repetitions agree** as far as
  the words go.
* `repeated_take` — what a key has behind that does not count.
-/

namespace Credentials.Blowfish

/-- The byte at place `i` of a byte string that is repeated without end. -/
def repeated (bs : Bytes) (i : Nat) : UInt8 := bs.getD (i % bs.length) 0

/-- The first round of a repetition is the byte string itself. -/
theorem repeated_of_lt {bs : Bytes} {i : Nat} (h : i < bs.length) : repeated bs i = bs[i] := by
  rw [repeated, Nat.mod_eq_of_lt h, List.getElem_eq_getD 0]

/-- Bytes behind the first `n` do not count for the first `n` of the repetition. -/
theorem repeated_take {bs : Bytes} {n i : Nat} (h : i < n) :
    repeated (bs.take n) i = repeated bs i := by
  rcases Nat.lt_or_ge n bs.length with cut | whole
  · have within : i < (bs.take n).length := by
      rw [List.length_take]
      omega
    rw [repeated_of_lt within, repeated_of_lt (Nat.lt_trans h cut), List.getElem_take]
  · rw [List.take_of_length_le whole]

/-! ## Words -/

/-- The word of four bytes. -/
def word (bs : Bytes) : UInt32 := UInt32.ofNat bs.toNat

/-- A word tells its four bytes. -/
theorem word_inj {as bs : Bytes} (ha : as.length = 4) (hb : bs.length = 4) :
    word as = word bs ↔ as = bs := by
  have toNat_word {bs : Bytes} (h : bs.length = 4) : (word bs).toNat = bs.toNat := by
    have lt := bs.toNat_lt
    rw [h] at lt
    exact UInt32.toNat_ofNat_of_lt' lt
  rw [← UInt32.toNat_inj, toNat_word ha, toNat_word hb, Bytes.toNat_inj (ha.trans hb.symm)]

/-- The four bytes of word `q` of a repetition. -/
def quad (bs : Bytes) (q : Nat) : Bytes := (List.range 4).map fun j => repeated bs (4 * q + j)

/-- The words that a key is cycled through are those of its repetition. -/
theorem cycle_eq (n : Nat) (bs : Bytes) :
    cycle n bs = Array.ofFn fun q : Fin n => word (quad bs q) := by
  simp [cycle, word, quad, repeated, Bytes.toNat, List.range_succ]

variable {n : Nat} {as bs : Bytes}

/-- Two repetitions have the same word at a place just if they have the same four bytes there. -/
theorem word_quad_inj {q : Nat} : word (quad as q) = word (quad bs q) ↔
    ∀ j < 4, repeated as (4 * q + j) = repeated bs (4 * q + j) := by
  rw [word_inj (by simp [quad]) (by simp [quad]), quad, quad, List.map_inj_left]
  simp only [List.mem_range]

/-- Two keys make the same words if and only if their repetitions agree as far as the words go. -/
theorem cycle_eq_iff : cycle n as = cycle n bs ↔ ∀ i < 4 * n, repeated as i = repeated bs i := by
  rw [cycle_eq, cycle_eq, ← Array.toList_inj, Array.toList_ofFn, Array.toList_ofFn,
    List.ofFn_injective.eq_iff, funext_iff]
  simp only [word_quad_inj]
  constructor
  · intro same i hi
    have byte := same ⟨i / 4, by omega⟩ (i % 4) (Nat.mod_lt i (by decide))
    rwa [Nat.div_add_mod] at byte
  · intro same q j hj
    apply same
    omega

end Credentials.Blowfish
