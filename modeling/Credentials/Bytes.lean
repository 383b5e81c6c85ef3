/-!
# Byte strings

The byte string is the common currency of the library: messages, digests, keys, and texts in their
encoded form. This file fixes the type and the few operations that every part needs.

* `Bytes.toNat` and `Bytes.ofNat` — the number that a byte string spells, most significant byte
  first, and the spelling of a number in a given length.
* `Bytes.chars` — the characters of an ASCII text.
* `Bytes.chunks` — a byte string cut into pieces of one size, the last one possibly shorter.
* `Bytes.block?` — a byte string as a block of a fixed length.
* `Bytes.xor` — bytewise exclusive or, as long as the shorter argument.
-/

namespace Credentials

/-- A byte string. -/
abbrev Bytes := List UInt8

namespace Bytes

/-! ## Numbers -/

/-- The number that a byte string spells in base 256, most significant byte first. -/
def toNat (bs : Bytes) : Nat := bs.foldl (fun n b => n * 256 + b.toNat) 0

/-- The last `len` base-256 digits of `n`, most significant first. -/
def ofNat : (len n : Nat) → Bytes
  | 0, _ => []
  | len + 1, n => ofNat len (n / 256) ++ [UInt8.ofNat n]

/-- A number is written in as many bytes as are asked for. -/
@[simp] theorem length_ofNat (len n : Nat) : (ofNat len n).length = len := by
  induction len generalizing n with
  | zero => rfl
  | succ len ih => simp [ofNat, ih]

/-- A number below 256 is the number of its byte. -/
theorem toNat_byte {n : Nat} (h : n < 256) : (UInt8.ofNat n).toNat = n :=
  UInt8.toNat_ofNat_of_lt' h

/-- A byte is the byte of its number. -/
theorem ofNat_eq {n : Nat} {b : UInt8} (h : n = b.toNat) : UInt8.ofNat n = b := by
  rw [h, UInt8.ofNat_toNat]

/-! ## Characters -/

/-- The bytes of an ASCII text as its characters. -/
def chars (bs : Bytes) : List Char := bs.map fun b => Char.ofNat b.toNat

/-! ## Pieces and blocks -/

/-- The byte string cut into pieces of `size` bytes; the last piece may be shorter, and pieces of
no bytes are not cut at all. -/
def chunks (size : Nat) (bs : Bytes) : List Bytes :=
  if _h : bs = [] ∨ size = 0 then [] else bs.take size :: chunks size (bs.drop size)
termination_by bs.length
decreasing_by
  have : bs.length ≠ 0 := fun h => _h (.inl (List.length_eq_zero_iff.1 h))
  simp only [List.length_drop]
  omega

/-- A byte string of exactly `n` bytes as a block. -/
def block? (n : Nat) (bs : Bytes) : Option (Vector UInt8 n) :=
  if h : bs.length = n then some ⟨bs.toArray, by simpa using h⟩ else none

/-- A byte string makes a block just if it has the block's length, and then with the same bytes. -/
theorem block?_eq_some_iff {n : Nat} {bs : Bytes} {v : Vector UInt8 n} :
    block? n bs = some v ↔ v.toList = bs := by
  unfold block?
  constructor
  · intro h
    split at h
    · obtain rfl := Option.some.inj h
      simp [Vector.toList]
    · simp at h
  · rintro rfl
    simp [Vector.toList]

/-- The bytes of a block make that block again. -/
@[simp] theorem block?_toList {n : Nat} (v : Vector UInt8 n) : block? n v.toList = some v :=
  block?_eq_some_iff.2 rfl

/-- A number as a block of base-256 digits. -/
def blockOfNat (len n : Nat) : Vector UInt8 len := ⟨(ofNat len n).toArray, by simp⟩

/-- The bytes of a number's block are the number written at that length. -/
@[simp] theorem toList_blockOfNat (len n : Nat) : (blockOfNat len n).toList = ofNat len n := by
  simp [blockOfNat, Vector.toList]

/-! ## Exclusive or -/

/-- Bytewise exclusive or, as long as the shorter of the two. -/
def xor (as bs : Bytes) : Bytes := List.zipWith (· ^^^ ·) as bs

/-- The sum of two byte strings is as long as the shorter one. -/
@[simp] theorem length_xor (as bs : Bytes) : (xor as bs).length = min as.length bs.length := by
  simp [xor]

/-- Under a mask at least as long as the text, masking twice gives the text back. -/
theorem xor_xor_cancel {as bs : Bytes} (h : as.length ≤ bs.length) : xor (xor as bs) bs = as := by
  induction as generalizing bs with
  | nil => rfl
  | cons a as ih =>
    match bs, h with
    | b :: bs, h =>
      have hab : (a ^^^ b) ^^^ b = a := by rw [UInt8.xor_assoc, UInt8.xor_self, UInt8.xor_zero]
      show ((a ^^^ b) ^^^ b) :: xor (xor as bs) bs = a :: as
      rw [hab, ih (Nat.le_of_succ_le_succ h)]

end Bytes

end Credentials
