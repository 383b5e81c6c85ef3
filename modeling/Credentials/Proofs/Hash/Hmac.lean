import Credentials.Hash.Hmac

/-!
# Keys and codes

Of a key only its block counts: a key that is not longer than a block and the same key with zeros
behind it are one key (`Hmac.blockOfKey_append_zeros`), and so are a longer key and its digest
(`Hmac.blockOfKey_digest`).

Two keys with different blocks give different codes, as far as the hash function is good for it. If
they give a message the same code, then the two texts that were hashed last are different and have
one digest (`Hmac.collision_of_code_eq`).
-/

namespace Credentials

/-! ## Digests -/

/-- Eight words of `w` bits are as many bytes. -/
theorem Sha2.length_words {w : Nat} (words : Vector (BitVec w) 8) :
    (words.toList.flatMap fun x => Bytes.ofNat (w / 8) x.toNat).length = 8 * (w / 8) := by
  simp only [List.length_flatMap, Bytes.length_ofNat, List.map_const', Vector.length_toList,
    List.sum_replicate_nat]

namespace HashFunction

/-- Two different byte strings with one digest. -/
def Collision (hash : HashFunction) (as bs : Bytes) : Prop :=
  as ≠ bs ∧ hash.digest as = hash.digest bs

/-- Digests fit a block. -/
def FitsBlock (hash : HashFunction) : Prop := ∀ bs, (hash.digest bs).length ≤ hash.blockLength

/-- A digest of SHA-256 has 32 bytes. -/
theorem length_digest_sha256 (bs : Bytes) : (sha256.digest bs).length = 32 := by
  show (Sha2.digest Sha2.sha256 bs).length = 32
  rw [Sha2.digest, List.length_take, Sha2.length_words]
  rfl

/-- The digests of SHA-256 fit its blocks. -/
theorem fitsBlock_sha256 : sha256.FitsBlock := by
  intro bs
  rw [length_digest_sha256]
  decide

end HashFunction

namespace Hmac

variable {hash : HashFunction} {key key' : Bytes}

/-! ## Blocks -/

/-- A key that fits a block is filled up with zero bytes. -/
theorem blockOfKey_of_le (h : key.length ≤ hash.blockLength) :
    blockOfKey hash key = key ++ List.replicate (hash.blockLength - key.length) 0 := by
  unfold blockOfKey
  rw [if_neg (Nat.not_lt.2 h)]

/-- A key of the length of a block is its own block. -/
theorem blockOfKey_of_eq (h : key.length = hash.blockLength) : blockOfKey hash key = key := by
  rw [blockOfKey_of_le (Nat.le_of_eq h), h, Nat.sub_self, List.replicate_zero, List.append_nil]

/-- Each key becomes a full block. -/
theorem length_blockOfKey (fits : hash.FitsBlock) (key : Bytes) :
    (blockOfKey hash key).length = hash.blockLength := by
  by_cases h : key.length ≤ hash.blockLength
  · rw [blockOfKey_of_le h, List.length_append, List.length_replicate]
    omega
  · have := fits key
    unfold blockOfKey
    rw [if_pos (Nat.not_le.1 h), List.length_append, List.length_replicate]
    omega

/-- Zeros behind a key do not count, as long as the key is not longer than a block with them. -/
theorem blockOfKey_append_zeros {n : Nat} (h : key.length + n ≤ hash.blockLength) :
    blockOfKey hash (key ++ List.replicate n 0) = blockOfKey hash key := by
  have length : (key ++ List.replicate n 0).length = key.length + n := by
    rw [List.length_append, List.length_replicate]
  rw [blockOfKey_of_le (length ▸ h), blockOfKey_of_le (by omega), length, List.append_assoc,
    List.replicate_append_replicate]
  congr 2
  omega

/-- Of two keys that are not longer than a block, with one block, the longer one is the shorter one
with zeros behind. -/
theorem eq_append_of_blockOfKey_eq (hle : key.length ≤ key'.length)
    (h' : key'.length ≤ hash.blockLength) (same : blockOfKey hash key = blockOfKey hash key') :
    key' = key ++ List.replicate (key'.length - key.length) 0 := by
  have h : key.length ≤ hash.blockLength := Nat.le_trans hle h'
  rw [blockOfKey_of_le h, blockOfKey_of_le h'] at same
  have front := congrArg (List.take key'.length) same
  rw [List.take_left, List.take_append, List.take_of_length_le hle, List.take_replicate,
    Nat.min_eq_left (Nat.sub_le_sub_right h' _)] at front
  exact front.symm

/-- A key that is longer than a block counts as its digest. -/
theorem blockOfKey_digest (fits : hash.FitsBlock) (h : hash.blockLength < key.length) :
    blockOfKey hash (hash.digest key) = blockOfKey hash key := by
  rw [blockOfKey_of_le (fits key)]
  unfold blockOfKey
  rw [if_pos h]

/-! ## Codes -/

/-- The text that is hashed last when a message gets its code. -/
def outerText (hash : HashFunction) (key message : Bytes) : Bytes :=
  (blockOfKey hash key).map (· ^^^ 0x5C) ++
    hash.digest ((blockOfKey hash key).map (· ^^^ 0x36) ++ message)

/-- A code is the digest of its outer text. -/
theorem code_eq_digest (hash : HashFunction) (key message : Bytes) :
    code hash key message = hash.digest (outerText hash key message) := rfl

/-- Keys with one block give the same codes. -/
theorem code_eq_of_blockOfKey_eq (h : blockOfKey hash key = blockOfKey hash key')
    (message : Bytes) : code hash key message = code hash key' message := by
  unfold code
  rw [h]

/-- Keys with different blocks are told apart by the texts that are hashed last. -/
theorem outerText_ne (fits : hash.FitsBlock) (h : blockOfKey hash key ≠ blockOfKey hash key')
    (message : Bytes) : outerText hash key message ≠ outerText hash key' message := by
  intro same
  have front : (blockOfKey hash key).map (· ^^^ 0x5C) = (blockOfKey hash key').map (· ^^^ 0x5C) := by
    apply List.append_inj_left same
    rw [List.length_map, List.length_map, length_blockOfKey fits, length_blockOfKey fits]
  have injective : ∀ a b : UInt8, a ^^^ 0x5C = b ^^^ 0x5C → a = b := fun a b hab =>
    (UInt8.xor_left_inj _).1 hab
  exact h ((List.map_inj_right injective).1 front)

/-- If keys with different blocks give a message the same code, the hash function collides. -/
theorem collision_of_code_eq (fits : hash.FitsBlock) {message : Bytes}
    (h : blockOfKey hash key ≠ blockOfKey hash key')
    (same : code hash key message = code hash key' message) :
    hash.Collision (outerText hash key message) (outerText hash key' message) := by
  rw [code_eq_digest, code_eq_digest] at same
  exact ⟨outerText_ne fits h message, same⟩

end Hmac

end Credentials
