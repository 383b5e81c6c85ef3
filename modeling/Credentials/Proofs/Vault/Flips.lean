import Credentials.Proofs.Cipher.Tag
import Credentials.Proofs.Vault.Opening

/-!
# Flipped bits

* `Bytes.flip` — a byte string with one bit flipped.
* `Encryptor.decrypt_of_differAt` — a change within one block of a masked payload is noticed.
* `Encryptor.decrypt_flip`, `flipped_bit_noticed` — **every flipped bit is noticed**, in the masked
  payload and in the tag, unless the key encrypts the block of zeros to itself.
-/

namespace Credentials

/-! ## Flipping a bit -/

namespace Bytes

/-- The byte string with one bit flipped; bits are counted from the lowest one of the first byte. -/
def flip (bs : Bytes) (i : Nat) : Bytes := bs.modify (i / 8) (· ^^^ 1 <<< UInt8.ofNat (i % 8))

/-- A flip keeps the length. -/
@[simp] theorem length_flip (bs : Bytes) (i : Nat) : (bs.flip i).length = bs.length :=
  List.length_modify _ _ _

/-- Only one byte is touched. -/
theorem flip_split {front : Bytes} {i : Nat} (h : front.length = i / 8) (b : UInt8)
    (back : Bytes) :
    flip (front ++ b :: back) i = front ++ (b ^^^ 1 <<< UInt8.ofNat (i % 8)) :: back := by
  rw [flip, ← h]
  exact List.modifyTailIdx_add _ 0 front (b :: back)

/-- A bit stands in one byte, with others before and behind. -/
theorem exists_split {bs : Bytes} {i : Nat} (h : i < 8 * bs.length) :
    ∃ front b back, bs = front ++ b :: back ∧ front.length = i / 8 := by
  have within : i / 8 < bs.length := by omega
  refine ⟨bs.take (i / 8), bs[i / 8], bs.drop (i / 8 + 1), ?_, List.length_take_of_le within.le⟩
  rw [List.getElem_cons_drop, List.take_append_drop]

/-- A flip within a byte string changes it. -/
theorem flip_ne {bs : Bytes} {i : Nat} (h : i < 8 * bs.length) : bs.flip i ≠ bs := by
  obtain ⟨front, b, back, rfl, hfront⟩ := exists_split h
  rw [flip_split hfront]
  intro same
  have fixed : b ^^^ 1 <<< UInt8.ofNat (i % 8) = b ^^^ 0 := by
    rw [(List.cons.inj (List.append_cancel_left same)).1, UInt8.xor_zero]
  have bit : ∀ j < 8, (1 : UInt8) <<< UInt8.ofNat j ≠ 0 := by decide
  exact bit (i % 8) (Nat.mod_lt i (by decide)) ((UInt8.xor_right_inj b).1 fixed)

/-- A bit of the front is flipped there. -/
theorem flip_append_left {as : Bytes} {i : Nat} (h : i < 8 * as.length) (bs : Bytes) :
    flip (as ++ bs) i = as.flip i ++ bs := by
  obtain ⟨front, b, back, rfl, hfront⟩ := exists_split h
  rw [flip_split hfront, List.append_assoc, List.cons_append, flip_split hfront,
    List.append_assoc, List.cons_append]

/-- A bit behind the front is flipped behind it. -/
theorem flip_append_right (as bs : Bytes) (i : Nat) :
    flip (as ++ bs) (8 * as.length + i) = as ++ bs.flip i := by
  have byte : (8 * as.length + i) / 8 = as.length + i / 8 := by omega
  have bit : (8 * as.length + i) % 8 = i % 8 := by omega
  rw [flip, byte, bit]
  exact List.modifyTailIdx_add _ _ _ _

/-- A flipped bit is a change within one block. -/
theorem differAt_flip {bs : Bytes} {i : Nat} (h : i < 8 * bs.length) :
    Gcm.DifferAt (i / 128) bs (bs.flip i) where
  length_eq := (length_flip bs i).symm
  take_eq := by
    have outside : (bs.take (16 * (i / 128))).length ≤ i / 8 := by
      rw [List.length_take]
      omega
    rw [flip, List.take_modify, List.modify_eq_self outside]
  drop_eq := by
    have outside : i / 8 < 16 * (i / 128) + 16 := by omega
    rw [flip, List.drop_modify_of_lt _ _ _ _ outside]
  ne := (flip_ne h).symm

end Bytes

namespace Vault

/-! ## What is noticed -/

namespace Encryptor

/-- The hash key of a cipher that does not fix the zero block is not zero. -/
theorem hashKey_ne_zero {e : Encryptor}
    (h : Aes.encrypt e.key (Vector.replicate 16 0) ≠ Vector.replicate 16 0) :
    Gcm.hashKey (Aes.encrypt e.key) ≠ 0 := by
  have zero : Gcm.element (Vector.replicate 16 0).toList = 0 := by decide
  rw [Gcm.hashKey, ← zero, ne_eq, Gcm.element_inj (by simp) (by simp), Vector.toList_inj]
  exact h

section noticed

variable {e : Encryptor} (h : Aes.encrypt e.key (Vector.replicate 16 0) ≠ Vector.replicate 16 0)

include h

/-- A change within one block of a masked payload is noticed. -/
theorem decrypt_of_differAt {k : Nat} {masked masked' : Bytes}
    (differ : Gcm.DifferAt k masked masked') (draw : Gcm.Nonce) :
    e.decrypt (masked' ++ Gcm.tag (Aes.encrypt e.key) draw masked) draw.toList =
      .error .authentication := by
  rw [decrypt_toList, Gcm.open?_eq_none (differ.openText_eq_none (hashKey_ne_zero h))]

/-- A flipped bit is noticed. -/
theorem decrypt_flip (draw : Gcm.Nonce) (payload : Bytes) {i : Nat}
    (hi : i < 8 * (e.sealed draw payload).ciphertext.length) :
    e.decrypt ((e.sealed draw payload).ciphertext.flip i) (e.sealed draw payload).nonce =
      .error .authentication := by
  simp only [sealed, Gcm.sealText, List.length_append] at hi ⊢
  generalize Gcm.mask (Aes.encrypt e.key) draw payload = masked at hi ⊢
  rcases Nat.lt_or_ge i (8 * masked.length) with inMasked | inTag
  · rw [Bytes.flip_append_left inMasked]
    exact decrypt_of_differAt h (Bytes.differAt_flip inMasked) draw
  · obtain ⟨j, rfl⟩ := Nat.exists_eq_add_of_le inTag
    have hj : j < 8 * (Gcm.tag (Aes.encrypt e.key) draw masked).length := by omega
    have length : ((Gcm.tag (Aes.encrypt e.key) draw masked).flip j).length = Gcm.tagLength := by
      rw [Bytes.length_flip, Gcm.length_tag]
    rw [Bytes.flip_append_right, decrypt_append_of_ne e draw masked length (Bytes.flip_ne hj)]

end noticed

/-- What is not authentic is no text either. -/
theorem decryptText_of_error {e : Encryptor} {ciphertext nonce : Bytes} {f : Failure}
    (h : e.decrypt ciphertext nonce = .error f) : e.decryptText ciphertext nonce = .error f := by
  unfold decryptText
  rw [h]
  rfl

end Encryptor

/-- **Every flipped bit is noticed**, in the masked payload and in the tag, whatever the nonce and the
payload, by all three ways of opening. The key must not encrypt the block of zeros to itself. A payload
of which there is no envelope is one that is too long to be sealed. -/
theorem flipped_bit_noticed (e : Encryptor)
    (h : Aes.encrypt e.key (Vector.replicate 16 0) ≠ Vector.replicate 16 0) (draw : Gcm.Nonce)
    (payload : Bytes) :
    (payload.length ≤ Gcm.maxText ↔ ∃ envelope, e.encrypt draw payload = .ok envelope) ∧
    ∀ envelope, e.encrypt draw payload = .ok envelope →
    ∀ i < 8 * envelope.ciphertext.length,
      e.decrypt (envelope.ciphertext.flip i) envelope.nonce = .error .authentication ∧
      e.decryptEnvelope ⟨envelope.ciphertext.flip i, envelope.nonce⟩ = .error .authentication ∧
      e.decryptText (envelope.ciphertext.flip i) envelope.nonce = .error .authentication := by
  constructor
  · constructor
    · exact fun within => ⟨_, e.encrypt_of_le draw within⟩
    · exact fun ⟨_, made⟩ => (Encryptor.encrypt_eq_ok_iff.1 made).1
  · intro envelope made i hi
    obtain ⟨-, rfl⟩ := Encryptor.encrypt_eq_ok_iff.1 made
    have noticed := Encryptor.decrypt_flip h draw payload hi
    exact ⟨noticed, noticed, Encryptor.decryptText_of_error noticed⟩

/-- The last bit of a payload of seventeen bytes, which stands alone in its block, and the last bit
of the tag. -/
theorem flipped_bit_noticed_last :
    let e : Encryptor := ⟨Vector.replicate 32 0⟩
    let draw : Gcm.Nonce := Vector.replicate 12 7
    ∃ envelope, e.encrypt draw (List.replicate 17 1) = .ok envelope ∧
      e.decrypt (envelope.ciphertext.flip 135) envelope.nonce = .error .authentication ∧
      e.decryptText (envelope.ciphertext.flip 263) envelope.nonce = .error .authentication := by
  intro e draw
  have h : Aes.encrypt e.key (Vector.replicate 16 0) ≠ Vector.replicate 16 0 := by decide +kernel
  obtain ⟨sealed, noticed⟩ := flipped_bit_noticed e h draw (List.replicate 17 1)
  obtain ⟨envelope, made⟩ := sealed.1 (by decide)
  have length : envelope.ciphertext.length = 33 := by
    obtain ⟨-, rfl⟩ := Encryptor.encrypt_eq_ok_iff.1 made
    exact e.length_ciphertext_sealed draw _
  have masked : 135 < 8 * envelope.ciphertext.length := by
    rw [length]
    decide
  have tag : 263 < 8 * envelope.ciphertext.length := by
    rw [length]
    decide
  exact ⟨envelope, made, (noticed envelope made 135 masked).1, (noticed envelope made 263 tag).2.2⟩

end Vault

end Credentials
