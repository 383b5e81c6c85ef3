import Credentials.Proofs.Bytes
import Credentials.Proofs.Vault.RoundTrip

/-!
# What can be opened

An encryptor opens a payload if and only if it could have sealed it, byte by byte. Nothing is assumed
about who made the payload.

* `Encryptor.decrypt_eq_ok_iff` — what opens under a nonce is the envelope that the encryptor makes if
  it draws that nonce.
* `Encryptor.decrypt_eq_authentication_iff` — all the rest fails, in the same way, if the nonce has
  the right length.
* `Encryptor.decrypt_append_of_ne` — of all codes behind a masked payload only the tag opens it.
* `opened_is_sealed` — **opening is the exact inverse of sealing**, and what follows for payloads that
  were changed or cut short.
-/

namespace Credentials.Vault

namespace Encryptor

variable {e : Encryptor} {ciphertext nonce payload : Bytes}

/-! ## Nonces -/

/-- The length of the nonce is looked at before anything else. -/
theorem decrypt_of_length_ne (e : Encryptor) (ciphertext : Bytes) (h : nonce.length ≠ nonceSize) :
    e.decrypt ciphertext nonce = .error (.nonce nonce.length) := by
  have noBlock : nonce.block? 12 = none := dif_neg h
  rw [decrypt, noBlock]

/-- A byte string of the right length is a nonce. -/
theorem exists_nonce (h : nonce.length = nonceSize) : ∃ draw : Gcm.Nonce, draw.toList = nonce :=
  Bytes.exists_block h

/-- Under a nonce of the right length only the tag decides. -/
theorem decrypt_toList (e : Encryptor) (ciphertext : Bytes) (draw : Gcm.Nonce) :
    e.decrypt ciphertext draw.toList =
      match Gcm.open? (Aes.encrypt e.key) draw ciphertext with
      | none => .error .authentication
      | some payload => .ok payload := by
  cases opened : Gcm.open? (Aes.encrypt e.key) draw ciphertext with
  | none => simp only [decrypt, Bytes.block?_toList, opened]
  | some payload => simp only [decrypt, Bytes.block?_toList, opened]

/-! ## What opens -/

/-- What opens under a nonce is the envelope of a payload for this nonce. -/
theorem decrypt_eq_ok_iff :
    e.decrypt ciphertext nonce = .ok payload ↔
      payload.length ≤ Gcm.maxMasked ∧
        ∃ draw : Gcm.Nonce, e.sealed draw payload = ⟨ciphertext, nonce⟩ := by
  constructor
  · intro h
    by_cases length : nonce.length = nonceSize
    · obtain ⟨draw, rfl⟩ := exists_nonce length
      rw [decrypt_toList] at h
      split at h
      case h_1 => cases h
      case h_2 opened hopened =>
        cases h
        obtain ⟨within, rfl⟩ := Gcm.open?_eq_some_iff.1 hopened
        exact ⟨within, draw, rfl⟩
    · rw [decrypt_of_length_ne e ciphertext length] at h
      cases h
  · rintro ⟨within, draw, h⟩
    have opened := e.decrypt_sealed draw within
    rwa [h] at opened

/-- With a nonce of the right length there are only two answers. -/
theorem decrypt_eq_authentication_iff :
    e.decrypt ciphertext nonce = .error .authentication ↔
      nonce.length = nonceSize ∧ ∀ payload, e.decrypt ciphertext nonce ≠ .ok payload := by
  by_cases length : nonce.length = nonceSize
  · obtain ⟨draw, rfl⟩ := exists_nonce length
    simp only [length, true_and, decrypt_toList]
    cases Gcm.open? (Aes.encrypt e.key) draw ciphertext with
    | none => simp
    | some payload => simp
  · rw [decrypt_of_length_ne e ciphertext length]
    simp [length]

/-- What opens is sixteen bytes longer than its payload, for the tag. -/
theorem length_of_decrypt (h : e.decrypt ciphertext nonce = .ok payload) :
    ciphertext.length = payload.length + Gcm.tagLength ∧ nonce.length = nonceSize := by
  obtain ⟨-, draw, sealed⟩ := decrypt_eq_ok_iff.1 h
  have hciphertext := e.length_ciphertext_sealed draw payload
  have hnonce := e.length_nonce_sealed draw payload
  rw [sealed] at hciphertext hnonce
  exact ⟨hciphertext, hnonce⟩

/-- What opens under a nonce is the envelope of its payload when this nonce is drawn. -/
theorem sealed_of_decrypt {draw : Gcm.Nonce}
    (h : e.decrypt ciphertext draw.toList = .ok payload) :
    e.sealed draw payload = ⟨ciphertext, draw.toList⟩ := by
  obtain ⟨-, draw', sealed⟩ := decrypt_eq_ok_iff.1 h
  have same : draw'.toList = draw.toList := congrArg Envelope.nonce sealed
  obtain rfl : draw' = draw := Vector.toList_inj.1 same
  exact sealed

/-- Under one nonce, just one ciphertext opens to a payload. -/
theorem ciphertext_unique {ciphertext' : Bytes} (h : e.decrypt ciphertext nonce = .ok payload)
    (h' : e.decrypt ciphertext' nonce = .ok payload) : ciphertext = ciphertext' := by
  obtain ⟨draw, rfl⟩ := exists_nonce (length_of_decrypt h).2
  exact congrArg Envelope.ciphertext ((sealed_of_decrypt h).symm.trans (sealed_of_decrypt h'))

/-! ## Tags -/

/-- A code behind a masked payload that is not its tag does not open it. -/
theorem decrypt_append_of_ne (e : Encryptor) (draw : Gcm.Nonce) (masked : Bytes) {code : Bytes}
    (h : code.length = Gcm.tagLength) (wrong : code ≠ Gcm.tag (Aes.encrypt e.key) draw masked) :
    e.decrypt (masked ++ code) draw.toList = .error .authentication := by
  have closed : Gcm.openText (Aes.encrypt e.key) draw (masked ++ code) = none := by
    rw [Gcm.openText_append _ _ _ h, if_neg wrong]
  rw [decrypt_toList, Gcm.open?_eq_none closed]

/-- A payload with another tag than the one that opens it does not open. -/
theorem decrypt_other_tag {masked code code' : Bytes}
    (h : e.decrypt (masked ++ code) nonce = .ok payload) (length : code.length = Gcm.tagLength)
    (length' : code'.length = Gcm.tagLength) (changed : code' ≠ code) :
    e.decrypt (masked ++ code') nonce = .error .authentication := by
  obtain ⟨draw, rfl⟩ := exists_nonce (length_of_decrypt h).2
  apply decrypt_append_of_ne e draw masked length'
  intro right
  by_cases wrong : code = Gcm.tag (Aes.encrypt e.key) draw masked
  · exact changed (right.trans wrong.symm)
  · rw [decrypt_append_of_ne e draw masked length wrong] at h
    cases h

end Encryptor

/-! ## The inverse of sealing -/

/-- **Opening is the exact inverse of sealing.** If a ciphertext opens under a nonce, then every
encryptor with the same key that draws this nonce next seals the payload to just this envelope, and
fails only if it is too long to be sealed. Hence under one key and nonce no two ciphertexts open to
the same payload, nothing shorter than a tag opens, and an envelope that opens does not open any more
with another tag. -/
theorem opened_is_sealed (e : Encryptor) :
    (∀ ciphertext nonce payload : Bytes, e.decrypt ciphertext nonce = .ok payload →
      nonce.length = 12 ∧ ciphertext.length = payload.length + 16 ∧
      ∀ (e' : Encryptor) (source : RandomSource) (asked : List Nat), e'.key = e.key →
        (Run.draw source asked).toList = nonce →
        Run.outcome source asked (.encrypt e' payload) =
          if payload.length ≤ Gcm.maxText then ⟨.sealed ⟨ciphertext, nonce⟩, []⟩
          else ⟨.failed .encryption, []⟩) ∧
    (∀ ciphertext ciphertext' nonce payload : Bytes, e.decrypt ciphertext nonce = .ok payload →
      e.decrypt ciphertext' nonce = .ok payload → ciphertext = ciphertext') ∧
    (∀ ciphertext nonce : Bytes, ciphertext.length < 16 → e.decrypt ciphertext nonce =
      .error (if nonce.length = 12 then .authentication else .nonce nonce.length)) ∧
    ∀ masked tag tag' nonce payload : Bytes, tag.length = 16 → tag'.length = 16 → tag' ≠ tag →
      e.decryptEnvelope ⟨masked ++ tag, nonce⟩ = .ok payload →
      e.decryptEnvelope ⟨masked ++ tag', nonce⟩ = .error .authentication := by
  refine ⟨?inverse, ?unique, ?short, ?tag⟩
  case inverse =>
    intro ciphertext nonce payload opened
    obtain ⟨longer, length⟩ := Encryptor.length_of_decrypt opened
    refine ⟨length, longer, ?_⟩
    rintro ⟨key⟩ source asked rfl rfl
    rw [← Encryptor.sealed_of_decrypt opened]
    exact Run.ofResult_encrypt e (Run.draw source asked) payload
  case unique =>
    intro ciphertext ciphertext' nonce payload
    exact Encryptor.ciphertext_unique
  case short =>
    intro ciphertext nonce short
    by_cases length : nonce.length = 12
    · rw [if_pos length, Encryptor.decrypt_eq_authentication_iff]
      refine ⟨length, ?_⟩
      intro payload opened
      have enough := (Encryptor.length_of_decrypt opened).1
      unfold Gcm.tagLength at enough
      omega
    · rw [if_neg length, Encryptor.decrypt_of_length_ne e ciphertext length]
  case tag =>
    intro masked tag tag' nonce payload length length' changed opened
    exact Encryptor.decrypt_other_tag opened length length' changed

/-- An envelope for seventeen bytes: it is sealed once more under the nonce that it was made with, and
does not open any more when a bit of its tag is flipped. -/
theorem opened_is_sealed_flipped :
    let e : Encryptor := ⟨Vector.replicate 32 0xAB⟩
    let payload : Bytes := List.replicate 17 1
    let envelope := e.sealed (Run.draw (.constant 7) []) payload
    let masked := Gcm.mask (Aes.encrypt e.key) (Run.draw (.constant 7) []) payload
    let tag := Gcm.tag (Aes.encrypt e.key) (Run.draw (.constant 7) []) masked
    e.decrypt envelope.ciphertext envelope.nonce = .ok payload ∧
      Run.outcome (.constant 7) [3] (.encrypt e payload) = ⟨.sealed envelope, []⟩ ∧
      (∀ ciphertext, e.decrypt ciphertext envelope.nonce = .ok payload →
        envelope.ciphertext = ciphertext) ∧
      e.decrypt (List.replicate 15 0) envelope.nonce = .error .authentication ∧
      e.decryptEnvelope ⟨masked ++ tag.map (· ^^^ 1), envelope.nonce⟩ = .error .authentication := by
  intro e payload envelope masked tag
  obtain ⟨inverse, unique, short, flipped⟩ := opened_is_sealed e
  have within : payload.length ≤ Gcm.maxText := by decide
  have opened : e.decrypt envelope.ciphertext envelope.nonce = .ok payload :=
    e.decrypt_sealed _ (Nat.le_add_right_of_le within)
  have length : tag.length = 16 := Gcm.length_tag _ _ _
  have changed : tag.map (· ^^^ 1) ≠ tag := by
    obtain ⟨b, rest, hb⟩ := List.exists_cons_of_length_eq_add_one length
    rw [hb, List.map_cons]
    intro h
    have fixed : b ^^^ 1 = b ^^^ 0 := (List.cons.inj h).1.trans UInt8.xor_zero.symm
    exact absurd ((UInt8.xor_right_inj b).1 fixed) (by decide)
  obtain ⟨-, -, again⟩ := inverse _ _ _ opened
  refine ⟨opened, ?_, ?_, ?_, ?_⟩
  · exact (again e (.constant 7) [3] rfl rfl).trans (if_pos within)
  · intro ciphertext
    exact unique _ _ _ _ opened
  · exact short _ _ (by decide)
  · exact flipped _ _ _ _ _ length (by simpa using length) changed opened

end Credentials.Vault
