import Credentials.Proofs.Cipher.Gcm
import Credentials.Proofs.Json.Records
import Credentials.Vault.Run

/-!
# Sealing, storing and opening

* `Encryptor.sealed` — the envelope of a payload, of any length. `Encryptor.encrypt_eq`: it is what
  sealing gives, unless the payload is too long.
* `Encryptor.decrypt_of_encrypt`, `Encryptor.decryptText_of_encryptText` — what was sealed is opened
  under the same key, whatever nonce was drawn for it.
* `Envelope.ofTree?_text`, `Run.outcome_load` — an envelope that was stored is loaded as it was.
  This holds of all envelopes, also of those that no encryptor made.
* `seal_store_open` — **the whole way**, from a payload through an envelope and its stored form and
  back.
-/

namespace Credentials.Vault

open Json

/-! ## Sealing and opening -/

namespace Encryptor

/-- The envelope of a payload under a nonce, whatever the length of the payload. -/
def sealed (e : Encryptor) (draw : Gcm.Nonce) (payload : Bytes) : Envelope :=
  ⟨Gcm.sealText (Aes.encrypt e.key) draw payload, draw.toList⟩

/-- Sealing gives the envelope of a payload, unless this is too long. -/
theorem encrypt_eq (e : Encryptor) (draw : Gcm.Nonce) (payload : Bytes) :
    e.encrypt draw payload =
      if payload.length ≤ Gcm.maxText then .ok (e.sealed draw payload)
      else .error .encryption := by
  unfold encrypt sealing Gcm.seal? Drawing.given
  by_cases within : payload.length ≤ Gcm.maxText
  · simp only [if_pos within]
    rfl
  · simp only [if_neg within]

variable {e : Encryptor} {draw : Gcm.Nonce} {payload : Bytes} {envelope : Envelope}

/-- A payload that is not too long is sealed. -/
theorem encrypt_of_le (e : Encryptor) (draw : Gcm.Nonce) (h : payload.length ≤ Gcm.maxText) :
    e.encrypt draw payload = .ok (e.sealed draw payload) := by
  rw [encrypt_eq, if_pos h]

/-- What was sealed is the envelope of a payload that is not too long. -/
theorem encrypt_eq_ok_iff :
    e.encrypt draw payload = .ok envelope ↔
      payload.length ≤ Gcm.maxText ∧ envelope = e.sealed draw payload := by
  rw [encrypt_eq]
  by_cases within : payload.length ≤ Gcm.maxText
  · rw [if_pos within, Except.ok.injEq, eq_comm]
    exact (and_iff_right within).symm
  · rw [if_neg within]
    exact ⟨nofun, fun h => absurd h.1 within⟩

/-- The nonce of an envelope has twelve bytes. -/
theorem length_nonce_sealed (e : Encryptor) (draw : Gcm.Nonce) (payload : Bytes) :
    (e.sealed draw payload).nonce.length = nonceSize := Vector.length_toList

/-- The ciphertext of an envelope is as much longer than the payload as a tag is long. -/
theorem length_ciphertext_sealed (e : Encryptor) (draw : Gcm.Nonce) (payload : Bytes) :
    (e.sealed draw payload).ciphertext.length = payload.length + Gcm.tagLength :=
  Gcm.length_sealText _ draw payload

/-- Opening gives the payload of an envelope. It may even be longer than what can be sealed. -/
theorem decrypt_sealed (e : Encryptor) (draw : Gcm.Nonce) (h : payload.length ≤ Gcm.maxMasked) :
    e.decrypt (e.sealed draw payload).ciphertext (e.sealed draw payload).nonce = .ok payload := by
  have opened : Gcm.open? (Aes.encrypt e.key) draw (e.sealed draw payload).ciphertext =
      some payload := Gcm.open?_eq_some_iff.2 ⟨h, rfl⟩
  unfold decrypt sealed at *
  simp only [Bytes.block?_toList, opened]

/-- What was sealed is opened. -/
theorem decrypt_of_encrypt (h : e.encrypt draw payload = .ok envelope) :
    e.decrypt envelope.ciphertext envelope.nonce = .ok payload := by
  obtain ⟨within, rfl⟩ := encrypt_eq_ok_iff.1 h
  exact e.decrypt_sealed draw (Nat.le_add_right_of_le within)

/-- Opening a text is opening its bytes, if these are UTF-8. -/
theorem decryptText_of_decrypt {ciphertext nonce : Bytes} {s : String}
    (h : e.decrypt ciphertext nonce = .ok (Utf8.ofString s)) :
    e.decryptText ciphertext nonce = .ok s := by
  unfold decryptText
  rw [h]
  show ((Utf8.decode (Utf8.encode s.toList)).mapError Failure.text >>= fun cs =>
    pure (String.ofList cs)) = _
  rw [Utf8.decode_encode]
  exact congrArg Except.ok String.ofList_toList

/-- A text that was sealed is opened. -/
theorem decryptText_of_encryptText {s : String} (h : e.encryptText draw s = .ok envelope) :
    e.decryptText envelope.ciphertext envelope.nonce = .ok s :=
  decryptText_of_decrypt (decrypt_of_encrypt h)

/-- Two texts that spell the same key make the same encryptor. -/
theorem eq_of_spelling {k k' : String} {e e' : Encryptor} (h : ofHex? k = some e)
    (h' : ofHex? k' = some e') (same : key? k' = key? k) : e' = e := by
  unfold ofHex? at h h'
  rw [same, h] at h'
  exact (Option.some.inj h').symm

end Encryptor

/-! ## Storing and loading -/

namespace Envelope

/-- Bytes are read back from the list of their numbers. -/
theorem bytes?_tree (bs : Bytes) : bytes? (tree (numbers bs)) = some bs := by
  have each : (bs.map fun b => tree (.int b.toNat)).mapM Tree.byte? = some bs := by
    induction bs with
    | nil => rfl
    | cons b bs ih =>
      rw [List.map_cons, List.mapM_cons, Tree.byte?_tree, ih]
      rfl
  rw [bytes?, numbers, tree, Tree.elements?, Option.bind_some, elementTrees_eq_map, List.map_map]
  exact each

/-- An envelope is read back. -/
theorem ofTree?_toJson (e : Envelope) : ofTree? (tree e.toJson) = some e := by
  rw [ofTree?, toJson, fields?_tree (by simp)]
  simp [Fields.need, List.lookup_cons, bytes?_tree]

/-- The stored form of an envelope is read as the envelope. -/
theorem ofTree?_text (e : Envelope) :
    (Tree.read? (Utf8.ofString e.toJson.text)).bind ofTree? = some e := by
  rw [read?_text, Option.bind_some, ofTree?_toJson]

end Envelope

namespace Run

/-- Sealing says the envelope of a payload, or that this is too long, and logs nothing. -/
theorem ofResult_encrypt (e : Encryptor) (draw : Gcm.Nonce) (payload : Bytes) :
    Outcome.ofResult .sealed (e.encrypt draw payload) =
      if payload.length ≤ Gcm.maxText then ⟨.sealed (e.sealed draw payload), []⟩
      else ⟨.failed .encryption, []⟩ := by
  rw [Encryptor.encrypt_eq]
  split <;> rfl

/-- An envelope that was stored is loaded as it was, whatever was drawn in between. -/
theorem outcome_load (source : RandomSource) (asked : List Nat) (e : Envelope) :
    outcome source asked (.load e.toJson.text) = ⟨.loaded e, []⟩ := by
  simp only [outcome, attempt, Drawing.given, Envelope.ofTree?_text, Option.map_some,
    Option.getD_some]

end Run

/-! ## The whole way -/

/-- **What was sealed is opened, before and after it was stored.** Every payload that is not too long is
sealed. All texts that spell one key make encryptors that open what any of them sealed, bytes and texts
alike; and every envelope whatever is loaded as it was stored, so that it opens to the same. -/
theorem seal_store_open (source : RandomSource) :
    (∀ (asked : List Nat) (k k' : String) (e e' : Encryptor), Encryptor.ofHex? k = some e →
      Encryptor.ofHex? k' = some e' → Encryptor.key? k' = Encryptor.key? k →
      (∀ payload : Bytes, payload.length ≤ Gcm.maxText →
        ∃ envelope, e.encrypt (Run.draw source asked) payload = .ok envelope ∧
        envelope.nonce.length = 12 ∧ envelope.ciphertext.length = payload.length + 16 ∧
        e'.decrypt envelope.ciphertext envelope.nonce = .ok payload ∧
        e'.decryptEnvelope envelope = .ok payload) ∧
      ∀ s : String, (Utf8.ofString s).length ≤ Gcm.maxText →
        ∃ envelope, e.encryptText (Run.draw source asked) s = .ok envelope ∧
        e'.decryptText envelope.ciphertext envelope.nonce = .ok s) ∧
    ∀ envelope : Envelope,
      (Tree.read? (Utf8.ofString envelope.toJson.text)).bind Envelope.ofTree? = some envelope ∧
      ∀ asked asked', ∃ json loaded,
        Run.outcome source asked (.store envelope) = ⟨.stored json, []⟩ ∧
        Run.outcome source asked' (.load json) = ⟨.loaded loaded, []⟩ ∧
        ∀ e : Encryptor, e.decryptEnvelope loaded = e.decryptEnvelope envelope := by
  constructor
  · intro asked k k' e e' sealing opening same
    obtain rfl := Encryptor.eq_of_spelling sealing opening same
    constructor
    · intro payload within
      have made := Encryptor.encrypt_of_le e' (Run.draw source asked) within
      have opened := Encryptor.decrypt_of_encrypt made
      refine ⟨_, made, ?_, ?_, opened, opened⟩
      · exact Encryptor.length_nonce_sealed _ _ payload
      · exact Encryptor.length_ciphertext_sealed _ _ payload
    · intro s within
      have made := Encryptor.encrypt_of_le e' (Run.draw source asked) within
      exact ⟨_, made, Encryptor.decryptText_of_encryptText made⟩
  · intro envelope
    refine ⟨Envelope.ofTree?_text envelope, ?_⟩
    intro asked asked'
    refine ⟨envelope.toJson.text, envelope, rfl, Run.outcome_load source asked' envelope, ?_⟩
    intro e
    rfl

/-- A payload of seventeen bytes and one that is empty, under two spellings of one key. -/
theorem seal_store_open_spellings :
    let k := "00000000000000000000000000000000000000000000000000000000000000aB"
    let k' := " 00000000000000000000000000000000000000000000000000000000000000Ab\n"
    let e : Encryptor := ⟨(Vector.replicate 32 0).set 31 0xAB⟩
    Encryptor.ofHex? k = some e ∧ Encryptor.ofHex? k' = some e ∧
      (∃ envelope, e.encrypt (Run.draw (.constant 7) []) (List.replicate 17 1) = .ok envelope ∧
        envelope.ciphertext.length = 33 ∧
        e.decryptEnvelope envelope = .ok (List.replicate 17 1)) ∧
      ∃ envelope, e.encryptText (Run.draw (.constant 7) []) "" = .ok envelope ∧
        e.decryptText envelope.ciphertext envelope.nonce = .ok "" := by
  intro k k' e
  have sealing : Encryptor.ofHex? k = some e := by decide +kernel
  have opening : Encryptor.ofHex? k' = some e := by decide +kernel
  have same : Encryptor.key? k' = Encryptor.key? k := by decide +kernel
  obtain ⟨bytes, text⟩ := (seal_store_open (.constant 7)).1 [] k k' e e sealing opening same
  obtain ⟨envelope, made, -, length, -, opened⟩ := bytes (List.replicate 17 1) (by decide)
  exact ⟨sealing, opening, ⟨envelope, made, length, opened⟩, text "" (by decide)⟩

end Credentials.Vault
