import Credentials.Proofs.Text.IllFormed
import Credentials.Proofs.Vault.Opening

/-!
# Why opening fails

* `Encryptor.decrypt_eq_nonce_iff` — a nonce of the wrong length is the first fault, and the only one
  that names a length.
* `Encryptor.decryptText_eq_ok_iff`, `Encryptor.decryptText_eq_error_iff` — a text opens if the bytes
  that open are its encoded form; it fails as the bytes do, or where these are ill-formed.
* `Run.openings` — the three ways of opening a payload. `Run.answer_opening_eq_nonce_iff`,
  `Run.outcome_opening`: they fail together, with the same events.
* `opening_failures` — **what opening can fail with**, in all three ways and for all payloads.
-/

namespace Credentials.Vault

namespace Encryptor

variable {e : Encryptor} {ciphertext nonce : Bytes}

/-! ## Bytes -/

/-- Opening bytes fails for the length of the nonce or for want of authenticity. -/
theorem decrypt_eq_error_iff {f : Failure} :
    e.decrypt ciphertext nonce = .error f ↔
      nonce.length ≠ nonceSize ∧ f = .nonce nonce.length ∨
        nonce.length = nonceSize ∧ (∀ payload, e.decrypt ciphertext nonce ≠ .ok payload) ∧
          f = .authentication := by
  by_cases length : nonce.length = nonceSize
  · obtain ⟨draw, rfl⟩ := exists_nonce length
    simp only [length, ne_eq, not_true_eq_false, false_and, true_and, false_or, decrypt_toList]
    cases Gcm.open? (Aes.encrypt e.key) draw ciphertext with
    | none => simp [eq_comm]
    | some payload => simp
  · rw [decrypt_of_length_ne e ciphertext length]
    simp [length, eq_comm]

/-- A nonce is refused just for its length. -/
theorem decrypt_eq_nonce_iff {length : Nat} :
    e.decrypt ciphertext nonce = .error (.nonce length) ↔
      nonce.length ≠ nonceSize ∧ length = nonce.length := by
  rw [decrypt_eq_error_iff]
  simp

/-- Opening bytes never fails for ill-formed text. -/
theorem decrypt_ne_text (fault : Utf8.Fault) :
    e.decrypt ciphertext nonce ≠ .error (.text fault) := by
  rw [ne_eq, decrypt_eq_error_iff]
  simp

/-! ## Texts -/

/-- A payload is read as a text just if it is the text's bytes. -/
theorem mapError_decode_eq_ok_iff {payload : Bytes} {cs : List Char} :
    (Utf8.decode payload).mapError Failure.text = .ok cs ↔ payload = Utf8.encode cs := by
  rw [← Utf8.decode_eq_ok_iff]
  cases Utf8.decode payload <;> simp [Except.mapError]

/-- A payload is no text just for a fault that says where. -/
theorem mapError_decode_eq_error_iff {payload : Bytes} {f : Failure} :
    (Utf8.decode payload).mapError Failure.text = .error f ↔
      ∃ fault : Utf8.Fault, fault.Locates payload ∧ f = .text fault := by
  simp only [← Utf8.decode_eq_error_iff]
  cases Utf8.decode payload <;> simp [Except.mapError, eq_comm]

/-- A text opens if the bytes that open are its encoded form. -/
theorem decryptText_eq_ok_iff {s : String} :
    e.decryptText ciphertext nonce = .ok s ↔
      e.decrypt ciphertext nonce = .ok (Utf8.ofString s) := by
  constructor
  · intro h
    simp only [decryptText, bind_eq_ok_iff, mapError_decode_eq_ok_iff] at h
    obtain ⟨payload, opened, cs, rfl, ⟨⟩⟩ := h
    rwa [Utf8.ofString, String.toList_ofList]
  · exact decryptText_of_decrypt

/-- A text does not open if the bytes do not, or where they are ill-formed. -/
theorem decryptText_eq_error_iff {f : Failure} :
    e.decryptText ciphertext nonce = .error f ↔
      e.decrypt ciphertext nonce = .error f ∨
        ∃ payload, e.decrypt ciphertext nonce = .ok payload ∧
          ∃ fault : Utf8.Fault, fault.Locates payload ∧ f = .text fault := by
  have total (cs : List Char) : (pure (String.ofList cs) : Except Failure String) ≠ .error f :=
    nofun
  simp only [decryptText, bind_eq_error_iff, mapError_decode_eq_error_iff, total, and_false,
    exists_false, or_false]

/-- A text fails just if its payload is opened and is ill formed. -/
theorem decryptText_eq_text_iff {fault : Utf8.Fault} :
    e.decryptText ciphertext nonce = .error (.text fault) ↔
      ∃ payload, e.decrypt ciphertext nonce = .ok payload ∧ fault.Locates payload := by
  simp only [decryptText_eq_error_iff, decrypt_ne_text, Failure.text.injEq, exists_eq_right',
    false_or]

end Encryptor

/-! ## The three ways of opening -/

namespace Run

/-- The steps that open a payload: as bytes, as an envelope, and as a text. -/
def openings (e : Encryptor) (ciphertext nonce : Bytes) : List Step :=
  [.decrypt e ciphertext nonce, .decryptEnvelope e ⟨ciphertext, nonce⟩,
    .decryptText e ciphertext nonce]

/-- A step fails just as its result does. -/
theorem answer_ofResult_eq_failed_iff {α : Type} {say : α → Answer} {x : Except Failure α}
    {f : Failure} (notFailed : ∀ a, say a ≠ .failed f) :
    (Outcome.ofResult say x).answer = .failed f ↔ x = .error f := by
  cases x with
  | ok a => simp [Outcome.ofResult, notFailed a]
  | error f' => simp [Outcome.ofResult]

section openings

variable {source : RandomSource} {asked : List Nat} {e : Encryptor} {ciphertext nonce : Bytes}
  {step : Step}

/-- All three fail if the bytes do not open, and log what belongs to that. -/
theorem outcome_opening (h : step ∈ openings e ciphertext nonce) {f : Failure}
    (refused : e.decrypt ciphertext nonce = .error f) :
    outcome source asked step = ⟨.failed f, f.log⟩ := by
  simp only [openings, List.mem_cons, List.not_mem_nil, or_false] at h
  obtain rfl | rfl | rfl := h
  · simp only [outcome, attempt, Drawing.given, refused, Outcome.ofResult]
  · simp only [outcome, attempt, Drawing.given, Encryptor.decryptEnvelope, refused,
      Outcome.ofResult]
  · simp only [outcome, attempt, Drawing.given, Encryptor.decryptText_eq_error_iff.2 (.inl refused),
      Outcome.ofResult]

/-- All three look at the length of the nonce first. -/
theorem answer_opening_eq_nonce_iff (h : step ∈ openings e ciphertext nonce) {length : Nat} :
    (outcome source asked step).answer = .failed (.nonce length) ↔
      nonce.length ≠ nonceSize ∧ length = nonce.length := by
  rw [← @Encryptor.decrypt_eq_nonce_iff e ciphertext]
  simp only [openings, List.mem_cons, List.not_mem_nil, or_false] at h
  obtain rfl | rfl | rfl := h
  · exact answer_ofResult_eq_failed_iff (by simp)
  · exact answer_ofResult_eq_failed_iff (by simp)
  · rw [outcome, attempt, Drawing.given, answer_ofResult_eq_failed_iff (by simp),
      Encryptor.decryptText_eq_error_iff]
    simp

end openings

end Run

/-- The words for a nonce of the wrong length say both lengths. -/
theorem Failure.message_nonce (length : Nat) :
    (Failure.nonce length).message =
      "nonce must be 12 bytes, got " ++ String.ofList (Decimal.ofNat length) := by
  have size : Decimal.ofNat nonceSize = ['1', '2'] := by
    simp [nonceSize, Decimal.ofNat, Decimal.digitChar]
  have words : "nonce must be " ++ String.ofList ['1', '2'] ++ " bytes, got " =
    "nonce must be 12 bytes, got " := by decide
  calc
    "nonce must be " ++ String.ofList (Decimal.ofNat nonceSize) ++ " bytes, got " ++
        String.ofList (Decimal.ofNat length) =
      "nonce must be " ++ String.ofList ['1', '2'] ++ " bytes, got " ++
        String.ofList (Decimal.ofNat length) := by rw [size]
    _ = _ := congrArg (· ++ String.ofList (Decimal.ofNat length)) words

/-- **What opening can fail with**, in all three ways and for all payloads. A nonce that is not twelve
bytes long is refused for its length, whatever the key and the payload. Under any other nonce, all
that is not authentic is refused in the same way and with the same event. A text opens if its encoded
form does; the bytes that open are refused as a text if they are no such form, with the fault that says
where they stop being one. -/
theorem opening_failures (source : RandomSource) (asked : List Nat) (e : Encryptor)
    (ciphertext nonce : Bytes) :
    (∀ step ∈ Run.openings e ciphertext nonce,
      (∀ length, (Run.outcome source asked step).answer = .failed (.nonce length) ↔
        nonce.length ≠ 12 ∧ length = nonce.length) ∧
      (nonce.length = 12 → (∀ payload, e.decrypt ciphertext nonce ≠ .ok payload) →
        Run.outcome source asked step =
          ⟨.failed .authentication, [⟨"authenticated decryption failed", []⟩]⟩)) ∧
    (Failure.nonce nonce.length).message =
      "nonce must be 12 bytes, got " ++ String.ofList (Decimal.ofNat nonce.length) ∧
    (∀ s, e.decryptText ciphertext nonce = .ok s ↔
      e.decrypt ciphertext nonce = .ok (Utf8.ofString s)) ∧
    ((∃ fault, e.decryptText ciphertext nonce = .error (.text fault)) ↔
      ∃ payload, e.decrypt ciphertext nonce = .ok payload ∧ ¬ Utf8.WellFormed payload) ∧
    ∀ fault, e.decryptText ciphertext nonce = .error (.text fault) ↔
      ∃ payload, e.decrypt ciphertext nonce = .ok payload ∧ fault.Locates payload := by
  refine ⟨?refused, Failure.message_nonce _, ?text, ?illFormed, ?fault⟩
  case refused =>
    intro step opening
    refine ⟨fun length => Run.answer_opening_eq_nonce_iff opening, ?_⟩
    intro length unauthentic
    exact Run.outcome_opening opening
      (Encryptor.decrypt_eq_authentication_iff.2 ⟨length, unauthentic⟩)
  case text => exact fun s => Encryptor.decryptText_eq_ok_iff
  case illFormed =>
    simp only [Encryptor.decryptText_eq_text_iff, ← Utf8.exists_decode_eq_error_iff,
      Utf8.decode_eq_error_iff]
    constructor
    · rintro ⟨fault, payload, opened, located⟩
      exact ⟨payload, opened, fault, located⟩
    · rintro ⟨payload, opened, fault, located⟩
      exact ⟨fault, payload, opened, located⟩
  case fault => exact fun fault => Encryptor.decryptText_eq_text_iff

/-- Fifteen bytes, too short for a tag, as an envelope; and a payload that ends inside the character
behind its first letter. -/
theorem opening_failures_cut_short :
    let e : Encryptor := ⟨Vector.replicate 32 0xAB⟩
    let draw := Run.draw (.constant 7) []
    Run.outcome (.constant 7) [] (.decryptEnvelope e ⟨List.replicate 15 0, draw.toList⟩) =
        ⟨.failed .authentication, [⟨"authenticated decryption failed", []⟩]⟩ ∧
      ∃ envelope, e.encrypt draw [0x61, 0xE2, 0x82] = .ok envelope ∧
        e.decryptText envelope.ciphertext envelope.nonce = .error (.text ⟨1, none⟩) := by
  intro e draw
  have length : draw.toList.length = 12 := Vector.length_toList
  have short (payload : Bytes) : e.decrypt (List.replicate 15 0) draw.toList ≠ .ok payload := by
    intro opened
    have enough := (Encryptor.length_of_decrypt opened).1
    unfold Gcm.tagLength at enough
    simp only [List.length_replicate] at enough
    omega
  have within : List.length ([0x61, 0xE2, 0x82] : Bytes) ≤ Gcm.maxText := by decide
  have made := e.encrypt_of_le draw within
  have opened := Encryptor.decrypt_of_encrypt made
  obtain ⟨refused, -⟩ := opening_failures (.constant 7) [] e (List.replicate 15 0) draw.toList
  obtain ⟨-, -, -, -, fault⟩ := opening_failures (.constant 7) [] e
    (e.sealed draw [0x61, 0xE2, 0x82]).ciphertext (e.sealed draw [0x61, 0xE2, 0x82]).nonce
  refine ⟨(refused _ ?_).2 length short, _, made, (fault ⟨1, none⟩).2 ⟨_, opened, ?_⟩⟩
  · exact List.mem_cons_of_mem _ List.mem_cons_self
  · exact Utf8.decode_eq_error_iff.1 rfl

end Credentials.Vault
