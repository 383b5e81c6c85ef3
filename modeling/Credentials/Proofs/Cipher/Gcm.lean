import Credentials.Cipher.Gcm

/-!
# Opening what was sealed

In Galois/counter mode a sealed text is sixteen bytes longer than the text (`length_sealText`), and
opens to it under the same cipher and nonce (`openText_sealText`): the tag starts where the masked
text ends, it is computed again from the same masked text, and the mask undoes itself. No property
of the cipher or of the tag is used.

Nothing else opens. `openText_append` opens a masked text with any sixteen bytes behind it, and
`openText_eq_some_iff` says that whatever opens to a text is what the text is sealed to. As there is a
longest text, `open?_eq_some_iff` says so of texts that are not too long.
-/

namespace Credentials.Gcm

variable (E : Block → Block) (nonce : Nonce) (text : Bytes)

/-- A sealed text is longer by its tag. -/
@[simp] theorem length_sealText :
    (sealText E nonce text).length = text.length + tagLength := by
  rw [sealText, List.length_append, length_mask, length_tag]

/-- The front of a sealed text is the masked text. -/
theorem take_sealText : (sealText E nonce text).take text.length = mask E nonce text := by
  unfold sealText
  apply List.take_left'
  exact length_mask E nonce text

/-- Behind the masked text stands its tag. -/
theorem drop_sealText :
    (sealText E nonce text).drop text.length = tag E nonce (mask E nonce text) := by
  unfold sealText
  apply List.drop_left'
  exact length_mask E nonce text

/-- A sealed text opens to the text. -/
theorem openText_sealText : openText E nonce (sealText E nonce text) = some text := by
  have hlength : (sealText E nonce text).length - tagLength = text.length := by
    rw [length_sealText, Nat.add_sub_cancel]
  have enough : tagLength ≤ (sealText E nonce text).length := by
    rw [length_sealText]
    exact Nat.le_add_left _ _
  unfold openText
  simp only [hlength, take_sealText, drop_sealText, mask_mask]
  rw [if_pos ⟨enough, trivial⟩]

/-- Of all codes behind a masked text, only its tag opens it. -/
theorem openText_append {code : Bytes} (masked : Bytes) (h : code.length = tagLength) :
    openText E nonce (masked ++ code) =
      if code = tag E nonce masked then some (mask E nonce masked) else none := by
  have hlength : (masked ++ code).length - tagLength = masked.length := by
    rw [List.length_append, h, Nat.add_sub_cancel]
  have enough : tagLength ≤ (masked ++ code).length := by
    rw [List.length_append, h]
    exact Nat.le_add_left _ _
  unfold openText
  simp only [hlength, List.take_left, List.drop_left, enough, true_and]

variable {E nonce text}

/-- What opens to a text is what the text is sealed to. -/
theorem openText_eq_some_iff {sealed : Bytes} :
    openText E nonce sealed = some text ↔ sealed = sealText E nonce text := by
  constructor
  · intro h
    unfold openText at h
    simp only at h
    split at h
    case isTrue right =>
      -- what is masked again is the front of the sealed text, and what is behind it is its tag
      cases h
      rw [sealText, mask_mask, ← right.2, List.take_append_drop]
    case isFalse => cases h
  · rintro rfl
    exact openText_sealText E nonce text

/-- Sealing loses nothing of a text. -/
theorem sealText_injective {text' : Bytes} (h : sealText E nonce text = sealText E nonce text') :
    text = text' := by
  have opened := openText_sealText E nonce text
  rw [h, openText_sealText] at opened
  exact (Option.some.inj opened).symm

/-! ## Limits -/

/-- What does not open at any length does not open. -/
theorem open?_eq_none {sealed : Bytes} (h : openText E nonce sealed = none) :
    open? E nonce sealed = none := by
  rw [open?, h, ite_self]

/-- What opens to a text is what the text is sealed to, and the text is not too long. -/
theorem open?_eq_some_iff {sealed : Bytes} :
    open? E nonce sealed = some text ↔
      text.length ≤ maxMasked ∧ sealed = sealText E nonce text := by
  unfold open?
  constructor
  · intro h
    split at h
    case isTrue within =>
      obtain rfl := openText_eq_some_iff.1 h
      rw [length_sealText, Nat.add_sub_cancel] at within
      exact ⟨within, rfl⟩
    case isFalse => cases h
  · rintro ⟨within, rfl⟩
    rw [length_sealText, Nat.add_sub_cancel, if_pos within, openText_sealText]

end Credentials.Gcm
