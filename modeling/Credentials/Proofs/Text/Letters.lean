import Mathlib.Data.Fintype.BigOperators
import Mathlib.Data.Fintype.Pigeonhole
import Credentials.Proofs.Text.Utf8

/-!
# More texts than codes

A function that gives every text a code of a fixed length below 56 bytes gives two texts the same
code: there are more texts of sixty-four ASCII bytes (`letters`) than such codes.

* `exists_texts_alike` — two different texts of sixty-four bytes with the same code.
-/

namespace Credentials.Text

/-- A text of sixty-four ASCII bytes. -/
def letters (f : Fin 64 → Fin 128) : Bytes := List.ofFn fun i => UInt8.ofNat (f i)

/-- The text has sixty-four bytes. -/
theorem length_letters (f : Fin 64 → Fin 128) : (letters f).length = 64 := List.length_ofFn

/-- The characters of the text have its bytes. -/
theorem ofString_letters (f : Fin 64 → Fin 128) :
    Utf8.ofString (String.ofList (letters f).chars) = letters f := by
  apply Utf8.ofString_chars
  intro b hb
  obtain ⟨i, rfl⟩ := List.mem_ofFn.1 hb
  rw [Bytes.toNat_byte (by omega)]
  exact (f i).isLt

/-- The text tells its bytes. -/
theorem letters_injective {f g : Fin 64 → Fin 128} (h : letters f = letters g) : f = g := by
  funext i
  have same : UInt8.ofNat (f i) = UInt8.ofNat (g i) := congrFun (List.ofFn_injective h) i
  have same := congrArg UInt8.toNat same
  rw [Bytes.toNat_byte (by omega), Bytes.toNat_byte (by omega)] at same
  exact Fin.ext same

/-! ## Codes -/

variable {n : Nat}

/-- The bytes of a code, as a function of the place. -/
def codeAt (n : Nat) (code : Bytes) : Fin n → Fin UInt8.size := fun i => (code.getD i 0).toFin

/-- Two codes of one length are the same if they have the same bytes at all places. -/
theorem codeAt_injective {a b : Bytes} (ha : a.length = n) (hb : b.length = n)
    (h : codeAt n a = codeAt n b) : a = b := by
  apply List.ext_getElem (ha.trans hb.symm)
  intro i hi hi'
  have same := congrFun h ⟨i, ha ▸ hi⟩
  simp only [codeAt, List.getD_eq_getElem?_getD, List.getElem?_eq_getElem hi,
    List.getElem?_eq_getElem hi', Option.getD_some] at same
  exact UInt8.toFin_inj.1 same

/-- There are fewer codes than texts. -/
theorem card_codes_lt (few : n < 56) :
    Fintype.card (Fin n → Fin UInt8.size) < Fintype.card (Fin 64 → Fin 128) := by
  simp only [Fintype.card_pi_const, Fintype.card_fin]
  calc UInt8.size ^ n ≤ UInt8.size ^ 55 := Nat.pow_le_pow_right (by decide) (by omega)
    _ < 128 ^ 64 := by decide

/-- Two texts of sixty-four bytes have the same code, whatever the codes are. -/
theorem exists_texts_alike (few : n < 56) {code : Bytes → Bytes}
    (length : ∀ bs, (code bs).length = n) :
    ∃ s t : String, s ≠ t ∧ (Utf8.ofString s).length = 64 ∧ (Utf8.ofString t).length = 64 ∧
      code (Utf8.ofString s) = code (Utf8.ofString t) := by
  obtain ⟨f, g, different, same⟩ := Fintype.exists_ne_map_eq_of_card_lt
    (fun f => codeAt n (code (letters f))) (card_codes_lt few)
  refine ⟨String.ofList (letters f).chars, String.ofList (letters g).chars, ?_, ?_, ?_, ?_⟩
  · intro h
    have texts := congrArg Utf8.ofString h
    rw [ofString_letters, ofString_letters] at texts
    exact different (letters_injective texts)
  · rw [ofString_letters, length_letters]
  · rw [ofString_letters, length_letters]
  · rw [ofString_letters, ofString_letters]
    exact codeAt_injective (length _) (length _) same

end Credentials.Text
