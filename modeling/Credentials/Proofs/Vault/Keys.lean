import Credentials.Proofs.Bytes
import Credentials.Proofs.Config.Variables
import Credentials.Proofs.Text.Hex

/-!
# Keys as text

A key is given as sixty-four hexadecimal digits with blanks around them.

* `ofHex?_eq_some_iff` — the text of an encryptor is, without blanks and in lower case, the encoded
  form of its key.
* `SpellsKey` — the texts that spell a key, and `exists_ofHex?_iff`: these and no others make an
  encryptor.
* `key_eq_iff_alike` — two of them make the same one if and only if they are alike but for blanks at
  their ends and the case of letters.
* `keys_spelled` — **all of this together**, and that the text that is written of a key is the text of
  an encryptor for this key, also as a setting.
-/

namespace Credentials.Vault

/-! ## Texts of keys -/

/-- Between blanks there are sixty-four hexadecimal digits. -/
def SpellsKey (text : String) : Prop :=
  ∃ front digits back, text.toList = front ++ digits ++ back ∧ Text.Blank front ∧
    Text.Blank back ∧ digits.length = 64 ∧ ∀ c ∈ digits, Hex.IsDigit c

/-- The texts are the same but for blanks at their ends and the case of letters. -/
def Alike (text text' : String) : Prop :=
  (Text.trim text.toList).map Char.toLower = (Text.trim text'.toList).map Char.toLower

/-- No digit is a blank. -/
theorem isBlank_of_isDigit {c : Char} (h : Hex.IsDigit c) : Text.isBlank c = false := by
  rw [Hex.isDigit_iff] at h
  exact Text.isBlank_of_printable (by omega)

/-- A text spells a key just if sixty-four digits are left when it is trimmed. -/
theorem spellsKey_iff {text : String} : SpellsKey text ↔
    (Text.trim text.toList).length = 64 ∧ ∀ c ∈ Text.trim text.toList, Hex.IsDigit c := by
  constructor
  · rintro ⟨front, digits, back, split, hfront, hback, length, isDigit⟩
    have trimmed : Text.trim text.toList = digits := by
      rw [split]
      exact Text.trim_between hfront hback fun c hc => isBlank_of_isDigit (isDigit c hc)
    rw [trimmed]
    exact ⟨length, isDigit⟩
  · rintro ⟨length, isDigit⟩
    obtain ⟨front, back, hfront, hback, split⟩ := Text.exists_trim text.toList
    exact ⟨front, _, back, split, hfront, hback, length, isDigit⟩

namespace Encryptor

variable {text text' : String} {e e' : Encryptor}

/-- The text of an encryptor, without blanks and in lower case, is the encoded form of its key. -/
theorem ofHex?_eq_some_iff : ofHex? text = some e ↔
    (Text.trim text.toList).map Char.toLower = Hex.encode e.key.toList := by
  simp only [ofHex?, key?, Option.map_eq_some_iff, Option.bind_eq_some_iff, Hex.decode_eq_some_iff,
    Bytes.block?_eq_some_iff]
  constructor
  · rintro ⟨key, ⟨_, spelled, rfl⟩, rfl⟩
    exact spelled
  · intro spelled
    exact ⟨e.key, ⟨_, spelled, rfl⟩, rfl⟩

/-- A text makes an encryptor just if it spells a key. -/
theorem exists_ofHex?_iff : (∃ e, ofHex? text = some e) ↔ SpellsKey text := by
  rw [spellsKey_iff]
  constructor
  · rintro ⟨e, h⟩
    have read := Hex.decode_eq_some_iff.2 (ofHex?_eq_some_iff.1 h)
    refine ⟨?_, (Hex.exists_decode_iff.1 ⟨_, read⟩).2⟩
    rw [Hex.length_of_decode read, Vector.length_toList]
  · rintro ⟨length, isDigit⟩
    obtain ⟨bs, read⟩ := Hex.exists_decode_iff.2 ⟨by omega, isDigit⟩
    have bytes : bs.length = 32 := by
      have := Hex.length_of_decode read
      omega
    obtain ⟨key, rfl⟩ := Bytes.exists_block bytes
    exact ⟨⟨key⟩, ofHex?_eq_some_iff.2 (Hex.decode_eq_some_iff.1 read)⟩

/-- Two texts are one key just if they are alike. -/
theorem key_eq_iff_alike (h : ofHex? text = some e) (h' : ofHex? text' = some e') :
    e.key = e'.key ↔ Alike text text' := by
  rw [Alike, ofHex?_eq_some_iff.1 h, ofHex?_eq_some_iff.1 h']
  constructor
  · intro same
    rw [same]
  · intro same
    exact Vector.toList_inj.1 (Hex.encode_injective same)

/-! ## Texts that are written -/

/-- The text of a key is its digits. -/
theorem toList_keyText (key : Aes.Key) : (keyText key).toList = Hex.encode key.toList :=
  String.toList_ofList

/-- There is nothing to trim from the text of a key. -/
theorem trim_keyText (key : Aes.Key) :
    Text.trim (keyText key).toList = Hex.encode key.toList := by
  rw [toList_keyText]
  exact Text.trim_eq_self fun c hc => isBlank_of_isDigit (Hex.isDigit_of_mem_encode hc)

/-- The text of a key is read as that key. -/
theorem ofHex?_keyText (key : Aes.Key) : ofHex? (keyText key) = some ⟨key⟩ := by
  rw [ofHex?_eq_some_iff, trim_keyText]
  exact Hex.map_toLower_encode _

/-- The text of a key is a setting, as it is no blank text. -/
theorem key_of_keyText {env : Config.Environment} {key : Aes.Key}
    (h : env.text? "ENCRYPTION_KEY" = some (keyText key)) :
    Config.Settings.key env = .ok ⟨keyText key⟩ := by
  refine Config.Settings.key_eq_ok_iff.2 ⟨h, ?_⟩
  rw [← Text.trim_eq_nil_iff, trim_keyText]
  apply List.ne_nil_of_length_pos
  rw [Hex.length_encode, Vector.length_toList]
  decide

end Encryptor

/-! ## All texts -/

/-- **Which texts are keys, and which key they are.** A text makes an encryptor if it spells a key,
and else none. Two such texts make encryptors for one key if and only if they are alike, and these
seal and open alike. The text that is written of a key is its sixty-four digits in lower case, and
makes the encryptor for this key, by itself, as a setting and from the environment. -/
theorem keys_spelled :
    (∀ text, SpellsKey text ∧ (∃ e, Encryptor.ofHex? text = some e) ∨
      ¬ SpellsKey text ∧ Encryptor.ofHex? text = none) ∧
    (∀ text text' e e', Encryptor.ofHex? text = some e → Encryptor.ofHex? text' = some e' →
      (e.key = e'.key ↔ Alike text text') ∧
      (Alike text text' → (∀ draw payload, e.encrypt draw payload = e'.encrypt draw payload) ∧
        ∀ ciphertext nonce, e.decrypt ciphertext nonce = e'.decrypt ciphertext nonce)) ∧
    ∀ key : Aes.Key,
      (Encryptor.keyText key).toList.length = 64 ∧
      (∀ c ∈ (Encryptor.keyText key).toList, Hex.IsDigit c) ∧
      (Encryptor.keyText key).toList.map Char.toLower = (Encryptor.keyText key).toList ∧
      Encryptor.ofHex? (Encryptor.keyText key) = some ⟨key⟩ ∧
      (Config.KeySetting.mk (Encryptor.keyText key)).encryptor? = some ⟨key⟩ ∧
      ∀ env : Config.Environment, env.text? "ENCRYPTION_KEY" = some (Encryptor.keyText key) →
        ∃ setting, Config.Settings.key env = .ok setting ∧ setting.encryptor? = some ⟨key⟩ := by
  refine ⟨?texts, ?alike, ?written⟩
  case texts =>
    intro text
    rw [← Encryptor.exists_ofHex?_iff]
    by_cases h : ∃ e, Encryptor.ofHex? text = some e
    · exact .inl ⟨h, h⟩
    · exact .inr ⟨h, Option.eq_none_iff_forall_ne_some.2 fun e he => h ⟨e, he⟩⟩
  case alike =>
    rintro text text' ⟨key⟩ ⟨key'⟩ h h'
    have same := Encryptor.key_eq_iff_alike h h'
    refine ⟨same, fun alike => ?_⟩
    obtain rfl : key = key' := same.2 alike
    exact ⟨fun _ _ => rfl, fun _ _ => rfl⟩
  case written =>
    intro key
    have read := Encryptor.ofHex?_keyText key
    rw [Encryptor.toList_keyText, Hex.length_encode, Vector.length_toList]
    refine ⟨rfl, fun _ => Hex.isDigit_of_mem_encode, Hex.map_toLower_encode _, read, read, ?_⟩
    intro env h
    exact ⟨_, Encryptor.key_of_keyText h, read⟩

/-- One key in two spellings, one behind an em space, and the same key in the environment. -/
theorem keys_spelled_em_space :
    let text := "\u2003aBaBaBaBaBaBaBaBaBaBaBaBaBaBaBaBaBaBaBaBaBaBaBaBaBaBaBaBaBaBaBaB"
    let text' := "ABABABABABABABABABABABABABABABABABABABABABABABABABABABABABABABAB\n"
    let e : Encryptor := ⟨Vector.replicate 32 0xAB⟩
    let env : Config.Environment := Config.Environment.set ⟨[]⟩ "ENCRYPTION_KEY"
      (Utf8.ofString (Encryptor.keyText e.key))
    Encryptor.ofHex? text = some e ∧ Encryptor.ofHex? text' = some e ∧ Alike text text' ∧
      ∃ setting, Config.Settings.key env = .ok setting ∧ setting.encryptor? = some e := by
  intro text text' e env
  obtain ⟨-, alike, written⟩ := keys_spelled
  have h : Encryptor.ofHex? text = some e := by decide +kernel
  have h' : Encryptor.ofHex? text' = some e := by decide +kernel
  have set : env.text? "ENCRYPTION_KEY" = some (Encryptor.keyText e.key) := by decide +kernel
  obtain ⟨-, -, -, -, -, setting⟩ := written e.key
  exact ⟨h, h', (alike text text' e e h h').1.1 rfl, setting env set⟩

end Credentials.Vault
