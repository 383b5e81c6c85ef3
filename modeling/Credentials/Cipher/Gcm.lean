import Credentials.Bytes
import Credentials.Cipher.Gf128

/-!
# Galois/counter mode

A block cipher is made into authenticated encryption. The text is masked with a keystream of encrypted
counters, and a tag of sixteen bytes is put behind it: the masked text, as the coefficients of a
polynomial over the field of 2^128 elements, is evaluated at the hash key, and the value is masked
with one more encrypted counter.

The mode is defined for every block cipher `E`, with nonces of twelve bytes and no associated data.

* `Gcm.keystream`, `Gcm.mask` — the keystream and the masking, which undoes itself.
* `Gcm.tag` — the tag of a masked text.
* `Gcm.sealText`, `Gcm.openText` — the two operations on texts of any length.
* `Gcm.seal?`, `Gcm.open?` — the two operations as they are offered: there is a longest text.
-/

namespace Credentials.Gcm

/-- A block of the cipher. -/
abbrev Block := Vector UInt8 16

/-- A nonce. -/
abbrev Nonce := Vector UInt8 12

/-- The length of a tag in bytes. -/
def tagLength : Nat := 16

/-! ## The keystream -/

/-- The counter block of a nonce: the nonce and a counter of 32 bits. -/
def counterBlock (nonce : Nonce) (n : Nat) : Block := nonce ++ Bytes.blockOfNat 4 n

/-- Encrypted counters from 2 on, at least `len` bytes. -/
def keystream (E : Block → Block) (nonce : Nonce) (len : Nat) : Bytes :=
  (List.range ((len + 15) / 16)).flatMap fun i => (E (counterBlock nonce (i + 2))).toList

/-- The text masked with the keystream. -/
def mask (E : Block → Block) (nonce : Nonce) (text : Bytes) : Bytes :=
  text.xor (keystream E nonce text.length)

/-- Blocks in a row are sixteen bytes each. -/
theorem length_flatMap_blocks (f : Nat → Block) (n : Nat) :
    ((List.range n).flatMap fun i => (f i).toList).length = n * 16 := by
  simp only [List.length_flatMap, Vector.length_toList, List.map_const', List.sum_replicate_nat,
    List.length_range]

/-- The key stream is long enough for its text. -/
theorem length_le_keystream (E : Block → Block) (nonce : Nonce) (len : Nat) :
    len ≤ (keystream E nonce len).length := by
  rw [keystream, length_flatMap_blocks fun i => E (counterBlock nonce (i + 2))]
  omega

/-- Masking keeps the length. -/
@[simp] theorem length_mask (E : Block → Block) (nonce : Nonce) (text : Bytes) :
    (mask E nonce text).length = text.length := by
  have := length_le_keystream E nonce text.length
  simp only [mask, Bytes.length_xor]
  omega

/-- Masking twice gives the text back. -/
@[simp] theorem mask_mask (E : Block → Block) (nonce : Nonce) (text : Bytes) :
    mask E nonce (mask E nonce text) = text := by
  have h := length_le_keystream E nonce text.length
  conv => lhs; rw [mask, length_mask]
  exact Bytes.xor_xor_cancel h

/-! ## The tag -/

/-- Up to sixteen bytes as a field element, filled up with zeros. -/
def element (bs : Bytes) : Gf128.Element :=
  BitVec.ofNat 128 (Bytes.toNat (bs ++ List.replicate (16 - bs.length) 0))

/-- The bytes of a field element. -/
def bytesOf (a : Gf128.Element) : Bytes := Bytes.ofNat 16 a.toNat

/-- The value at `key` of the polynomial with these coefficients, the one of the highest power
first and none of the power zero. -/
def evaluate (key : Gf128.Element) (coefficients : List Gf128.Element) : Gf128.Element :=
  coefficients.foldl (fun y x => Gf128.mul (y ^^^ x) key) 0

/-- The coefficients of a masked text: its blocks, and its length in bits. -/
def coefficients (masked : Bytes) : List Gf128.Element :=
  (masked.chunks 16).map element ++ [BitVec.ofNat 128 (masked.length * 8)]

/-- The hash key of a block cipher: the encrypted block of zeros. -/
def hashKey (E : Block → Block) : Gf128.Element := element (E (Vector.replicate 16 0)).toList

/-- The tag of a masked text. -/
def tag (E : Block → Block) (nonce : Nonce) (masked : Bytes) : Bytes :=
  bytesOf (evaluate (hashKey E) (coefficients masked) ^^^
    element (E (counterBlock nonce 1)).toList)

/-- A tag has the fixed length, whatever it is of. -/
@[simp] theorem length_tag (E : Block → Block) (nonce : Nonce) (masked : Bytes) :
    (tag E nonce masked).length = tagLength := by
  simp [tag, bytesOf, tagLength]

/-! ## Sealing and opening -/

/-- The masked text and its tag. -/
def sealText (E : Block → Block) (nonce : Nonce) (text : Bytes) : Bytes :=
  mask E nonce text ++ tag E nonce (mask E nonce text)

/-- The text of a masked text with its tag, if the tag is the right one. -/
def openText (E : Block → Block) (nonce : Nonce) (sealed : Bytes) : Option Bytes :=
  let length := sealed.length - tagLength
  if tagLength ≤ sealed.length ∧ sealed.drop length = tag E nonce (sealed.take length) then
    some (mask E nonce (sealed.take length))
  else none

/-! ## Limits -/

/-- The length in bytes of the longest text that is sealed, 2^36. -/
def maxText : Nat := 68719476736

/-- The length in bytes of the longest masked text that is opened. It is the length of a tag more
than is ever sealed. -/
def maxMasked : Nat := maxText + tagLength

/-- Seals a text that is not too long. -/
def seal? (E : Block → Block) (nonce : Nonce) (text : Bytes) : Option Bytes :=
  if text.length ≤ maxText then some (sealText E nonce text) else none

/-- Opens a masked text with its tag, if it is not too long. -/
def open? (E : Block → Block) (nonce : Nonce) (sealed : Bytes) : Option Bytes :=
  if sealed.length - tagLength ≤ maxMasked then openText E nonce sealed else none

end Credentials.Gcm
