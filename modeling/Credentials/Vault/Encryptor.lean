import Credentials.Cipher.Aes
import Credentials.Cipher.Gcm
import Credentials.Event
import Credentials.Random
import Credentials.Text.Blank
import Credentials.Text.Decimal
import Credentials.Text.Hex
import Credentials.Text.Utf8
import Credentials.Vault.Envelope

/-!
# Encryptors

An `Encryptor` seals payloads under one key of 256 bits and opens them again, with AES in Galois/counter
mode. Every payload is sealed under a nonce that was drawn for it.

* `Encryptor.ofHex?` — the encryptor of a key given as text.
* `Encryptor.sealing`, `Encryptor.sealingText` — sealing bytes and texts. The nonce is drawn first,
  also for a payload that is then too long to be sealed. `Encryptor.encrypt` and
  `Encryptor.encryptText` are what comes of them with a given nonce.
* `Encryptor.decrypt`, `Encryptor.decryptText`, `Encryptor.decryptEnvelope` — opening.

`Failure` says why sealing or opening failed. A wrong key, a changed payload, a changed tag, a wrong
nonce and a payload too short for a tag or too long all look the same.
-/

namespace Credentials.Vault

/-- The length of a key in bytes. -/
def keySize : Nat := 32

/-- The length of a nonce in bytes. -/
def nonceSize : Nat := 12

/-- Sealing and opening under one key. -/
structure Encryptor where
  /-- The key. -/
  key : Aes.Key
  deriving DecidableEq

/-- Why a payload was not sealed or not opened. -/
inductive Failure where
  /-- The payload is too long to be sealed. -/
  | encryption
  /-- The nonce has the wrong length. -/
  | nonce (length : Nat)
  /-- The payload is not authentic. -/
  | authentication
  /-- The payload is no UTF-8 text. -/
  | text (fault : Utf8.Fault)
  deriving DecidableEq

namespace Failure

/-- What a failure says. -/
def message : Failure → String
  | encryption => "encryption failed"
  | nonce length =>
    "nonce must be " ++ String.ofList (Decimal.ofNat nonceSize) ++ " bytes, got " ++
      String.ofList (Decimal.ofNat length)
  | authentication => "decryption failed"
  | text _ => "decrypted payload is not valid UTF-8"

/-- What the log gets. -/
def log : Failure → List Event
  | authentication => [⟨"authenticated decryption failed", []⟩]
  | _ => []

end Failure

namespace Encryptor

/-! ## Keys -/

/-- The key that a text spells: blanks at the ends do not count, and the rest must be sixty-four
hexadecimal digits. -/
def key? (text : String) : Option Aes.Key :=
  (Hex.decode (Text.trim text.toList)).bind (Bytes.block? 32)

/-- The encryptor of a key given as text. -/
def ofHex? (text : String) : Option Encryptor := (key? text).map Encryptor.mk

/-- The words for a text that spells no key. -/
def keyMessage : String := "encryption key must be 64 hex characters (32 bytes)"

/-- The text of a key that was drawn. -/
def keyText (draw : Aes.Key) : String := String.ofList (Hex.encode draw.toList)

/-- The encryptor in words, without its key. -/
def describe (_ : Encryptor) : String := "Encryptor \x7b .. \x7d"

/-! ## Sealing -/

/-- Seals bytes. The nonce is drawn before their length is looked at. -/
def sealing (e : Encryptor) (payload : Bytes) : Drawing 12 (Except Failure Envelope) :=
  .ask fun draw =>
    match Gcm.seal? (Aes.encrypt e.key) draw payload with
    | some ciphertext => .ok ⟨ciphertext, draw.toList⟩
    | none => .error .encryption

/-- Seals a text. -/
def sealingText (e : Encryptor) (payload : String) : Drawing 12 (Except Failure Envelope) :=
  e.sealing (Utf8.ofString payload)

/-- Seals bytes, if this is the nonce that is drawn for them. -/
def encrypt (e : Encryptor) (draw : Gcm.Nonce) (payload : Bytes) : Except Failure Envelope :=
  (e.sealing payload).given draw

/-- Seals a text, if this is the nonce that is drawn for it. -/
def encryptText (e : Encryptor) (draw : Gcm.Nonce) (payload : String) : Except Failure Envelope :=
  (e.sealingText payload).given draw

/-! ## Opening -/

/-- Opens a payload under a nonce. -/
def decrypt (e : Encryptor) (ciphertext nonce : Bytes) : Except Failure Bytes :=
  match nonce.block? 12 with
  | none => .error (.nonce nonce.length)
  | some n =>
    match Gcm.open? (Aes.encrypt e.key) n ciphertext with
    | none => .error .authentication
    | some payload => .ok payload

/-- Opens a text. -/
def decryptText (e : Encryptor) (ciphertext nonce : Bytes) : Except Failure String := do
  let payload ← e.decrypt ciphertext nonce
  let cs ← (Utf8.decode payload).mapError .text
  return String.ofList cs

/-- Opens an envelope. -/
def decryptEnvelope (e : Encryptor) (envelope : Envelope) : Except Failure Bytes :=
  e.decrypt envelope.ciphertext envelope.nonce

end Encryptor

end Credentials.Vault
