import Credentials.Json.Fields
import Credentials.Json.Value
import Credentials.Bytes

/-!
# Envelopes

An `Envelope` is a sealed payload, with its tag, and the nonce that it was sealed under. Both are needed
to open it. It is stored as JSON, with its byte strings as lists of numbers.
-/

namespace Credentials.Vault

/-- A sealed payload and its nonce. -/
structure Envelope where
  /-- The masked payload with its tag. -/
  ciphertext : Bytes
  /-- The nonce. -/
  nonce : Bytes
  deriving DecidableEq

namespace Envelope

/-- Bytes as a list of numbers. -/
def numbers (bs : Bytes) : Json := .arr (bs.map fun b => .int b.toNat)

/-- The envelope as JSON. -/
def toJson (e : Envelope) : Json :=
  .obj [("ciphertext", numbers e.ciphertext), ("nonce", numbers e.nonce)]

/-- Reads a list of bytes. -/
def bytes? (t : Json.Tree) : Option Bytes := t.elements?.bind fun es => es.mapM Json.Tree.byte?

/-- Reads an envelope. -/
def ofTree? (t : Json.Tree) : Option Envelope := do
  let fields ← t.fields? ["ciphertext", "nonce"]
  let ciphertext ← fields.need "ciphertext" bytes?
  let nonce ← fields.need "nonce" bytes?
  return ⟨ciphertext, nonce⟩

end Envelope

end Credentials.Vault
