import Credentials.Text.Base64
import Credentials.Text.Utf8
import Credentials.Token.Header

/-!
# The compact form of a signed text

A token is three texts with full stops between: header, payload and signature, all in base 64. The
signature is the authentication code of the first two with the full stop between them, under a shared
secret.

* `Compact.join` and `Compact.split?` — putting the three together, and taking them apart at the last
  two full stops.
* `Compact.signature` — the signature that belongs to a header and a payload.
* `Compact.sign` — the token for a header and a payload.
-/

namespace Credentials.Token.Compact

/-- The full stop. -/
def dot : UInt8 := 0x2E

/-- The three parts with full stops between. -/
def join (header payload signature : Bytes) : Bytes :=
  header ++ dot :: payload ++ dot :: signature

/-- What comes before the last full stop of a text, and what comes after it. -/
def splitLast? (text : Bytes) : Option (Bytes × Bytes) :=
  match text.reverse.dropWhile (· != dot) with
  | [] => none
  | _ :: before => some (before.reverse, (text.reverse.takeWhile (· != dot)).reverse)

/-- The three parts of a text: the signature after the last full stop, the payload after the one
before, and all the rest as the header. -/
def split? (text : Bytes) : Option (Bytes × Bytes × Bytes) := do
  let (message, signature) ← splitLast? text
  let (header, payload) ← splitLast? message
  return (header, payload, signature)

/-- The text in base 64. -/
def encoded (bs : Bytes) : Bytes := Base64.encode .url bs

/-- The encoded text of a JSON value. -/
def encodedJson (j : Json) : Bytes := encoded (Utf8.encode j.render)

/-- The signature that belongs to a header and a payload. -/
def signature (hash : HashFunction) (secret : String) (header payload : Bytes) : Bytes :=
  encoded (Hmac.code hash (Utf8.ofString secret) (header ++ dot :: payload))

/-- The token for a payload, with the header and the hash function of an algorithm. -/
def sign (hash : HashFunction) (secret : String) (header payload : Json) : String :=
  let h := encodedJson header
  let p := encodedJson payload
  String.ofList (join h p (signature hash secret h p)).chars

end Credentials.Token.Compact
