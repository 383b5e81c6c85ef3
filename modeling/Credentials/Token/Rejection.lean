import Credentials.Event
import Credentials.Token.Algorithm
import Credentials.Token.Policy

/-!
# Why a token is not accepted

A `Rejection` is the first thing that was found wrong with a token. The caller learns of it only whether
the token has expired or is invalid (`Rejection.error`); the log gets one event that says more
(`Rejection.event`).

Of a fault of the signed form the event names the kind alone. A full report would go on with a detail:
which byte is not in base 64, where the JSON goes wrong and what was expected there, or which claim is
missing. These details are left out here.
-/

namespace Credentials.Token

/-- The first thing that was found wrong with a token. -/
inductive Rejection where
  /-- The token has not three parts. -/
  | parts
  /-- The header or the payload is not in base 64. -/
  | encoding
  /-- The header or the payload is not the JSON that it should be. -/
  | json
  /-- The header declares an algorithm that does not sign with a shared secret. -/
  | algorithm (declared : Algorithm)
  /-- The signature is not that of the header and the payload. -/
  | signature
  /-- The payload claims no expiry that fits 64 bits without a sign. -/
  | noExpiry
  /-- The user is the nil identifier. -/
  | nilUser
  /-- The subject is no identifier, or the nil one. -/
  | subject
  /-- The identifier of the token is none. -/
  | tokenId
  /-- The token may not be used yet. -/
  | early
  /-- The last second of use is over. -/
  | expired (last : Timestamp)
  deriving DecidableEq

namespace Rejection

/-- What the caller learns. -/
def error : Rejection → TokenError
  | expired _ => .expired
  | _ => .invalid

/-- The last second of use as the log shows it. -/
def expiryText (last : Timestamp) : String :=
  match Instant.ofSecond? last.toInt with
  | some t => "Some(" ++ String.ofList t.text ++ ")"
  | none => "None"

/-- The event of a fault of the signed form. Of the fault it has the kind, and none of the detail that a
full report puts behind it. -/
def malformed (kind : String) : Event := ⟨"token rejected", [("error", kind)]⟩

/-- What the log gets. -/
def event : Rejection → Event
  | parts => malformed "InvalidToken"
  | encoding => malformed "Base64 error"
  | json => malformed "JSON error"
  | algorithm declared => ⟨"token declares a non-HMAC algorithm", [("alg", declared.name)]⟩
  | signature => malformed "InvalidSignature"
  | noExpiry => malformed "Missing required claim"
  | nilUser => ⟨"access token carries the nil user id", []⟩
  | subject => ⟨"refresh token subject is not a valid user id", []⟩
  | tokenId => ⟨"refresh token id is not a valid identifier", []⟩
  | early => ⟨"token is not valid yet", []⟩
  | expired last => ⟨"token has expired", [("expired_at", expiryText last)]⟩

end Rejection

end Credentials.Token
