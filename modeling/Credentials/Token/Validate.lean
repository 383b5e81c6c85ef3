import Credentials.Json.Reader
import Credentials.Token.Compact
import Credentials.Token.Registered
import Credentials.Token.Rejection

/-!
# Validating tokens

A token is looked at in stages, and the first fault decides.

1. `declared` — the three parts, and the algorithm that the header declares, which must sign with a
   shared secret.
2. `verified` — the signature, then the payload: its encoding, its claims, and its registered claims.
   Nothing of the payload is looked at before the signature has been found right.
3. The identifiers in the claims.
4. The time: `checkTime` compares whole seconds, first with the first second of use and then with the
   last.

`Policy.validateAccess`, `Policy.validateRefresh` and `Policy.validateUser` run all stages for the two
kinds of tokens.
-/

namespace Credentials.Token

/-! ## The signed form -/

/-- The value that a part must have, or else the rejection. -/
def require {α : Type} (value : Option α) (otherwise : Rejection) : Except Rejection α :=
  match value with
  | some a => .ok a
  | none => .error otherwise

/-- The JSON tree of an encoded part. -/
def treeOf (part : Bytes) : Except Rejection Json.Tree := do
  let bs ← require (Base64.decode .url part).toOption .encoding
  require (Json.Tree.read? bs) .json

/-- The hash function of the algorithm that an encoded header declares. -/
def declared (header : Bytes) : Except Rejection HashFunction := do
  let tree ← treeOf header
  let h ← require (Header.ofTree? tree) .json
  require h.algorithm.hash? (.algorithm h.algorithm)

/-- The claims of an encoded payload, which must also make the registered claims. -/
def claimsOf {α : Type} (read : Json.Tree → Option α) (payload : Bytes) : Except Rejection α := do
  let tree ← treeOf payload
  let claims ← require (read tree) .json
  let expiry ← require (Registered.expiry? tree) .json
  let _ ← require expiry .noExpiry
  return claims

/-- The claims of a token that was signed with the secret. -/
def verified {α : Type} (secret : String) (read : Json.Tree → Option α) (token : String) :
    Except Rejection α := do
  let (header, payload, signature) ← require (Compact.split? (Utf8.ofString token)) .parts
  let hash ← declared header
  if signature = Compact.signature hash secret header payload then claimsOf read payload
  else .error .signature

/-! ## Time -/

/-- Compares the present second with the first second of use, if there is one, and the last. -/
def checkTime (now : Instant) (first : Option Timestamp) (last : Timestamp) :
    Except Rejection Unit :=
  if first.any fun t => now.second < t.toInt then .error .early
  else if last.toInt < now.second then .error (.expired last)
  else .ok ()

/-! ## The two kinds of tokens -/

namespace Policy

/-- The claims of an access token that may be used now. -/
def validateAccess (p : Policy) (now : Instant) (token : String) :
    Except Rejection AccessClaims := do
  let claims ← verified p.accessSecret AccessClaims.ofTree? token
  if claims.user.isNil then throw .nilUser
  checkTime now (some claims.notBefore) claims.expires
  return claims

/-- The claims of a refresh token that may be used now, and the user that they name. -/
def openRefresh (p : Policy) (now : Instant) (token : String) :
    Except Rejection (RefreshClaims × Uuid) := do
  let claims ← verified p.refreshSecret RefreshClaims.ofTree? token
  let user ← require ((Uuid.parse? claims.subject.toList).filter fun u => !u.isNil) .subject
  let _ ← require (Uuid.parse? claims.tokenId.toList) .tokenId
  checkTime now none claims.expires
  return (claims, user)

/-- The claims of a refresh token that may be used now. -/
def validateRefresh (p : Policy) (now : Instant) (token : String) :
    Except Rejection RefreshClaims := (p.openRefresh now token).map Prod.fst

/-- The user of a refresh token that may be used now. -/
def validateUser (p : Policy) (now : Instant) (token : String) : Except Rejection Uuid :=
  (p.openRefresh now token).map Prod.snd

end Policy

end Credentials.Token
