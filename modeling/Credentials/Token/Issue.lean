import Credentials.Random
import Credentials.Token.Compact
import Credentials.Token.Policy

/-!
# Issuing tokens

Tokens are issued for every user but the nil one, and expire a lifetime after the present instant.

* `Policy.issueAccess` — an access token.
* `Policy.refreshing` — a refresh token, with an identifier made of sixteen bytes that are drawn for
  it. `Policy.issueRefresh` is what comes of it with given bytes.
* `Policy.pairing` — one of each, as the answer to a login, and `Policy.issuePair` with given bytes.

An error is found in a fixed order: the user, then the lifetime; for a pair, first all of the access
token and then all of the refresh token. The bytes are drawn between the two: not for a user that is
refused, but for a lifetime that overflows.
-/

namespace Credentials.Token

/-- The algorithm of the tokens that are issued here. -/
def signingAlgorithm : Algorithm := .hs256

/-- The token for claims. -/
def mint (secret : String) (claims : Json) : String :=
  Compact.sign .sha256 secret (Header.toJson ⟨signingAlgorithm⟩) claims

/-- A refresh token, with what its issuer has to remember about it. -/
structure RefreshToken where
  /-- The token. -/
  token : String
  /-- Its identifier. -/
  tokenId : Uuid
  /-- The beginning of its last second of use. -/
  expiresAt : Instant
  deriving DecidableEq

/-- The two tokens of a login. -/
structure TokenPair where
  /-- The access token. -/
  access : String
  /-- The refresh token. -/
  refresh : RefreshToken
  deriving DecidableEq

/-- The pair as JSON. -/
def TokenPair.toJson (p : TokenPair) : Json :=
  .obj [("access_token", .str p.access), ("refresh_token", .str p.refresh.token),
    ("refresh_token_id", .str (String.ofList p.refresh.tokenId.text)),
    ("refresh_expires_at", .str (String.ofList p.refresh.expiresAt.text))]

namespace Policy

/-- The instant a lifetime from now. -/
def expiry (now : Instant) (lifetime : Span) : Except TokenError Instant :=
  match now.shift? lifetime with
  | some t => .ok t
  | none => .error (.overflow lifetime)

/-- An access token. -/
def issueAccess (p : Policy) (now : Instant) (user : Uuid) (role : String) :
    Except TokenError String :=
  if user.isNil then .error .nilIdentity
  else (expiry now p.accessLifetime).map fun t =>
    mint p.accessSecret (AccessClaims.issue user role now t).toJson

/-- The refresh token that expires at an instant, with an identifier made of these bytes. -/
def refreshToken (p : Policy) (now : Instant) (user : Uuid) (draw : Vector UInt8 16)
    (expiry : Instant) : RefreshToken :=
  let tokenId := Uuid.ofRandom draw
  let claims := RefreshClaims.issue user tokenId now expiry
  { token := mint p.refreshSecret claims.toJson
    tokenId := tokenId
    expiresAt := claims.expiresAt?.getD expiry }

/-- A refresh token. The bytes for its identifier are drawn before its lifetime is looked at. -/
def refreshing (p : Policy) (now : Instant) (user : Uuid) :
    Drawing 16 (Except TokenError RefreshToken) :=
  if user.isNil then .done (.error .nilIdentity)
  else .ask fun draw => (expiry now p.refreshLifetime).map (p.refreshToken now user draw)

/-- An access token and then a refresh token. -/
def pairing (p : Policy) (now : Instant) (user : Uuid) (role : String) :
    Drawing 16 (Except TokenError TokenPair) :=
  match p.issueAccess now user role with
  | .error e => .done (.error e)
  | .ok access => (p.refreshing now user).map fun refresh => refresh.map (TokenPair.mk access)

/-- A refresh token, if these are the bytes that are drawn for its identifier. -/
def issueRefresh (p : Policy) (now : Instant) (user : Uuid) (draw : Vector UInt8 16) :
    Except TokenError RefreshToken :=
  (p.refreshing now user).given draw

/-- An access token and a refresh token, if these are the bytes that are drawn. -/
def issuePair (p : Policy) (now : Instant) (user : Uuid) (role : String)
    (draw : Vector UInt8 16) : Except TokenError TokenPair :=
  (p.pairing now user role).given draw

end Policy

end Credentials.Token
