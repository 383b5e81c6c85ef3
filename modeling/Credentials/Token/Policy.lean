import Credentials.Token.Claims

/-!
# Token policies

A `Policy` holds what is needed to issue and to validate the two kinds of tokens: a secret and a
lifetime for each. A lifetime may be negative; its tokens have expired when they are issued.

`TokenError` says why a token was not issued or not accepted.
-/

namespace Credentials.Token

/-- The secrets and lifetimes of the two kinds of tokens. -/
structure Policy where
  /-- The secret of access tokens. -/
  accessSecret : String
  /-- The secret of refresh tokens. -/
  refreshSecret : String
  /-- How long an access token may be used. -/
  accessLifetime : Span
  /-- How long a refresh token may be used. -/
  refreshLifetime : Span
  deriving DecidableEq

/-- The policy in words, without its secrets. -/
def Policy.describe (p : Policy) : String :=
  "TokenConfig \x7b access_secret: \"<redacted>\", refresh_secret: \"<redacted>\", access_ttl: " ++
    p.accessLifetime.describe ++ ", refresh_ttl: " ++ p.refreshLifetime.describe ++ " \x7d"

/-- Why a token was not issued or not accepted. -/
inductive TokenError where
  /-- The token is malformed, wrongly signed, of the wrong kind, or not valid yet. -/
  | invalid
  /-- The token is good, but its last second of use is over. -/
  | expired
  /-- A token was to be issued for the nil identifier. -/
  | nilIdentity
  /-- The lifetime leads out of the range of instants. -/
  | overflow (lifetime : Span)
  deriving DecidableEq

/-- What an error says. -/
def TokenError.message : TokenError → String
  | .invalid => "invalid token"
  | .expired => "token has expired"
  | .nilIdentity => "cannot issue a token for the nil user id"
  | .overflow lifetime =>
    "token lifetime " ++ String.ofList lifetime.text ++ " overflows the expiry timestamp"

end Credentials.Token
