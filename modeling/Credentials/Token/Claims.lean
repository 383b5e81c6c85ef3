import Credentials.Json.Fields
import Credentials.Json.Value
import Credentials.Time.Instant
import Credentials.Uuid

/-!
# Claims

The claims are what a token says. An access token names a user and a role and may be used from
`notBefore` to `expires`; a refresh token names a user and itself and may be used until `expires`. All
times are Unix seconds of 64 bits.

For each kind there is the text that is signed (`toJson`) and the reading of it (`ofTree?`). A reader
takes the members in any order and passes over members that it does not know.
-/

namespace Credentials.Token

/-- A Unix second as it stands in claims. -/
abbrev Timestamp := Int64

/-- The whole second of an instant. -/
def timestamp (t : Instant) : Timestamp := Int64.ofInt t.second

/-- Reads a Unix second of 64 bits. -/
def timestamp? (t : Json.Tree) : Option Timestamp := t.int64?.map Int64.ofInt

/-- Reads an identifier. -/
def uuid? (t : Json.Tree) : Option Uuid := t.text?.bind fun s => Uuid.parse? s.toList

/-! ## Access claims -/

/-- What an access token says. -/
structure AccessClaims where
  /-- The user. -/
  user : Uuid
  /-- The role of the user. -/
  role : String
  /-- When the token was issued. -/
  issuedAt : Timestamp
  /-- The first second at which the token may be used. -/
  notBefore : Timestamp
  /-- The last second at which the token may be used. -/
  expires : Timestamp
  deriving DecidableEq

namespace AccessClaims

/-- The claims of a token that is issued at `now` and expires at `expiry`. -/
def issue (user : Uuid) (role : String) (now expiry : Instant) : AccessClaims :=
  ⟨user, role, timestamp now, timestamp now, timestamp expiry⟩

/-- The claims as JSON. -/
def toJson (c : AccessClaims) : Json :=
  .obj [("user_id", .str (String.ofList c.user.text)), ("role", .str c.role),
    ("iat", .int c.issuedAt.toInt), ("nbf", .int c.notBefore.toInt), ("exp", .int c.expires.toInt)]

/-- Reads claims. -/
def ofTree? (t : Json.Tree) : Option AccessClaims := do
  let fields ← t.fields? ["user_id", "role", "iat", "nbf", "exp"]
  let user ← fields.need "user_id" uuid?
  let role ← fields.need "role" Json.Tree.text?
  let issuedAt ← fields.need "iat" timestamp?
  let notBefore ← fields.need "nbf" timestamp?
  let expires ← fields.need "exp" timestamp?
  return ⟨user, role, issuedAt, notBefore, expires⟩

end AccessClaims

/-! ## Refresh claims -/

/-- What a refresh token says. -/
structure RefreshClaims where
  /-- The user, as text. -/
  subject : String
  /-- The identifier of the token itself, as text. -/
  tokenId : String
  /-- When the token was issued. -/
  issuedAt : Timestamp
  /-- The last second at which the token may be used. -/
  expires : Timestamp
  deriving DecidableEq

namespace RefreshClaims

/-- The claims of a token that is issued at `now` and expires at `expiry`. -/
def issue (user tokenId : Uuid) (now expiry : Instant) : RefreshClaims :=
  ⟨String.ofList user.text, String.ofList tokenId.text, timestamp now, timestamp expiry⟩

/-- The instant at which the last second of use begins, if it is in range. -/
def expiresAt? (c : RefreshClaims) : Option Instant := Instant.ofSecond? c.expires.toInt

/-- The claims as JSON. -/
def toJson (c : RefreshClaims) : Json :=
  .obj [("sub", .str c.subject), ("jti", .str c.tokenId), ("iat", .int c.issuedAt.toInt),
    ("exp", .int c.expires.toInt)]

/-- Reads claims. -/
def ofTree? (t : Json.Tree) : Option RefreshClaims := do
  let fields ← t.fields? ["sub", "jti", "iat", "exp"]
  let subject ← fields.need "sub" Json.Tree.text?
  let tokenId ← fields.need "jti" Json.Tree.text?
  let issuedAt ← fields.need "iat" timestamp?
  let expires ← fields.need "exp" timestamp?
  return ⟨subject, tokenId, issuedAt, expires⟩

end RefreshClaims

end Credentials.Token
