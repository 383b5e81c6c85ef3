import Credentials.Config.Settings
import Credentials.Password.Basic
import Credentials.Token.Run
import Credentials.Vault.Run
import Credentials.Proofs.Text.Utf8
import Credentials.Proofs.Text.Base64
import Credentials.Proofs.Text.Decimal
import Credentials.Proofs.Text.Hex
import Credentials.Proofs.Json.Grammar
import Credentials.Proofs.Json.Reading
import Credentials.Proofs.Json.Rendering
import Credentials.Proofs.Json.Records
import Credentials.Proofs.Uuid
import Credentials.Proofs.Time.Shift
import Credentials.Proofs.Hash.Hmac
import Credentials.Proofs.Token.Claims
import Credentials.Proofs.Token.Compact
import Credentials.Proofs.Token.Acceptance
import Credentials.Proofs.Token.Minting
import Credentials.Proofs.Token.Language
import Credentials.Proofs.Token.Runs
import Credentials.Proofs.Token.Lifetime
import Credentials.Proofs.Token.Overdue
import Credentials.Proofs.Token.Kinds
import Credentials.Proofs.Token.Secrets
import Credentials.Proofs.Cipher.Gcm
import Credentials.Proofs.Vault.RoundTrip
import Credentials.Proofs.Vault.Opening
import Credentials.Proofs.Token.Verdict
import Credentials.Proofs.Token.Unsigned
import Credentials.Proofs.Config.Environment
import Credentials.Proofs.Config.Loading
import Credentials.Proofs.Config.Readings
import Credentials.Proofs.Bytes
import Credentials.Proofs.Cipher.Gf128
import Credentials.Proofs.Cipher.Tag
import Credentials.Proofs.Token.Issuing
import Credentials.Proofs.Vault.Flips
import Credentials.Proofs.Vault.Nonces
import Credentials.Proofs.Token.Identifiers
import Credentials.Proofs.Text.Blank
import Credentials.Proofs.Text.Numeral
import Credentials.Proofs.Config.Variables
import Credentials.Proofs.Token.Expiry
import Credentials.Proofs.Cipher.Blowfish
import Credentials.Proofs.Text.Letters
import Credentials.Proofs.Password.Record
import Credentials.Proofs.Password.Verification
import Credentials.Proofs.Password.Keys
import Credentials.Proofs.Token.Naming
import Credentials.Proofs.Vault.Keys
import Credentials.Proofs.Password.Faults
import Credentials.Proofs.Token.Wire
import Credentials.Proofs.Json.Presentations
import Credentials.Proofs.Text.IllFormed
import Credentials.Proofs.Vault.Failures
import Credentials.Proofs.Time.Clock
import Credentials.Proofs.Time.Calendar
import Credentials.Proofs.Time.Text
import Credentials.Proofs.Token.Response
import Credentials.Proofs.Token.Logging
import Credentials.Proofs.Lookup
import Credentials.Proofs.Config.Quoting
