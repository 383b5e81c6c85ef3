import Credentials.Config.SettingsFile
import Credentials.Text.Decimal
import Credentials.Token.Policy
import Credentials.Vault.Encryptor

/-!
# Settings

The secrets, the lifetimes and the key are read from the environment, after the nearest settings file
has been loaded into it.

* `Settings.policy` — the token policy. The secrets must be there and not blank; a lifetime that is not
  there has a default.
* `Settings.key` — the key of the encryptor, as text.
* `Settings.readPolicy`, `Settings.readKey` — the same with the settings file loaded first, and the
  environment that results.

An error names the first variable that is at fault. If the settings file cannot be carried out, there is
not even an error: the program breaks off (`Settings.Outcome.brokenOff`).
-/

namespace Credentials.Config

/-- Why settings could not be read. -/
inductive SettingError where
  /-- The variable is not there. -/
  | missing (name : String)
  /-- The variable is blank. -/
  | empty (name : String)
  /-- The variable is no number of units that makes a span of time. -/
  | invalidNumber (name value : String)
  deriving DecidableEq

/-- What an error says. -/
def SettingError.message : SettingError → String
  | .missing name => name ++ " must be set"
  | .empty name => name ++ " must not be empty"
  | .invalidNumber name value => name ++ " is not a valid number: " ++ value

/-- The key of an encryptor as it is set, which may be no key at all. -/
structure KeySetting where
  /-- The text of the key. -/
  text : String
  deriving DecidableEq

namespace KeySetting

/-- The setting in words, without the key. -/
def describe (_ : KeySetting) : String := "CipherConfig \x7b hex_key: \"<redacted>\" \x7d"

/-- The encryptor of the key, if it is one. -/
def encryptor? (k : KeySetting) : Option Vault.Encryptor := Vault.Encryptor.ofHex? k.text

end KeySetting

namespace Settings

/-! ## Variables -/

/-- The value of a variable that must be there and not blank. -/
def required (env : Environment) (name : String) : Except SettingError String :=
  match env.text? name with
  | none => .error (.missing name)
  | some value => if Text.trim value.toList = [] then .error (.empty name) else .ok value

/-- An integer of 64 bits with a sign, with blanks around it. -/
def integer? (value : String) : Option Int :=
  (Decimal.int? (Text.trim value.toList)).filter fun i =>
    -9223372036854775808 ≤ i && i ≤ 9223372036854775807

/-- A number of units of so many seconds that makes a span of time. -/
def lifetime (env : Environment) (name : String) (unit : Int) (default : Span) :
    Except SettingError Span :=
  match env.text? name with
  | none => .ok default
  | some value =>
    match (integer? value).bind (Span.ofUnits? unit) with
    | some d => .ok d
    | none => .error (.invalidNumber name value)

/-! ## Defaults -/

/-- The seconds of a minute. -/
def minute : Int := 60

/-- The seconds of a day. -/
def day : Int := 86400

/-- How long an access token may be used if nothing else is set: fifteen minutes. -/
def defaultAccessLifetime : Span := ⟨900, 0, by decide, by decide⟩

/-- How long a refresh token may be used if nothing else is set: seven days. -/
def defaultRefreshLifetime : Span := ⟨604800, 0, by decide, by decide⟩

/-! ## Reading -/

/-- The token policy of an environment. -/
def policy (env : Environment) : Except SettingError Token.Policy := do
  let accessSecret ← required env "ACCESS_TOKEN_SECRET"
  let refreshSecret ← required env "REFRESH_TOKEN_SECRET"
  let accessLifetime ← lifetime env "ACCESS_TOKEN_TTL_MINUTES" minute defaultAccessLifetime
  let refreshLifetime ← lifetime env "REFRESH_TOKEN_TTL_DAYS" day defaultRefreshLifetime
  return ⟨accessSecret, refreshSecret, accessLifetime, refreshLifetime⟩

/-- The key setting of an environment. -/
def key (env : Environment) : Except SettingError KeySetting :=
  (required env "ENCRYPTION_KEY").map KeySetting.mk

/-- What reading settings comes to. -/
inductive Outcome (α : Type) where
  /-- The settings, or what is wrong with them. -/
  | returned (result : Except SettingError α)
  /-- The settings file assigns a value that no variable can hold, and the program breaks off there. -/
  | brokenOff (name value : String)

/-- What reading comes to once the settings file has been loaded. -/
def Outcome.of {α : Type} (read : Environment → Except SettingError α)
    (loading : SettingsFile.Loading) : Outcome α :=
  match loading.refused with
  | none => .returned (read loading.environment)
  | some (name, value) => .brokenOff name value

/-- The token policy after the nearest settings file has been loaded, and the environment then. -/
def readPolicy (env : Environment) (candidates : List SettingsFile.Candidate) :
    Outcome Token.Policy × Environment :=
  let loading := SettingsFile.loadNearest env candidates
  (.of policy loading, loading.environment)

/-- The key setting after the nearest settings file has been loaded, and the environment then. -/
def readKey (env : Environment) (candidates : List SettingsFile.Candidate) :
    Outcome KeySetting × Environment :=
  let loading := SettingsFile.loadNearest env candidates
  (.of key loading, loading.environment)

end Settings

end Credentials.Config
