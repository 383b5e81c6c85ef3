import Credentials.Proofs.Time.Instant
import Credentials.Proofs.Token.Acceptance
import Credentials.Proofs.Token.Claims
import Credentials.Token.Issue

/-!
# Minted tokens

What is minted here is signed, and it says what it was minted for.

* `signed_sign` — the token for any payload is signed over it, under each of the keyed algorithms.
* `verified_mint_access`, `verified_mint_refresh` — the first two stages of validation give back the
  claims of a minted token. This needs an expiry that is not negative: the reader of the registered
  claims takes it without a sign.
* `validateAccess_mint`, `openRefresh_mint` — then only the time decides.
* `issueAccess_eq_ok_iff`, `issueRefresh_eq_ok_iff`, `issuePair_eq_ok_iff` — what is issued, and
  when.
-/

namespace Credentials.Token

open Json

/-! ## Signing -/

/-- A token that is put together for a payload is signed over it. -/
theorem signed_sign {algorithm : Algorithm} {hash : HashFunction}
    (h : (algorithm, hash) ∈ Algorithm.keyed) (secret : String) (payload : Json) :
    Signed secret (Compact.sign hash secret (Header.toJson ⟨algorithm⟩) payload)
      (Utf8.encode payload.render) := by
  refine ⟨Utf8.encode (Header.toJson ⟨algorithm⟩).render, tree (Header.toJson ⟨algorithm⟩),
    algorithm, hash, ?_, ?_, h, rfl⟩
  · exact read?_render _
  · exact Header.ofTree?_toJson _

/-- What is minted under a secret is signed under it. -/
theorem signed_mint (secret : String) (payload : Json) :
    Signed secret (mint secret payload) (Utf8.encode payload.render) := by
  apply signed_sign
  exact List.mem_cons_self

/-! ## The claims of a minted token -/

/-- Access claims are said by their text, unless they expire before the epoch. -/
theorem says_access {c : AccessClaims} (h : 0 ≤ c.expires.toInt) :
    Says AccessClaims.ofTree? (Utf8.encode c.toJson.render) c := by
  refine ⟨tree c.toJson, read?_render _, AccessClaims.ofTree?_toJson c, c.expires.toInt.toNat, ?_⟩
  rw [Registered.expiry?_access, if_pos h]

/-- Refresh claims are said by their text, unless they expire before the epoch. -/
theorem says_refresh {c : RefreshClaims} (h : 0 ≤ c.expires.toInt) :
    Says RefreshClaims.ofTree? (Utf8.encode c.toJson.render) c := by
  refine ⟨tree c.toJson, read?_render _, RefreshClaims.ofTree?_toJson c, c.expires.toInt.toNat, ?_⟩
  rw [Registered.expiry?_refresh, if_pos h]

/-- Access claims are verified under the secret that they were minted under. -/
theorem verified_mint_access (secret : String) {c : AccessClaims} (h : 0 ≤ c.expires.toInt) :
    verified secret AccessClaims.ofTree? (mint secret c.toJson) = .ok c := by
  rw [verified_eq_ok_iff]
  exact ⟨_, signed_mint secret c.toJson, says_access h⟩

/-- Refresh claims are verified under the secret that they were minted under. -/
theorem verified_mint_refresh (secret : String) {c : RefreshClaims} (h : 0 ≤ c.expires.toInt) :
    verified secret RefreshClaims.ofTree? (mint secret c.toJson) = .ok c := by
  rw [verified_eq_ok_iff]
  exact ⟨_, signed_mint secret c.toJson, says_refresh h⟩

/-! ## Validating a minted token -/

/-- Only the time decides over a token that was minted for a user. -/
theorem validateAccess_mint {p : Policy} {c : AccessClaims} (user : c.user ≠ .nil)
    (expiry : 0 ≤ c.expires.toInt) (now : Instant) :
    p.validateAccess now (mint p.accessSecret c.toJson) =
      if now.second < c.notBefore.toInt then .error .early
      else if c.expires.toInt < now.second then .error (.expired c.expires)
      else .ok c := by
  rw [validateAccess_of_verified (verified_mint_access _ expiry), judgeAccess_eq user]

/-- A refresh token that was minted for a user is accepted until it has expired. -/
theorem openRefresh_mint {p : Policy} {c : RefreshClaims} {user id : Uuid}
    (subject : Uuid.parse? c.subject.toList = some user) (hnil : user ≠ .nil)
    (tokenId : Uuid.parse? c.tokenId.toList = some id) (expiry : 0 ≤ c.expires.toInt)
    (now : Instant) :
    p.openRefresh now (mint p.refreshSecret c.toJson) =
      if c.expires.toInt < now.second then .error (.expired c.expires)
      else .ok (c, user) := by
  rw [openRefresh_of_verified (verified_mint_refresh _ expiry), judgeRefresh_eq subject hnil tokenId]

/-! ## Issuing -/

/-- A lifetime has an end just if it can be added to the present. -/
theorem expiry_eq_ok_iff {now t : Instant} {lifetime : Span} :
    Policy.expiry now lifetime = .ok t ↔ now.shift? lifetime = some t := by
  unfold Policy.expiry
  cases now.shift? lifetime <;> simp

/-- An access token is issued just to a user, within range, and it is minted from the claims made
now. -/
theorem issueAccess_eq_ok_iff {p : Policy} {now : Instant} {user : Uuid} {role token : String} :
    p.issueAccess now user role = .ok token ↔
      user ≠ .nil ∧ ∃ expiry, now.shift? p.accessLifetime = some expiry ∧
        token = mint p.accessSecret (AccessClaims.issue user role now expiry).toJson := by
  unfold Policy.issueAccess Uuid.isNil
  by_cases h : user = .nil
  · simp [h]
  · simp only [h, decide_false, Bool.false_eq_true, if_false, map_eq_ok_iff, expiry_eq_ok_iff,
      not_false_eq_true, true_and, ne_eq, @eq_comm _ token]

/-- The claims of a refresh token name the beginning of the second in which it expires. -/
theorem expiresAt?_issue (user id : Uuid) (now expiry : Instant) :
    (RefreshClaims.issue user id now expiry).expiresAt? = some expiry.floor := by
  unfold RefreshClaims.expiresAt? RefreshClaims.issue
  rw [toInt_timestamp, Instant.ofSecond?_second]

/-- Of a refresh token the user is looked at first and then the lifetime, whatever was drawn. -/
theorem issueRefresh_eq (p : Policy) (now : Instant) (user : Uuid) (draw : Vector UInt8 16) :
    p.issueRefresh now user draw =
      if user.isNil then .error .nilIdentity
      else (Policy.expiry now p.refreshLifetime).map (p.refreshToken now user draw) := by
  unfold Policy.issueRefresh Policy.refreshing
  split <;> rfl

/-- A refresh token is issued just to a user, within range; its record says what its claims say. -/
theorem issueRefresh_eq_ok_iff {p : Policy} {now : Instant} {user : Uuid}
    {draw : Vector UInt8 16} {r : RefreshToken} :
    p.issueRefresh now user draw = .ok r ↔
      user ≠ .nil ∧ ∃ expiry, now.shift? p.refreshLifetime = some expiry ∧
        r.tokenId = Uuid.ofRandom draw ∧ r.expiresAt = expiry.floor ∧
        r.token = mint p.refreshSecret (RefreshClaims.issue user r.tokenId now expiry).toJson := by
  rw [issueRefresh_eq]
  unfold Uuid.isNil Policy.refreshToken
  by_cases h : user = .nil
  · simp [h]
  · simp only [h, decide_false, Bool.false_eq_true, if_false, map_eq_ok_iff, expiry_eq_ok_iff,
      expiresAt?_issue, Option.getD_some, not_false_eq_true, true_and, ne_eq]
    constructor
    · rintro ⟨expiry, hshift, rfl⟩
      exact ⟨expiry, hshift, rfl, rfl, rfl⟩
    · rintro ⟨expiry, hshift, htokenId, hexpires, htoken⟩
      refine ⟨expiry, hshift, ?_⟩
      rw [← htokenId, ← htoken, ← hexpires]

/-- A pair is an access token and then a refresh token. -/
theorem issuePair_eq (p : Policy) (now : Instant) (user : Uuid) (role : String)
    (draw : Vector UInt8 16) :
    p.issuePair now user role draw =
      p.issueAccess now user role >>= fun access =>
        (p.issueRefresh now user draw).map (TokenPair.mk access) := by
  unfold Policy.issuePair Policy.pairing
  cases p.issueAccess now user role with
  | error e => rfl
  | ok access => exact Drawing.given_map _ _ draw

/-- A pair is issued just if both its tokens are. -/
theorem issuePair_eq_ok_iff {p : Policy} {now : Instant} {user : Uuid} {role : String}
    {draw : Vector UInt8 16} {tokens : TokenPair} :
    p.issuePair now user role draw = .ok tokens ↔
      p.issueAccess now user role = .ok tokens.access ∧
        p.issueRefresh now user draw = .ok tokens.refresh := by
  rw [issuePair_eq]
  simp only [bind_eq_ok_iff, map_eq_ok_iff]
  constructor
  · rintro ⟨access, haccess, refresh, hrefresh, rfl⟩
    exact ⟨haccess, hrefresh⟩
  · rintro ⟨haccess, hrefresh⟩
    exact ⟨_, haccess, _, hrefresh, rfl⟩

end Credentials.Token
