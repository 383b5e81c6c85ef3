import Credentials.Proofs.Time.Shift
import Credentials.Proofs.Token.Lifetime
import Credentials.Proofs.Token.Signature

/-!
# Tokens that expired before they were issued

With a lifetime of minus one second or less a token has expired when it is issued. Validation says so
from the epoch on (`overdue_at_issue`). An expiry before the epoch is another matter: a payload has to
claim one that fits 64 bits without a sign, and such a token is invalid, at all times
(`validateAccess_mint_beforeEpoch`, `openRefresh_mint_beforeEpoch`). The first token of this kind is
one that is issued at the epoch with a lifetime of minus one second (`overdue_at_epoch`).
-/

namespace Credentials.Token

/-! ## Expiries before the epoch -/

section beforeEpoch

variable {p : Policy}

/-- An access token that expires before the epoch claims no expiry that counts. -/
theorem validateAccess_mint_beforeEpoch {c : AccessClaims} (h : c.expires.toInt < 0)
    (now : Instant) : p.validateAccess now (mint p.accessSecret c.toJson) = .error .noExpiry := by
  have expiry : Registered.expiry? (Json.tree c.toJson) = some none := by
    rw [Registered.expiry?_access, if_neg (Int.not_le.2 h)]
  apply validateAccess_of_fault
  rw [verified_mint_self, claimsOf_noExpiry (AccessClaims.ofTree?_toJson c) expiry]

/-- A refresh token that expires before the epoch claims no expiry that counts. -/
theorem openRefresh_mint_beforeEpoch {c : RefreshClaims} (h : c.expires.toInt < 0)
    (now : Instant) : p.openRefresh now (mint p.refreshSecret c.toJson) = .error .noExpiry := by
  have expiry : Registered.expiry? (Json.tree c.toJson) = some none := by
    rw [Registered.expiry?_refresh, if_neg (Int.not_le.2 h)]
  apply openRefresh_of_fault
  rw [verified_mint_self, claimsOf_noExpiry (RefreshClaims.ofTree?_toJson c) expiry]

end beforeEpoch

/-! ## Expiries in the past -/

section past

variable {p : Policy} {now expiry : Instant} {user : Uuid} (hnil : user ≠ .nil)
  (past : expiry.second < now.second)

include hnil past

/-- The verdict on an access token that had expired when it was issued. -/
theorem validateAccess_overdue (role : String) :
    (p.validateAccess now
        (mint p.accessSecret (AccessClaims.issue user role now expiry).toJson)).mapError
      Rejection.error = .error (if 0 ≤ expiry.second then .expired else .invalid) := by
  have expires : (AccessClaims.issue user role now expiry).expires.toInt = expiry.second :=
    toInt_timestamp expiry
  have first : (AccessClaims.issue user role now expiry).notBefore.toInt = now.second :=
    toInt_timestamp now
  by_cases counts : 0 ≤ expiry.second
  · rw [validateAccess_mint hnil (expires ▸ counts), expires, first, if_neg (Int.lt_irrefl _),
      if_pos past, if_pos counts]
    rfl
  · rw [validateAccess_mint_beforeEpoch (expires ▸ Int.not_le.1 counts), if_neg counts]
    rfl

/-- The verdict on a refresh token that had expired when it was issued. -/
theorem openRefresh_overdue (id : Uuid) :
    ∃ r, p.openRefresh now
        (mint p.refreshSecret (RefreshClaims.issue user id now expiry).toJson) = .error r ∧
      r.error = if 0 ≤ expiry.second then .expired else .invalid := by
  by_cases counts : 0 ≤ expiry.second
  · refine ⟨.expired (timestamp expiry), ?_, ?_⟩
    · rw [Run.openRefresh_issued hnil counts, if_pos past]
    · rw [if_pos counts]
      rfl
  · have expires : (RefreshClaims.issue user id now expiry).expires.toInt = expiry.second :=
      toInt_timestamp expiry
    refine ⟨.noExpiry, ?_, ?_⟩
    · exact openRefresh_mint_beforeEpoch (expires ▸ Int.not_le.1 counts) now
    · rw [if_neg counts]
      rfl

end past

/-! ## Negative lifetimes -/

/-- A policy with lifetimes of minus one second issues tokens at the epoch that are invalid there,
though all that is wrong with them is that they have expired. -/
theorem overdue_at_epoch :
    ∃ back ∈ Span.ofUnits? 1 (-1), ∃ epoch ∈ Instant.ofSecond? 0,
      let p : Policy := ⟨"a", "a", back, back⟩
      let user : Uuid := ⟨Vector.replicate 16 1⟩
      epoch.isLeap = false ∧ user ≠ .nil ∧ p.accessLifetime.total ≤ -nanosPerSecond ∧
        p.refreshLifetime.total ≤ -nanosPerSecond ∧
        ∃ token r, p.issueAccess epoch user "bidder" = .ok token ∧
          (p.validateAccess epoch token).mapError Rejection.error = .error .invalid ∧
          p.issueRefresh epoch user (Vector.replicate 16 0) = .ok r ∧
          (p.validateUser epoch r.token).mapError Rejection.error = .error .invalid ∧
          (p.validateRefresh epoch r.token).mapError Rejection.error = .error .invalid := by
  let back : Span := ⟨-1, 0, by omega, by omega⟩
  let epoch : Instant := ⟨0, 0, by omega, by omega, by omega⟩
  refine ⟨back, rfl, epoch, rfl, ?_⟩
  intro p user
  let expiry : Instant := ⟨-1, 0, by omega, by omega, by omega⟩
  let id : Uuid := .ofRandom (Vector.replicate 16 0)
  let claims := AccessClaims.issue user "bidder" epoch expiry
  let refreshClaims := RefreshClaims.issue user id epoch expiry
  have shift : epoch.shift? back = some expiry := by decide
  have refused : p.openRefresh epoch (mint "a" refreshClaims.toJson) = .error .noExpiry :=
    openRefresh_mint_beforeEpoch (by decide) epoch
  obtain ⟨asUser, asClaims⟩ := refused_of_openRefresh refused
  refine ⟨by decide, by decide, by decide, by decide, mint "a" claims.toJson,
    ⟨mint "a" refreshClaims.toJson, id, expiry⟩, ?_, ?_, ?_, ?_, ?_⟩
  · rw [issueAccess_eq_ok_iff]
    exact ⟨by decide, expiry, shift, rfl⟩
  · exact congrArg (Except.mapError _) (validateAccess_mint_beforeEpoch (by decide) epoch)
  · rw [issueRefresh_eq_ok_iff]
    exact ⟨by decide, expiry, shift, rfl, rfl, rfl⟩
  · exact congrArg (Except.mapError _) asUser
  · exact congrArg (Except.mapError _) asClaims

/-- **A token that had expired when it was issued is found expired, from the epoch on.** At the very
clock that it was issued at, away from leap seconds and with a lifetime of minus one second or less,
it is expired if its last second is not before the epoch, and invalid if it is. -/
theorem overdue_at_issue (p : Policy) (now : Instant) (user : Uuid) (steady : now.isLeap = false) :
    (p.accessLifetime.total ≤ -nanosPerSecond →
      ∀ role token, p.issueAccess now user role = .ok token →
        ∃ expiry, now.shift? p.accessLifetime = some expiry ∧
          (p.validateAccess now token).mapError Rejection.error =
            .error (if 0 ≤ expiry.second then .expired else .invalid)) ∧
    (p.refreshLifetime.total ≤ -nanosPerSecond →
      ∀ draw r, p.issueRefresh now user draw = .ok r →
        ∃ expiry, now.shift? p.refreshLifetime = some expiry ∧
          (p.validateUser now r.token).mapError Rejection.error =
            .error (if 0 ≤ expiry.second then .expired else .invalid) ∧
          (p.validateRefresh now r.token).mapError Rejection.error =
            .error (if 0 ≤ expiry.second then .expired else .invalid)) := by
  constructor
  · intro lifetime role token issued
    obtain ⟨hnil, expiry, shift, rfl⟩ := issueAccess_eq_ok_iff.1 issued
    refine ⟨expiry, shift, ?_⟩
    exact validateAccess_overdue hnil (Instant.second_lt_of_shift steady shift lifetime) role
  · intro lifetime draw r issued
    obtain ⟨hnil, expiry, shift, -, -, htoken⟩ := issueRefresh_eq_ok_iff.1 issued
    obtain ⟨fault, refused, error⟩ := openRefresh_overdue (p := p) hnil
      (Instant.second_lt_of_shift steady shift lifetime) r.tokenId
    obtain ⟨asUser, asClaims⟩ := refused_of_openRefresh refused
    rw [htoken, asUser, asClaims]
    exact ⟨expiry, shift, congrArg Except.error error, congrArg Except.error error⟩

/-- One second later the last second of such a token is the first one of the epoch. -/
theorem overdue_at_issue_first_second :
    ∃ back ∈ Span.ofUnits? 1 (-1), ∃ now ∈ Instant.of? 1 999999999,
      ∃ expiry ∈ Instant.of? 0 999999999,
      let p : Policy := ⟨"a", "a", back, back⟩
      let user : Uuid := ⟨Vector.replicate 16 1⟩
      let id : Uuid := .ofRandom (Vector.replicate 16 0)
      let token := mint "a" (AccessClaims.issue user "bidder" now expiry).toJson
      let r : RefreshToken :=
        ⟨mint "a" (RefreshClaims.issue user id now expiry).toJson, id, expiry.floor⟩
      p.issueAccess now user "bidder" = .ok token ∧
        (p.validateAccess now token).mapError Rejection.error = .error .expired ∧
        p.issueRefresh now user (Vector.replicate 16 0) = .ok r ∧
        (p.validateUser now r.token).mapError Rejection.error = .error .expired ∧
        (p.validateRefresh now r.token).mapError Rejection.error = .error .expired := by
  let back : Span := ⟨-1, 0, by omega, by omega⟩
  let now : Instant := ⟨1, 999999999, by omega, by omega, by omega⟩
  let expiry : Instant := ⟨0, 999999999, by omega, by omega, by omega⟩
  refine ⟨back, rfl, now, rfl, expiry, rfl, ?_⟩
  intro p user id token r
  have shift : now.shift? back = some expiry := by decide
  have access : p.issueAccess now user "bidder" = .ok token := by
    rw [issueAccess_eq_ok_iff]
    exact ⟨by decide, expiry, shift, rfl⟩
  have refresh : p.issueRefresh now user (Vector.replicate 16 0) = .ok r := by
    rw [issueRefresh_eq_ok_iff]
    exact ⟨by decide, expiry, shift, rfl, rfl, rfl⟩
  obtain ⟨accessTokens, refreshTokens⟩ := overdue_at_issue p now user (by decide)
  obtain ⟨_, hshift, expired⟩ := accessTokens (by decide) "bidder" token access
  obtain ⟨_, hshift', userExpired, claimsExpired⟩ := refreshTokens (by decide) _ r refresh
  obtain rfl := Option.some.inj (shift.symm.trans hshift)
  obtain rfl := Option.some.inj (shift.symm.trans hshift')
  exact ⟨access, expired, refresh, userExpired, claimsExpired⟩

end Credentials.Token
