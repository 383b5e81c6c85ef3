import Credentials.Proofs.Hash.Hmac
import Credentials.Proofs.Text.Letters
import Credentials.Proofs.Token.Lifetime
import Credentials.Proofs.Token.Signature

/-!
# Tokens under other secrets

Is a token refused by a policy that has another secret than the one it was signed with? A secret is
used as the key of an authentication code, so that two things have to be told apart.

* `SameKey` — the secrets are different texts and still one key. A short secret and the same secret
  with zero characters behind it are one key, and so are a long secret and its digest. The token is
  then accepted (`zero_ended_secret_accepted`).
* `CodesCollide` — the keys are different, but the codes of this token hit a collision of the hash
  function, between two texts that are given.

Apart from these the token is invalid (`other_key_refused`). No bound on secrets does without the
second exception: there are more keys than codes, so that for all claims there are two keys that mint
the same token (`exists_keys_minting_alike`).
-/

namespace Credentials.Token

/-! ## Secrets as keys -/

/-- Two secrets are the same key. -/
def SameKey (secret secret' : String) : Prop :=
  Hmac.blockOfKey .sha256 (Utf8.ofString secret) = Hmac.blockOfKey .sha256 (Utf8.ofString secret')

instance (secret secret' : String) : Decidable (SameKey secret secret') :=
  inferInstanceAs (Decidable (_ = _))

/-- The codes of a token under two secrets show a collision of the hash function: the texts that are
hashed last are different and have one digest. -/
def CodesCollide (secret secret' token : String) : Prop :=
  HashFunction.sha256.Collision
    (Hmac.outerText .sha256 (Utf8.ofString secret) (Compact.signedPart token))
    (Hmac.outerText .sha256 (Utf8.ofString secret') (Compact.signedPart token))

variable {secret secret' token : String}

/-- Secrets that fit a block are the same key if and only if the longer one has just zeros more. -/
theorem sameKey_iff_zeros (shorter : (Utf8.ofString secret).length ≤ (Utf8.ofString secret').length)
    (fits : (Utf8.ofString secret').length ≤ 64) :
    SameKey secret secret' ↔
      ∃ n, Utf8.ofString secret' = Utf8.ofString secret ++ List.replicate n 0 := by
  constructor
  · intro same
    exact ⟨_, Hmac.eq_append_of_blockOfKey_eq shorter fits same⟩
  · rintro ⟨n, zeros⟩
    rw [zeros, List.length_append, List.length_replicate] at fits
    unfold SameKey
    rw [zeros]
    exact (Hmac.blockOfKey_append_zeros fits).symm

/-- A secret that does not fit a block is the same key as its digest. -/
theorem sameKey_of_digest (long : 64 < (Utf8.ofString secret).length)
    (digest : Utf8.ofString secret' = HashFunction.sha256.digest (Utf8.ofString secret)) :
    SameKey secret secret' := by
  unfold SameKey
  rw [digest]
  exact (Hmac.blockOfKey_digest HashFunction.fitsBlock_sha256 long).symm

/-- Two secrets give a token the same code for one of two reasons. -/
theorem sameCode_iff : SameCode secret secret' token ↔
    SameKey secret secret' ∨ CodesCollide secret secret' token := by
  constructor
  · intro same
    by_cases key : SameKey secret secret'
    · exact .inl key
    · exact .inr (Hmac.collision_of_code_eq HashFunction.fitsBlock_sha256 key same)
  · rintro (key | ⟨-, digest⟩)
    · exact Hmac.code_eq_of_blockOfKey_eq key _
    · exact digest

/-- What follows for a verdict that is the issuer's own under the same code, and else that the
signature is wrong. -/
theorem verdict_of_sameCode {α : Type} {verdict own : Except Rejection α}
    (h : verdict = if SameCode secret secret' token then own else .error .signature) :
    (¬ SameKey secret secret' →
      verdict.mapError Rejection.error = .error .invalid ∨ CodesCollide secret secret' token) ∧
    (SameKey secret secret' ∨ CodesCollide secret secret' token → verdict = own) := by
  rw [h, ← sameCode_iff]
  constructor
  · intro key
    by_cases same : SameCode secret secret' token
    · exact .inr ((sameCode_iff.1 same).resolve_left key)
    · rw [if_neg same]
      exact .inl rfl
  · intro same
    exact if_pos same

/-! ## Minted tokens -/

section minted

variable (q : Policy) (now : Instant)

/-- A minted access token is taken as one of the policy's own, or its signature is found wrong. -/
theorem validateAccess_mint_any (secret : String) (claims : Json) :
    q.validateAccess now (mint secret claims) =
      if SameCode secret q.accessSecret (mint secret claims) then
        { q with accessSecret := secret }.validateAccess now (mint secret claims)
      else .error .signature := by
  rw [validateAccess_eq, validateAccess_eq, verified_mint, verified_mint_self]
  by_cases same : SameCode secret q.accessSecret (mint secret claims)
  · rw [if_pos same, if_pos same]
  · rw [if_neg same, if_neg same]
    rfl

/-- A minted refresh token is taken as one of the policy's own, or its signature is found wrong. -/
theorem validateUser_mint_any (secret : String) (claims : Json) :
    q.validateUser now (mint secret claims) =
      if SameCode secret q.refreshSecret (mint secret claims) then
        { q with refreshSecret := secret }.validateUser now (mint secret claims)
      else .error .signature := by
  unfold Policy.validateUser
  rw [openRefresh_eq, openRefresh_eq, verified_mint, verified_mint_self]
  by_cases same : SameCode secret q.refreshSecret (mint secret claims)
  · rw [if_pos same, if_pos same]
  · rw [if_neg same, if_neg same]
    rfl

end minted

/-! ## Other secrets -/

/-- A secret with a zero at its end is another text, and accepts what was issued without it. -/
theorem zero_ended_secret_accepted :
    ∃ hour ∈ Span.ofUnits? 3600 1, ∃ epoch ∈ Instant.ofSecond? 0,
      let m : Policy := ⟨"a", "a", hour, hour⟩
      let q : Policy := ⟨"a\x00", "a\x00", hour, hour⟩
      let user : Uuid := ⟨Vector.replicate 16 1⟩
      let draw := Vector.replicate 16 0
      m.accessSecret ≠ q.accessSecret ∧ m.refreshSecret ≠ q.refreshSecret ∧ user ≠ .nil ∧
        ∃ token r, m.issueAccess epoch user "bidder" = .ok token ∧
          q.validateAccess epoch token = .ok ⟨user, "bidder", 0, 0, 3600⟩ ∧
          m.issueRefresh epoch user draw = .ok r ∧ q.validateUser epoch r.token = .ok user := by
  let hour : Span := ⟨3600, 0, by omega, by omega⟩
  let epoch : Instant := ⟨0, 0, by omega, by omega, by omega⟩
  refine ⟨hour, rfl, epoch, rfl, ?_⟩
  intro m q user draw
  let expiry : Instant := ⟨3600, 0, by omega, by omega, by omega⟩
  let claims := AccessClaims.issue user "bidder" epoch expiry
  let refreshClaims := RefreshClaims.issue user (.ofRandom draw) epoch expiry
  have shift : epoch.shift? hour = some expiry := by decide
  have key : SameKey "a" "a\x00" := (sameKey_iff_zeros (by decide) (by decide)).2 ⟨1, by decide⟩
  refine ⟨by decide, by decide, by decide, mint "a" claims.toJson,
    ⟨mint "a" refreshClaims.toJson, .ofRandom draw, expiry⟩, ?_, ?_, ?_, ?_⟩
  · rw [issueAccess_eq_ok_iff]
    exact ⟨by decide, expiry, shift, rfl⟩
  · rw [validateAccess_mint_any, if_pos (sameCode_iff.2 (.inl key))]
    exact (validateAccess_mint (by decide) (by decide) epoch).trans rfl
  · rw [issueRefresh_eq_ok_iff]
    exact ⟨by decide, expiry, shift, rfl, rfl, rfl⟩
  · rw [validateUser_mint_any, if_pos (sameCode_iff.2 (.inl key)), Policy.validateUser]
    exact congrArg (Except.map Prod.snd) ((Run.openRefresh_issued (by decide) (by decide)).trans rfl)

/-- **A token under another key is invalid.** A policy whose secret is another key than the one that
a token was issued under finds it invalid at all times, unless the codes of the token show a
collision of the hash function. Under the same key, and with such a collision, it answers just as if
it had the secret of the issuer. Secrets of up to sixty-four bytes are the same key if and only if the
longer one has just zeros more; a longer secret is the same key as its digest. -/
theorem other_key_refused (m q : Policy) (issued now : Instant) (user : Uuid) :
    (∀ role token, m.issueAccess issued user role = .ok token →
      (¬ SameKey m.accessSecret q.accessSecret →
        (q.validateAccess now token).mapError Rejection.error = .error .invalid ∨
          CodesCollide m.accessSecret q.accessSecret token) ∧
      (SameKey m.accessSecret q.accessSecret ∨ CodesCollide m.accessSecret q.accessSecret token →
        q.validateAccess now token =
          { q with accessSecret := m.accessSecret }.validateAccess now token)) ∧
    (∀ draw r, m.issueRefresh issued user draw = .ok r →
      (¬ SameKey m.refreshSecret q.refreshSecret →
        (q.validateUser now r.token).mapError Rejection.error = .error .invalid ∨
          CodesCollide m.refreshSecret q.refreshSecret r.token) ∧
      (SameKey m.refreshSecret q.refreshSecret ∨
          CodesCollide m.refreshSecret q.refreshSecret r.token →
        q.validateUser now r.token =
          { q with refreshSecret := m.refreshSecret }.validateUser now r.token)) ∧
    (∀ secret secret' : String,
      (Utf8.ofString secret).length ≤ (Utf8.ofString secret').length →
      (Utf8.ofString secret').length ≤ 64 → (SameKey secret secret' ↔
        ∃ n, Utf8.ofString secret' = Utf8.ofString secret ++ List.replicate n 0)) ∧
    ∀ secret secret' : String, 64 < (Utf8.ofString secret).length →
      Utf8.ofString secret' = HashFunction.sha256.digest (Utf8.ofString secret) →
      SameKey secret secret' := by
  refine ⟨?access, ?refresh, fun _ _ => sameKey_iff_zeros, fun _ _ => sameKey_of_digest⟩
  case access =>
    intro role token minted
    obtain ⟨-, expiry, -, rfl⟩ := issueAccess_eq_ok_iff.1 minted
    exact verdict_of_sameCode (validateAccess_mint_any q now _ _)
  case refresh =>
    intro draw r minted
    obtain ⟨-, expiry, -, -, -, htoken⟩ := issueRefresh_eq_ok_iff.1 minted
    rw [htoken]
    exact verdict_of_sameCode (validateUser_mint_any q now _ _)

/-- Two policies with one more letter in the access secret and one more zero in the refresh secret,
at the end of the last second of use. -/
theorem other_key_refused_last_second :
    ∃ hour ∈ Span.ofUnits? 3600 1, ∃ epoch ∈ Instant.ofSecond? 0, ∃ expiry ∈ Instant.ofSecond? 3600,
      ∃ last ∈ Instant.of? 3600 999999999,
      let m : Policy := ⟨"a", "a", hour, hour⟩
      let q : Policy := ⟨"aa", "a\x00", hour, hour⟩
      let user : Uuid := ⟨Vector.replicate 16 1⟩
      let token := mint "a" (AccessClaims.issue user "bidder" epoch expiry).toJson
      let id : Uuid := .ofRandom (Vector.replicate 16 0)
      let r : RefreshToken :=
        ⟨mint "a" (RefreshClaims.issue user id epoch expiry).toJson, id, expiry⟩
      m.issueAccess epoch user "bidder" = .ok token ∧ ¬ SameKey m.accessSecret q.accessSecret ∧
        ((q.validateAccess last token).mapError Rejection.error = .error .invalid ∨
          CodesCollide m.accessSecret q.accessSecret token) ∧
        m.issueRefresh epoch user (Vector.replicate 16 0) = .ok r ∧
        q.validateUser last r.token = .ok user := by
  let hour : Span := ⟨3600, 0, by omega, by omega⟩
  let epoch : Instant := ⟨0, 0, by omega, by omega, by omega⟩
  let expiry : Instant := ⟨3600, 0, by omega, by omega, by omega⟩
  let last : Instant := ⟨3600, 999999999, by omega, by omega, by omega⟩
  refine ⟨hour, rfl, epoch, rfl, expiry, rfl, last, rfl, ?_⟩
  intro m q user token id r
  have shift : epoch.shift? hour = some expiry := by decide
  have access : m.issueAccess epoch user "bidder" = .ok token := by
    rw [issueAccess_eq_ok_iff]
    exact ⟨by decide, expiry, shift, rfl⟩
  have refresh : m.issueRefresh epoch user (Vector.replicate 16 0) = .ok r := by
    rw [issueRefresh_eq_ok_iff]
    exact ⟨by decide, expiry, shift, rfl, rfl, rfl⟩
  obtain ⟨accessTokens, refreshTokens, zeros, -⟩ := other_key_refused m q epoch last user
  have other : ¬ SameKey m.accessSecret q.accessSecret := by decide
  have key : SameKey m.refreshSecret q.refreshSecret :=
    (zeros "a" "a\x00" (by decide) (by decide)).2 ⟨1, by decide⟩
  refine ⟨access, other, (accessTokens "bidder" token access).1 other, refresh, ?_⟩
  rw [(refreshTokens _ r refresh).2 (.inl key)]
  have own : Policy.openRefresh { q with refreshSecret := m.refreshSecret } last r.token =
      .ok (RefreshClaims.issue user id epoch expiry, user) := by
    apply (Run.openRefresh_issued (by decide) (by decide)).trans
    exact if_neg (by decide)
  rw [Policy.validateUser, own]
  rfl

/-! ## More keys than codes -/

/-- For all claims there are two secrets that are different keys and still mint the same token. -/
theorem exists_keys_minting_alike (claims : Json) : ∃ secret secret' : String,
    ¬ SameKey secret secret' ∧ mint secret claims = mint secret' claims := by
  let message := mintedHeader ++ Compact.dot :: Compact.encodedJson claims
  have length (key : Bytes) : (Hmac.code .sha256 key message).length = 32 :=
    HashFunction.length_digest_sha256 _
  obtain ⟨secret, secret', different, full, full', same⟩ :=
    Text.exists_texts_alike (by decide) length
  refine ⟨secret, secret', ?_, ?_⟩
  · unfold SameKey
    rw [Hmac.blockOfKey_of_eq full, Hmac.blockOfKey_of_eq full']
    exact fun h => different (Utf8.ofString_injective h)
  · have signature : Compact.signature .sha256 secret mintedHeader (Compact.encodedJson claims) =
        Compact.signature .sha256 secret' mintedHeader (Compact.encodedJson claims) :=
      Compact.signature_eq_iff.2 same
    exact congrArg (Compact.text mintedHeader (Compact.encodedJson claims)) signature

end Credentials.Token
