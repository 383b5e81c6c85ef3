import Credentials.Proofs.Token.Minting
import Credentials.Proofs.Token.Runs

/-!
# The lifetime of tokens over whole runs

A token that was issued at some place of a run has the same fate at every other place, whatever
happens in between: only the secret and the clock of the validation count.

* `IssuedAccess`, `IssuedRefresh` — the step at a place issued the token, alone or in a pair.
* `access_lifetime` — **an access token** is invalid before the second in which it was issued, gives
  back what it was issued for up to its last second, and has expired after it.
* `refresh_lifetime` — **a refresh token** is good at all times up to its last second. What its
  issuer keeps, what is on the wire and what validation gives back agree on the user, the identifier
  and the expiry.
-/

namespace Credentials.Token.Run

variable (source : RandomSource) (s : State) (steps : List Step)

/-- The step at place `i` made the policy issue this access token, alone or in a pair. -/
inductive IssuedAccess (i : Nat) (m : Policy) (user : Uuid) (role : String) : String → Prop where
  | alone {token : String} : steps[i]? = some (.issueAccess m user role) →
      answerAt source s steps i = some (.access token) → IssuedAccess i m user role token
  | paired {tokens : TokenPair} : steps[i]? = some (.issuePair m user role) →
      answerAt source s steps i = some (.pair tokens) → IssuedAccess i m user role tokens.access

/-- The step at place `i` made the policy issue this refresh token, alone or in a pair. -/
inductive IssuedRefresh (i : Nat) (m : Policy) (user : Uuid) : RefreshToken → Prop where
  | alone {r : RefreshToken} : steps[i]? = some (.issueRefresh m user) →
      answerAt source s steps i = some (.refresh r) → IssuedRefresh i m user r
  | paired {role : String} {tokens : TokenPair} : steps[i]? = some (.issuePair m user role) →
      answerAt source s steps i = some (.pair tokens) → IssuedRefresh i m user tokens.refresh

variable {source s steps} {i : Nat} {m : Policy} {user : Uuid}

/-! ## What was issued -/

/-- An access token of a run was issued at the instant of its step. -/
theorem IssuedAccess.issued {role token : String}
    (h : IssuedAccess source s steps i m user role token) :
    m.issueAccess (clockAt source s steps i) user role = .ok token := by
  cases h with
  | alone step answer => exact (answerAt_issueAccess step).1 answer
  | paired step answer => exact (issuePair_eq_ok_iff.1 ((answerAt_issuePair step).1 answer)).1

/-- A refresh token of a run was issued at the instant of its step, with the bytes drawn there. -/
theorem IssuedRefresh.issued {r : RefreshToken} (h : IssuedRefresh source s steps i m user r) :
    m.issueRefresh (clockAt source s steps i) user (draw source (before source s steps i)) =
      .ok r := by
  cases h with
  | alone step answer => exact (answerAt_issueRefresh step).1 answer
  | paired step answer => exact (issuePair_eq_ok_iff.1 ((answerAt_issuePair step).1 answer)).2

/-! ## Access tokens -/

/-- **The lifetime of an access token.** At every place of the run, and under every policy with the
same secret, it is invalid before the second of its issue, has expired after its last second, and in
between says what it was issued for. -/
theorem access_lifetime {role token : String}
    (issued : IssuedAccess source s steps i m user role token) :
    ∃ expiry, (clockAt source s steps i).shift? m.accessLifetime = some expiry ∧
      (0 ≤ expiry.second → ∀ (j : Nat) (q : Policy), q.accessSecret = m.accessSecret →
        steps[j]? = some (.validateAccess q token) →
        answerAt source s steps j = some (
          if (clockAt source s steps j).second < (clockAt source s steps i).second then
            .failed .invalid
          else if expiry.second < (clockAt source s steps j).second then .failed .expired
          else .accessClaims ⟨user, role, timestamp (clockAt source s steps i),
            timestamp (clockAt source s steps i), timestamp expiry⟩)) := by
  obtain ⟨hnil, expiry, hshift, rfl⟩ := issueAccess_eq_ok_iff.1 issued.issued
  refine ⟨expiry, hshift, ?_⟩
  intro positive j q secret validated
  have expires : 0 ≤ (AccessClaims.issue user role (clockAt source s steps i)
      expiry).expires.toInt := by
    rw [AccessClaims.issue, toInt_timestamp]
    exact positive
  -- of the run, only the clock at the validation is left
  rw [answerAt_validateAccess validated, ← secret, validateAccess_mint hnil expires]
  simp only [AccessClaims.issue, toInt_timestamp]
  rw [apply_ite (Answer.ofValidation _), apply_ite (Answer.ofValidation _)]
  rfl

/-- Under an empty secret, at the end of the last second of use, in the middle of other steps. -/
theorem access_lifetime_last_second :
    let hour : Span := ⟨3600, 0, by omega, by omega⟩
    let m : Policy := ⟨"", "r", hour, hour⟩
    let epoch : Instant := ⟨0, 0, by omega, by omega, by omega⟩
    let last : Instant := ⟨3600, 999999999, by omega, by omega, by omega⟩
    let user : Uuid := ⟨Vector.replicate 16 1⟩
    let claims : AccessClaims := ⟨user, "\"admin\"", 0, 0, 3600⟩
    let steps : List Step := [.issueAccess m user claims.role, .clock (.set last),
      .validateAccess m (mint "" claims.toJson)]
    answerAt (RandomSource.constant 0) ⟨epoch, []⟩ steps 2 = some (.accessClaims claims) := by
  intro hour m epoch last user claims steps
  have shift : epoch.shift? hour = some ⟨3600, 0, by omega, by omega, by omega⟩ := by decide
  have issued : m.issueAccess epoch user claims.role = .ok (mint "" claims.toJson) := by
    rw [issueAccess_eq_ok_iff]
    exact ⟨by decide, _, shift, rfl⟩
  have answer : answerAt (RandomSource.constant 0) ⟨epoch, []⟩ steps 0 =
      some (.access (mint "" claims.toJson)) := (answerAt_issueAccess rfl).2 issued
  obtain ⟨expiry, hshift, lifetime⟩ := access_lifetime (.alone (i := 0) rfl answer)
  obtain rfl := Option.some.inj (shift.symm.trans hshift)
  exact lifetime (by decide) 2 m rfl rfl

/-! ## Refresh tokens -/

/-- The verdict on a refresh token that was issued, as a function of the time. -/
theorem openRefresh_issued {now t expiry : Instant} {id : Uuid} {q : Policy} (hnil : user ≠ .nil)
    (positive : 0 ≤ expiry.second) :
    q.openRefresh now (mint q.refreshSecret (RefreshClaims.issue user id t expiry).toJson) =
      if expiry.second < now.second then .error (.expired (timestamp expiry))
      else .ok (RefreshClaims.issue user id t expiry, user) := by
  have subject : Uuid.parse? (RefreshClaims.issue user id t expiry).subject.toList = some user := by
    rw [RefreshClaims.issue, String.toList_ofList, Uuid.parse?_text]
  have tokenId : Uuid.parse? (RefreshClaims.issue user id t expiry).tokenId.toList = some id := by
    rw [RefreshClaims.issue, String.toList_ofList, Uuid.parse?_text]
  have expires : (RefreshClaims.issue user id t expiry).expires.toInt = expiry.second :=
    toInt_timestamp expiry
  rw [openRefresh_mint subject hnil tokenId (expires ▸ positive), expires]
  rfl

/-- **The lifetime of a refresh token.** What its issuer keeps is the beginning of the last second
of use, as the claims on the wire say it; it is at most a second before the moment of expiry. At
every place of the run, and under every policy with the same secret, the token has expired after its
last second, and up to it names its user and says what it was issued for. -/
theorem refresh_lifetime {r : RefreshToken} (issued : IssuedRefresh source s steps i m user r) :
    ∃ expiry, (clockAt source s steps i).shift? m.refreshLifetime = some expiry ∧
      let claims : RefreshClaims := ⟨String.ofList user.text, String.ofList r.tokenId.text,
        timestamp (clockAt source s steps i), timestamp expiry⟩
      r.expiresAt.second = expiry.second ∧ r.expiresAt.nano = 0 ∧
      claims.expiresAt? = some r.expiresAt ∧
      r.expiresAt ≤ expiry ∧
      (expiry.isLeap = false → expiry.sinceEpoch < r.expiresAt.sinceEpoch + nanosPerSecond) ∧
      (0 ≤ expiry.second → ∀ (j : Nat) (q : Policy), q.refreshSecret = m.refreshSecret →
        (steps[j]? = some (.validateUser q r.token) → answerAt source s steps j = some (
          if expiry.second < (clockAt source s steps j).second then .failed .expired
          else .user user)) ∧
        (steps[j]? = some (.validateRefresh q r.token) → answerAt source s steps j = some (
          if expiry.second < (clockAt source s steps j).second then .failed .expired
          else .refreshClaims claims))) := by
  obtain ⟨hnil, expiry, hshift, htokenId, hexpires, htoken⟩ :=
    issueRefresh_eq_ok_iff.1 issued.issued
  refine ⟨expiry, hshift, ?_⟩
  rw [hexpires]
  refine ⟨rfl, rfl, expiresAt?_issue _ _ _ _, expiry.floor_le, Instant.sinceEpoch_lt_floor, ?_⟩
  intro positive j q secret
  rw [htoken, ← secret]
  have verdict := @openRefresh_issued user (clockAt source s steps j) (clockAt source s steps i)
    expiry r.tokenId q hnil positive
  constructor
  · intro validated
    rw [answerAt_validateUser validated, Policy.validateUser, verdict, apply_ite (Except.map _),
      apply_ite (Answer.ofValidation _)]
    rfl
  · intro validated
    rw [answerAt_validateRefresh validated, Policy.validateRefresh, verdict,
      apply_ite (Except.map _), apply_ite (Answer.ofValidation _)]
    rfl

/-- Before the second of issue, and half a second into the last second of use. -/
theorem refresh_lifetime_both_ends :
    let hour : Span := ⟨3600, 0, by omega, by omega⟩
    let m : Policy := ⟨"a", "", hour, hour⟩
    let half : Instant := ⟨0, 500000000, by omega, by omega, by omega⟩
    let early : Instant := ⟨-1, 0, by omega, by omega, by omega⟩
    let last : Instant := ⟨3600, 500000000, by omega, by omega, by omega⟩
    let user : Uuid := ⟨Vector.replicate 16 1⟩
    let id : Uuid := .ofRandom (Vector.replicate 16 0)
    let claims : RefreshClaims := ⟨String.ofList user.text, String.ofList id.text, 0, 3600⟩
    let r : RefreshToken := ⟨mint "" claims.toJson, id, last.floor⟩
    let steps : List Step := [.issueRefresh m user, .clock (.set early), .validateUser m r.token,
      .clock (.set last), .validateRefresh m r.token]
    let start : State := ⟨half, []⟩
    answerAt (RandomSource.constant 0) start steps 2 = some (.user user) ∧
      answerAt (RandomSource.constant 0) start steps 4 = some (.refreshClaims claims) := by
  intro hour m half early last user id claims r steps start
  have shift : half.shift? hour = some last := by decide
  have issued : m.issueRefresh half user (Vector.replicate 16 0) = .ok r := by
    rw [issueRefresh_eq_ok_iff]
    exact ⟨by decide, last, shift, rfl, rfl, rfl⟩
  have answer : answerAt (RandomSource.constant 0) start steps 0 = some (.refresh r) :=
    (answerAt_issueRefresh rfl).2 issued
  obtain ⟨expiry, hshift, -, -, -, -, -, lifetime⟩ := refresh_lifetime (.alone (i := 0) rfl answer)
  obtain rfl : last = expiry := Option.some.inj (shift.symm.trans hshift)
  exact ⟨(lifetime (by decide) 2 m rfl).1 rfl, (lifetime (by decide) 4 m rfl).2 rfl⟩

end Credentials.Token.Run
