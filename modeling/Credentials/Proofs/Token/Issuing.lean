import Credentials.Proofs.Time.Shift
import Credentials.Proofs.Token.Minting
import Credentials.Proofs.Token.Runs
import Credentials.Token.Issue

/-!
# When issuing fails

Issuing refuses the nil user first and then a lifetime that leads out of range; a pair goes through
this twice, and its first refusal stands.

* `exists_issued` — what both kinds of tokens share: a refusal in that order, or a token.
* `exists_issuePair` — the refusals of a pair, from those of its two parts.
* `issuing_refusals` — **issuing fails exactly when it must**, over steps of a run; a pair is what an
  access token and then a refresh token are.
-/

namespace Credentials.Token

/-! ## Refusals in order -/

/-- A lifetime that leads out of range is refused. -/
theorem expiry_of_overflows {now : Instant} {lifetime : Span} (h : now.Overflows lifetime) :
    Policy.expiry now lifetime = .error (.overflow lifetime) := by
  unfold Policy.expiry
  rw [Instant.shift?_eq_none_iff.2 h]

/-- Any other lifetime leads to an instant. -/
theorem exists_expiry {now : Instant} {lifetime : Span} (h : ¬ now.Overflows lifetime) :
    ∃ t, Policy.expiry now lifetime = .ok t := by
  obtain ⟨t, shift⟩ := Instant.exists_shift h
  exact ⟨t, expiry_eq_ok_iff.2 shift⟩

/-- A token of either kind is refused for the user, then for the lifetime, and issued otherwise. -/
theorem exists_issued {α : Type} (now : Instant) (user : Uuid) (lifetime : Span)
    (token : Instant → α) :
    ∃ a, (if user.isNil then .error .nilIdentity else (Policy.expiry now lifetime).map token) =
      if user = .nil then .error .nilIdentity
      else if now.Overflows lifetime then .error (.overflow lifetime)
      else .ok a := by
  unfold Uuid.isNil
  simp only [decide_eq_true_eq]
  by_cases out : now.Overflows lifetime
  · refine ⟨token now, ?_⟩
    rw [expiry_of_overflows out, if_pos out]
    rfl
  · obtain ⟨t, expiry⟩ := exists_expiry out
    refine ⟨token t, ?_⟩
    rw [expiry, if_neg out]
    rfl

/-- A pair is refused as its access token is and then as its refresh token is, and it consists of
the two otherwise. -/
theorem exists_issuePair (p : Policy) (now : Instant) (user : Uuid) (role : String)
    (draw : Vector UInt8 16) :
    ∃ access refresh,
      p.issueAccess now user role =
        (if user = .nil then .error .nilIdentity
        else if now.Overflows p.accessLifetime then .error (.overflow p.accessLifetime)
        else .ok access) ∧
      p.issueRefresh now user draw =
        (if user = .nil then .error .nilIdentity
        else if now.Overflows p.refreshLifetime then .error (.overflow p.refreshLifetime)
        else .ok refresh) ∧
      p.issuePair now user role draw =
        (if user = .nil then .error .nilIdentity
        else if now.Overflows p.accessLifetime then .error (.overflow p.accessLifetime)
        else if now.Overflows p.refreshLifetime then .error (.overflow p.refreshLifetime)
        else .ok ⟨access, refresh⟩) := by
  obtain ⟨access, haccess⟩ : ∃ access, p.issueAccess now user role = _ :=
    exists_issued now user p.accessLifetime _
  obtain ⟨refresh, hrefresh⟩ := exists_issued now user p.refreshLifetime
    (p.refreshToken now user draw)
  rw [← issueRefresh_eq] at hrefresh
  refine ⟨access, refresh, haccess, hrefresh, ?_⟩
  rw [issuePair_eq, haccess, hrefresh]
  by_cases isNil : user = .nil
  · simp only [isNil, if_true]
    rfl
  · simp only [isNil, if_false]
    by_cases out : now.Overflows p.accessLifetime
    · rw [if_pos out, if_pos out]
      rfl
    · rw [if_neg out, if_neg out]
      split <;> rfl

/-! ## Steps of a run -/

namespace Run

/-- **Issuing fails exactly when it must, and with the right error.** The user is looked at first and
then the lifetimes, the access token's before the refresh token's. A pair that is issued consists of
the access token of the same call and of the refresh token of the call after it, whose state is the
same: issuing an access token changes nothing, and no issuing changes the clock. A lifetime overflows
if the second that it leads to is out of range; away from leap seconds, this is the second of the
exact sum. -/
theorem issuing_refusals (source : RandomSource) (s : State) (p : Policy) (user : Uuid)
    (role : String) :
    (∃ access refresh,
      (outcome source s (.issueAccess p user role)).answer =
        (if user = .nil then .failed .nilIdentity
        else if s.now.Overflows p.accessLifetime then .failed (.overflow p.accessLifetime)
        else .access access) ∧
      (outcome source (after s (.issueAccess p user role)) (.issueRefresh p user)).answer =
        (if user = .nil then .failed .nilIdentity
        else if s.now.Overflows p.refreshLifetime then .failed (.overflow p.refreshLifetime)
        else .refresh refresh) ∧
      (outcome source s (.issuePair p user role)).answer =
        (if user = .nil then .failed .nilIdentity
        else if s.now.Overflows p.accessLifetime then .failed (.overflow p.accessLifetime)
        else if s.now.Overflows p.refreshLifetime then .failed (.overflow p.refreshLifetime)
        else .pair ⟨access, refresh⟩)) ∧
    (∀ lifetime : Span, s.now.Overflows lifetime ↔ Instant.OutOfRange (
      if s.now.isLeap = false ∨ lifetime.total ≤ -nanosPerSecond then s.now.exactSecond lifetime
      else max s.now.second (s.now.exactSecond lifetime - 1))) ∧
    after s (.issueAccess p user role) = s ∧
    (after s (.issueRefresh p user)).now = s.now ∧
    (after s (.issuePair p user role)).now = s.now := by
  refine ⟨?_, ?_, rfl, rfl, rfl⟩
  · obtain ⟨access, refresh, haccess, hrefresh, hpair⟩ :=
      exists_issuePair p s.now user role (draw source s)
    refine ⟨access, refresh, ?_, ?_, ?_⟩
    · show (Outcome.ofIssue .access (p.issueAccess s.now user role)).answer = _
      rw [haccess]
      split
      · rfl
      · split <;> rfl
    · have still : after s (.issueAccess p user role) = s := rfl
      rw [still, outcome_issueRefresh, hrefresh]
      split
      · rfl
      · split <;> rfl
    · rw [outcome_issuePair, hpair]
      split
      · rfl
      · split
        · rfl
        · split <;> rfl
  · intro lifetime
    rw [← Instant.shifted_fst]
    rfl

end Run

end Credentials.Token
