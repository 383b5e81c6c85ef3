import Credentials.Proofs.Token.Minting

/-!
# The verdict on a text over time

What validation says about a text depends on the clock in one way only. All other stages are settled
before the clock is looked at, and none of their faults is reported as expiry.

* `verified_invalid` — a text that does not get past the first two stages is invalid.
* `expires_nonneg_of_access`, `expires_nonneg_of_refresh` — claims that do get past them expire at the
  epoch or later. The expiry is read twice, once with a sign and once without, and both readers find
  the same value: in an object it is found by its name, and a list has another claim in its place.
* `AccessClaims.verdict`, `RefreshClaims.verdict` — the verdict on claims as time goes on.
* `one_verdict` — **every text is invalid at all times, or has claims with that verdict**; what has
  expired stays expired.
-/

namespace Credentials.Token

open Json

/-! ## Faults that are not expiry -/

section faults

variable {α : Type} {r : Rejection}

/-- What is required fails just where it is not there. -/
theorem require_eq_error_iff {value : Option α} {otherwise : Rejection} :
    require value otherwise = .error r ↔ value = none ∧ otherwise = r := by
  cases value <;> simp [require]

/-- A part that cannot be read makes a token invalid. -/
theorem treeOf_invalid {part : Bytes} (h : treeOf part = .error r) : r.error = .invalid := by
  simp only [treeOf, bind_eq_error_iff, require_eq_error_iff] at h
  obtain ⟨-, rfl⟩ | ⟨bs, -, -, rfl⟩ := h
  · rfl
  · rfl

/-- A header that declares no hash function makes a token invalid. -/
theorem declared_invalid {header : Bytes} (h : declared header = .error r) :
    r.error = .invalid := by
  simp only [declared, bind_eq_error_iff, require_eq_error_iff] at h
  obtain h | ⟨tree, -, ⟨-, rfl⟩ | ⟨header, -, -, rfl⟩⟩ := h
  · exact treeOf_invalid h
  · rfl
  · rfl

/-- A payload that does not say its claims makes a token invalid. -/
theorem claimsOf_invalid {read : Tree → Option α} {payload : Bytes}
    (h : claimsOf read payload = .error r) : r.error = .invalid := by
  simp only [claimsOf, bind_eq_error_iff, require_eq_error_iff] at h
  obtain h | ⟨tree, -, ⟨-, rfl⟩ | ⟨claims, -, ⟨-, rfl⟩ | ⟨expiry, -, ⟨-, rfl⟩ | ⟨_, -, h⟩⟩⟩⟩ := h
  · exact treeOf_invalid h
  · rfl
  · rfl
  · rfl
  · cases h

/-- A text that does not get past its signature and its claims is invalid. -/
theorem verified_invalid {secret token : String} {read : Tree → Option α}
    (h : verified secret read token = .error r) : r.error = .invalid := by
  simp only [verified, bind_eq_error_iff, require_eq_error_iff] at h
  obtain ⟨-, rfl⟩ | ⟨⟨header, payload, signature⟩, -, h | ⟨hash, -, h⟩⟩ := h
  · rfl
  · exact declared_invalid h
  · split at h
    case isTrue => exact claimsOf_invalid h
    case isFalse =>
      cases h
      rfl

end faults

/-! ## The two readings of the expiry -/

section expiry

/-- A value that is a Unix second both with and without a sign is not negative. -/
theorem timestamp_nonneg {t : Tree} {s : Timestamp} {n : Nat} (signed : timestamp? t = some s)
    (unsigned : t.nat64? = some n) : 0 ≤ s.toInt := by
  obtain ⟨i, hi, rfl⟩ := Option.map_eq_some_iff.1 signed
  obtain ⟨j, hj, -⟩ := Option.map_eq_some_iff.1 unsigned
  obtain ⟨number, rfl, hsigned, least, greatest⟩ := Tree.intWithin?_eq_some_iff.1 hi
  obtain ⟨_, ⟨⟩, hunsigned, nonneg, -⟩ := Tree.intWithin?_eq_some_iff.1 hj
  obtain rfl := Option.some.inj (hsigned.symm.trans hunsigned)
  rw [Int64.toInt_ofInt_of_le]
  · exact nonneg
  · omega
  · omega

/-- What the reader of the registered claims has found. -/
theorem lookup_of_expiry? {t : Tree} {n : Nat} (h : Registered.expiry? t = some (some n)) :
    ∃ fields v, t.fields? Registered.names = some fields ∧ fields.lookup "exp" = some v ∧
      v.nat64? = some n := by
  simp only [Registered.expiry?, Option.bind_eq_bind, Option.bind_eq_some_iff] at h
  obtain ⟨fields, hfields, h⟩ := h
  split at h
  case isTrue =>
    obtain ⟨v, hv, hn⟩ := Option.bind_eq_some_iff.1 (Option.some.inj h)
    exact ⟨fields, v, hfields, hv, hn⟩
  case isFalse => cases h

/-- In an object both readers find the same expiry, which so is not negative. -/
theorem expires_nonneg_of_object {members : List (List Piece × Tree)} {names : List String}
    {fields : Fields} {s : Timestamp} {n : Nat} (known : "exp" ∈ names)
    (hfields : (Tree.object members).fields? names = some fields)
    (signed : (fields.lookup "exp").bind timestamp? = some s)
    (unsigned : Registered.expiry? (.object members) = some (some n)) : 0 ≤ s.toInt := by
  obtain ⟨fields', v, hfields', hv, hn⟩ := lookup_of_expiry? unsigned
  obtain ⟨named, hnamed, found⟩ := lookup_fields?_object hfields
  obtain ⟨named', hnamed', found'⟩ := lookup_fields?_object hfields'
  obtain rfl := Option.some.inj (hnamed.symm.trans hnamed')
  have same : fields.lookup "exp" = some v := by
    rw [found _ known, ← found' _ List.mem_cons_self, hv]
  rw [same] at signed
  exact timestamp_nonneg signed hn

/-- In a list the reader of the registered claims takes the first element for the expiry. -/
theorem head_of_expiry? {elements : List Tree} {n : Nat}
    (h : Registered.expiry? (.array elements) = some (some n)) :
    ∃ v rest, elements = v :: rest ∧ elements.length = 5 ∧ v.nat64? = some n := by
  obtain ⟨fields, v, hfields, hv, hn⟩ := lookup_of_expiry? h
  simp only [Tree.fields?] at hfields
  split at hfields
  case isTrue length =>
    cases hfields
    cases elements with
    | nil => cases length
    | cons first rest =>
      cases hv
      exact ⟨_, rest, rfl, length, hn⟩
  case isFalse => cases hfields

/-- Access claims that are read together with an expiry do not expire before the epoch. -/
theorem expires_nonneg_of_access {payload : Bytes} {c : AccessClaims}
    (h : Says AccessClaims.ofTree? payload c) : 0 ≤ c.expires.toInt := by
  obtain ⟨t, -, hclaims, n, hexpiry⟩ := h
  simp only [AccessClaims.ofTree?, Fields.need, Option.bind_eq_bind, Option.bind_eq_some_iff,
    Option.pure_def, Option.some.injEq] at hclaims
  obtain ⟨fields, hfields, user, ⟨u, hu, huser⟩, -, -, -, -, -, -, s, ⟨v, hv, hs⟩, rfl⟩ := hclaims
  cases t with
  | object members =>
    apply expires_nonneg_of_object (by simp) hfields _ hexpiry
    rw [hv]
    exact hs
  | array elements =>
    -- the first element would be an identifier and a number at once
    obtain ⟨w, rest, rfl, -, hw⟩ := head_of_expiry? hexpiry
    simp only [Tree.fields?] at hfields
    split at hfields
    case isTrue =>
      cases hfields
      cases hu
      obtain ⟨i, hi, -⟩ := Option.map_eq_some_iff.1 hw
      obtain ⟨_, rfl, -⟩ := Tree.intWithin?_eq_some_iff.1 hi
      cases huser
    case isFalse => cases hfields
  | null | bool | number | string => cases hfields

/-- Refresh claims that are said do not expire before the epoch. -/
theorem expires_nonneg_of_refresh {payload : Bytes} {c : RefreshClaims}
    (h : Says RefreshClaims.ofTree? payload c) : 0 ≤ c.expires.toInt := by
  obtain ⟨t, -, hclaims, n, hexpiry⟩ := h
  simp only [RefreshClaims.ofTree?, Fields.need, Option.bind_eq_bind, Option.bind_eq_some_iff,
    Option.pure_def, Option.some.injEq] at hclaims
  obtain ⟨fields, hfields, -, -, -, -, -, -, s, ⟨v, hv, hs⟩, rfl⟩ := hclaims
  cases t with
  | object members =>
    apply expires_nonneg_of_object (by simp) hfields _ hexpiry
    rw [hv]
    exact hs
  | array elements =>
    -- refresh claims are a list of four, registered claims one of five
    obtain ⟨-, -, -, length, -⟩ := head_of_expiry? hexpiry
    rw [Tree.fields?, length] at hfields
    cases hfields
  | null | bool | number | string => cases hfields

end expiry

/-! ## Verdicts -/

/-- What a caller learns about access claims that were signed, as time goes on. -/
def AccessClaims.verdict (c : AccessClaims) (now : Instant) : Except TokenError AccessClaims :=
  if now.second < c.notBefore.toInt then .error .invalid
  else if c.expires.toInt < now.second then .error .expired
  else .ok c

/-- What a caller learns about refresh claims that were signed, as time goes on: whatever it asked
for, until they have expired. -/
def RefreshClaims.verdict {α : Type} (c : RefreshClaims) (asked : α) (now : Instant) :
    Except TokenError α :=
  if c.expires.toInt < now.second then .error .expired else .ok asked

/-- The verdict passes on whatever was asked for. -/
theorem RefreshClaims.map_verdict {α β : Type} (c : RefreshClaims) (asked : α) (f : α → β)
    (now : Instant) : (c.verdict asked now).map f = c.verdict (f asked) now := by
  unfold verdict
  rw [apply_ite (Except.map f)]
  rfl

/-- Once a validation has found a text expired, it does so for good. -/
def StaysExpired {α : Type} (verdict : Instant → Except TokenError α) : Prop :=
  ∀ now later, now.second ≤ later.second → verdict now = .error .expired →
    verdict later = .error .expired

/-- Access claims that have expired stay so. -/
theorem AccessClaims.stays_expired (c : AccessClaims) : StaysExpired c.verdict := by
  intro now later order expired
  unfold verdict at expired ⊢
  split at expired
  case isTrue => cases expired
  case isFalse notEarly =>
    split at expired
    case isTrue past =>
      rw [if_neg (by omega), if_pos (by omega)]
    case isFalse => cases expired

/-- Refresh claims that have expired stay so. -/
theorem RefreshClaims.stays_expired {α : Type} (c : RefreshClaims) (asked : α) :
    StaysExpired (c.verdict asked) := by
  intro now later order expired
  unfold verdict at expired ⊢
  split at expired
  case isTrue past => rw [if_pos (by omega)]
  case isFalse => cases expired

/-- What is invalid at all times is never expired. -/
theorem stays_expired_of_invalid {α : Type} {verdict : Instant → Except TokenError α}
    (h : ∀ now, verdict now = .error .invalid) : StaysExpired verdict := by
  intro now _ _ expired
  rw [h now] at expired
  cases expired

/-- Refresh claims name a user and the token. -/
def RefreshClaims.Named (c : RefreshClaims) : Prop :=
  ∃ user id, Uuid.parse? c.subject.toList = some user ∧ user ≠ .nil ∧
    Uuid.parse? c.tokenId.toList = some id

/-- Claims that name no user and token are invalid at all times. -/
theorem judgeRefresh_unnamed {c : RefreshClaims} (h : ¬ c.Named) (now : Instant) :
    (judgeRefresh now c).mapError Rejection.error = .error .invalid := by
  unfold judgeRefresh
  cases subject : (Uuid.parse? c.subject.toList).filter fun u => !u.isNil with
  | none => rfl
  | some user =>
    cases tokenId : Uuid.parse? c.tokenId.toList with
    | none => rfl
    | some id =>
      obtain ⟨hparse, hnil⟩ := Option.filter_eq_some_iff.1 subject
      refine absurd ⟨user, id, hparse, ?_, tokenId⟩ h
      simpa [Uuid.isNil] using hnil

section verdicts

variable (p : Policy) (token : String)

/-- An access token is invalid at all times, or has claims that decide it at each. -/
theorem validateAccess_verdict :
    (∀ now, (p.validateAccess now token).mapError Rejection.error = .error .invalid) ∨
      ∃ c : AccessClaims, c.user ≠ .nil ∧ 0 ≤ c.expires.toInt ∧
        ∀ now, (p.validateAccess now token).mapError Rejection.error = c.verdict now := by
  cases h : verified p.accessSecret AccessClaims.ofTree? token with
  | error r =>
    refine .inl fun now => ?_
    rw [validateAccess_of_fault h now]
    exact congrArg Except.error (verified_invalid h)
  | ok c =>
    by_cases user : c.user = .nil
    · refine .inl fun now => ?_
      rw [validateAccess_of_verified h, judgeAccess_nil user]
      rfl
    · obtain ⟨payload, -, hsays⟩ := verified_eq_ok_iff.1 h
      refine .inr ⟨c, user, expires_nonneg_of_access hsays, fun now => ?_⟩
      rw [validateAccess_of_verified h, judgeAccess_eq user, apply_ite (Except.mapError _),
        apply_ite (Except.mapError _)]
      rfl

/-- Both questions about a refresh token are answered from one verdict. -/
theorem openRefresh_verdict :
    (∀ now, (p.openRefresh now token).mapError Rejection.error = .error .invalid) ∨
      ∃ (c : RefreshClaims) (user : Uuid), Uuid.parse? c.subject.toList = some user ∧
        user ≠ .nil ∧ 0 ≤ c.expires.toInt ∧
        ∀ now, (p.openRefresh now token).mapError Rejection.error = c.verdict (c, user) now := by
  cases h : verified p.refreshSecret RefreshClaims.ofTree? token with
  | error r =>
    refine .inl fun now => ?_
    rw [openRefresh_of_fault h now]
    exact congrArg Except.error (verified_invalid h)
  | ok c =>
    by_cases named : c.Named
    · obtain ⟨user, id, subject, hnil, tokenId⟩ := named
      obtain ⟨payload, -, hsays⟩ := verified_eq_ok_iff.1 h
      refine .inr ⟨c, user, subject, hnil, expires_nonneg_of_refresh hsays, fun now => ?_⟩
      rw [openRefresh_of_verified h, judgeRefresh_eq subject hnil tokenId,
        apply_ite (Except.mapError _)]
      rfl
    · refine .inl fun now => ?_
      rw [openRefresh_of_verified h, judgeRefresh_unnamed named]

/-- A refresh token is invalid at all times, or has claims that decide it at each, for both
askers. -/
theorem refresh_verdict :
    (∀ now, (p.validateRefresh now token).mapError Rejection.error = .error .invalid ∧
        (p.validateUser now token).mapError Rejection.error = .error .invalid) ∨
      ∃ (c : RefreshClaims) (user : Uuid), Uuid.parse? c.subject.toList = some user ∧
        user ≠ .nil ∧ 0 ≤ c.expires.toInt ∧
        ∀ now, (p.validateRefresh now token).mapError Rejection.error = c.verdict c now ∧
          (p.validateUser now token).mapError Rejection.error = c.verdict user now := by
  simp only [Policy.validateRefresh, Policy.validateUser, mapError_map]
  obtain invalid | ⟨c, user, subject, hnil, expiry, verdict⟩ := openRefresh_verdict p token
  · refine .inl fun now => ?_
    rw [invalid now]
    exact ⟨rfl, rfl⟩
  · refine .inr ⟨c, user, subject, hnil, expiry, fun now => ?_⟩
    rw [verdict now, RefreshClaims.map_verdict, RefreshClaims.map_verdict]
    exact ⟨rfl, rfl⟩

/-- **Every text has one verdict, ordered in time.** As an access token it is invalid at all times,
or has claims that are not valid yet before their first second of use, have expired after their last
one, and are given back in between. As a refresh token there is no first second of use; whoever asks
for its user gets the user that the claims name, and else the same errors at the same times. Hence
what has expired stays expired, and a refresh token that has expired was good up to its last
second. -/
theorem one_verdict :
    ((∀ now, (p.validateAccess now token).mapError Rejection.error = .error .invalid) ∨
      ∃ c : AccessClaims, c.user ≠ .nil ∧ 0 ≤ c.expires.toInt ∧
        ∀ now, (p.validateAccess now token).mapError Rejection.error = c.verdict now) ∧
    ((∀ now, (p.validateRefresh now token).mapError Rejection.error = .error .invalid ∧
        (p.validateUser now token).mapError Rejection.error = .error .invalid) ∨
      ∃ (c : RefreshClaims) (user : Uuid), Uuid.parse? c.subject.toList = some user ∧
        user ≠ .nil ∧ 0 ≤ c.expires.toInt ∧
        ∀ now, (p.validateRefresh now token).mapError Rejection.error = c.verdict c now ∧
          (p.validateUser now token).mapError Rejection.error = c.verdict user now) ∧
    StaysExpired (fun now => (p.validateAccess now token).mapError Rejection.error) ∧
    StaysExpired (fun now => (p.validateRefresh now token).mapError Rejection.error) ∧
    StaysExpired (fun now => (p.validateUser now token).mapError Rejection.error) ∧
    ∀ now, (p.validateRefresh now token).mapError Rejection.error = .error .expired →
      ∃ c : RefreshClaims, c.expires.toInt < now.second ∧
        ∀ earlier : Instant, earlier.second ≤ c.expires.toInt →
          (p.validateRefresh earlier token).mapError Rejection.error = .ok c := by
  have access := validateAccess_verdict p token
  have refresh := refresh_verdict p token
  refine ⟨access, refresh, ?_, ?_, ?_, ?_⟩
  · obtain invalid | ⟨c, -, -, verdict⟩ := access
    · exact stays_expired_of_invalid invalid
    · simp only [verdict]
      exact c.stays_expired
  · obtain invalid | ⟨c, user, -, -, -, verdict⟩ := refresh
    · exact stays_expired_of_invalid fun now => (invalid now).1
    · simp only [verdict]
      exact c.stays_expired c
  · obtain invalid | ⟨c, user, -, -, -, verdict⟩ := refresh
    · exact stays_expired_of_invalid fun now => (invalid now).2
    · simp only [verdict]
      exact c.stays_expired user
  · intro now expired
    obtain invalid | ⟨c, user, -, -, -, verdict⟩ := refresh
    · rw [(invalid now).1] at expired
      cases expired
    · simp only [verdict, RefreshClaims.verdict] at expired ⊢
      split at expired
      case isTrue past =>
        refine ⟨c, past, ?_⟩
        intro earlier inTime
        rw [if_neg (by omega)]
      case isFalse => cases expired

end verdicts

/-- Claims that expire before they may be used are invalid first and expired then, and never anything
else; a refresh token with the same expiry was good up to it. -/
theorem one_verdict_never_good :
    ∃ hour ∈ Span.ofUnits? 3600 1, ∃ six ∈ Instant.ofSecond? 6, ∃ eight ∈ Instant.ofSecond? 8,
      ∃ nine ∈ Instant.ofSecond? 9,
      let p : Policy := ⟨"a", "a", hour, hour⟩
      let user : Uuid := ⟨Vector.replicate 16 1⟩
      let text := String.ofList user.text
      let access := mint "a" (AccessClaims.mk user "bidder" 0 8 5).toJson
      let refresh := mint "a" (RefreshClaims.mk text text 0 5).toJson
      (p.validateAccess six access).mapError Rejection.error = .error .invalid ∧
        (p.validateAccess eight access).mapError Rejection.error = .error .expired ∧
        (p.validateAccess nine access).mapError Rejection.error = .error .expired ∧
        (p.validateRefresh six refresh).mapError Rejection.error = .error .expired ∧
        ∃ c : RefreshClaims, c.expires.toInt < 6 ∧
          ∀ earlier : Instant, earlier.second ≤ c.expires.toInt →
            (p.validateRefresh earlier refresh).mapError Rejection.error = .ok c := by
  let hour : Span := ⟨3600, 0, by omega, by omega⟩
  let six : Instant := ⟨6, 0, by omega, by omega, by omega⟩
  let eight : Instant := ⟨8, 0, by omega, by omega, by omega⟩
  let nine : Instant := ⟨9, 0, by omega, by omega, by omega⟩
  refine ⟨hour, rfl, six, rfl, eight, rfl, nine, rfl, ?_⟩
  intro p user text access refresh
  have verdict (now : Instant) := validateAccess_mint (p := p)
    (c := ⟨user, "bidder", 0, 8, 5⟩) (by decide : user ≠ .nil) (by decide) now
  have early : (p.validateAccess six access).mapError Rejection.error = .error .invalid :=
    congrArg (Except.mapError _) (verdict six)
  have past : (p.validateAccess eight access).mapError Rejection.error = .error .expired :=
    congrArg (Except.mapError _) (verdict eight)
  have names : Uuid.parse? text.toList = some user := by
    rw [String.toList_ofList, Uuid.parse?_text]
  have opened := openRefresh_mint (p := p) (c := ⟨text, text, 0, 5⟩) names (by decide) names
    (by decide) six
  have expired : (p.validateRefresh six refresh).mapError Rejection.error = .error .expired :=
    congrArg (Except.mapError _) (congrArg (Except.map Prod.fst) opened)
  obtain ⟨-, -, stays, -, -, -⟩ := one_verdict p access
  obtain ⟨-, -, -, -, -, good⟩ := one_verdict p refresh
  exact ⟨early, past, stays eight nine (by decide) past, expired, good six expired⟩

end Credentials.Token
