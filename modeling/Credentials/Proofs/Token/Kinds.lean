import Credentials.Proofs.Token.Lifetime
import Credentials.Proofs.Token.Signature

/-!
# The two kinds of tokens

An access token never stands in for a refresh token, nor the other way round. Secrets do not have to
keep them apart: each kind names members that the other has not got, and a text among the claims,
whatever it holds, is read back as that text and adds no member.

* `RefreshClaims.ofTree?_access`, `AccessClaims.ofTree?_refresh` — the claims of one kind are not those
  of the other.
* `openRefresh_mint_access`, `validateAccess_mint_refresh` — so the token is refused before anyone
  looks at the clock, under every secret.
* `kinds_apart` — **in no run is a token of one kind accepted, or found expired, as one of the
  other**.
-/

namespace Credentials.Token

open Json

/-! ## Claims -/

/-- Access claims name no subject. -/
theorem RefreshClaims.ofTree?_access (c : AccessClaims) :
    RefreshClaims.ofTree? (tree c.toJson) = none := by
  rw [RefreshClaims.ofTree?, AccessClaims.toJson, fields?_tree (by simp)]
  simp [Fields.need, List.lookup_cons]

/-- Refresh claims name no user by the name that access claims have for it. -/
theorem AccessClaims.ofTree?_refresh (c : RefreshClaims) :
    AccessClaims.ofTree? (tree c.toJson) = none := by
  rw [AccessClaims.ofTree?, RefreshClaims.toJson, fields?_tree (by simp)]
  simp [Fields.need, List.lookup_cons]

/-! ## Single tokens -/

/-- A minted token whose claims cannot be read is invalid under every secret. -/
theorem verified_mint_unread {α : Type} {read : Tree → Option α} {claims : Json}
    (h : read (tree claims) = none) (secret secret' : String) :
    ∃ r, verified secret' read (mint secret claims) = .error r ∧ r.error = .invalid := by
  rw [verified_mint, claimsOf_unread h]
  by_cases same : SameCode secret secret' (mint secret claims)
  · rw [if_pos same]
    exact ⟨.json, rfl, rfl⟩
  · rw [if_neg same]
    exact ⟨.signature, rfl, rfl⟩

/-- Whatever the secrets, access claims are not read as refresh claims. -/
theorem openRefresh_mint_access (q : Policy) (now : Instant) (secret : String) (c : AccessClaims) :
    ∃ r, q.openRefresh now (mint secret c.toJson) = .error r ∧ r.error = .invalid := by
  obtain ⟨r, refused, invalid⟩ :=
    verified_mint_unread (RefreshClaims.ofTree?_access c) secret q.refreshSecret
  exact ⟨r, openRefresh_of_fault refused now, invalid⟩

/-- Whatever the secrets, refresh claims are not read as access claims. -/
theorem validateAccess_mint_refresh (q : Policy) (now : Instant) (secret : String)
    (c : RefreshClaims) :
    ∃ r, q.validateAccess now (mint secret c.toJson) = .error r ∧ r.error = .invalid := by
  obtain ⟨r, refused, invalid⟩ :=
    verified_mint_unread (AccessClaims.ofTree?_refresh c) secret q.accessSecret
  exact ⟨r, validateAccess_of_fault refused now, invalid⟩

/-! ## Whole runs -/

namespace Run

variable (source : RandomSource) (s : State) (steps : List Step)

/-- **The two kinds of tokens stay apart.** Whatever policies share a run, and whatever their secrets
and lifetimes are, a token that was issued as one of one kind is invalid as one of the other, at
every place of the run. -/
theorem kinds_apart :
    (∀ (i : Nat) (m : Policy) (user : Uuid) (role token : String),
      IssuedAccess source s steps i m user role token → ∀ (j : Nat) (q : Policy),
        (steps[j]? = some (.validateUser q token) →
          answerAt source s steps j = some (.failed .invalid)) ∧
        (steps[j]? = some (.validateRefresh q token) →
          answerAt source s steps j = some (.failed .invalid))) ∧
    ∀ (i : Nat) (m : Policy) (user : Uuid) (r : RefreshToken),
      IssuedRefresh source s steps i m user r → ∀ (j : Nat) (q : Policy),
        steps[j]? = some (.validateAccess q r.token) →
          answerAt source s steps j = some (.failed .invalid) := by
  constructor
  · intro i m user role token issued j q
    obtain ⟨-, expiry, -, rfl⟩ := issueAccess_eq_ok_iff.1 issued.issued
    obtain ⟨r, refused, invalid⟩ := openRefresh_mint_access q (clockAt source s steps j)
      m.accessSecret (AccessClaims.issue user role (clockAt source s steps i) expiry)
    obtain ⟨asUser, asClaims⟩ := refused_of_openRefresh refused
    constructor
    · intro validated
      rw [answerAt_validateUser validated, asUser, ← invalid]
      rfl
    · intro validated
      rw [answerAt_validateRefresh validated, asClaims, ← invalid]
      rfl
  · intro i m user r issued j q validated
    obtain ⟨-, expiry, -, -, -, htoken⟩ := issueRefresh_eq_ok_iff.1 issued.issued
    obtain ⟨fault, refused, invalid⟩ := validateAccess_mint_refresh q (clockAt source s steps j)
      m.refreshSecret (RefreshClaims.issue user r.tokenId (clockAt source s steps i) expiry)
    rw [answerAt_validateAccess validated, htoken, refused, ← invalid]
    rfl

/-- One secret for all, a role that spells members of refresh claims, and a pair that had expired a
day before it was issued. -/
theorem kinds_apart_one_secret :
    ∃ day ∈ Span.ofUnits? 86400 (-1), ∃ noon ∈ Instant.ofSecond? 129600,
      ∃ expiry ∈ Instant.ofSecond? 43200,
      let m : Policy := ⟨"same", "same", day, day⟩
      let user : Uuid := ⟨Vector.replicate 16 1⟩
      let id : Uuid := .ofRandom (Vector.replicate 16 0)
      let role := "\",\"sub\":\"01010101-0101-0101-0101-010101010101\",\"jti\":\""
      let tokens : TokenPair := ⟨mint "same" (AccessClaims.issue user role noon expiry).toJson,
        mint "same" (RefreshClaims.issue user id noon expiry).toJson, id, expiry⟩
      let steps : List Step := [.issuePair m user role, .validateUser m tokens.access,
        .validateRefresh m tokens.access, .validateAccess m tokens.refresh.token]
      answerAt (RandomSource.constant 0) ⟨noon, []⟩ steps 0 = some (.pair tokens) ∧
        answerAt (RandomSource.constant 0) ⟨noon, []⟩ steps 1 = some (.failed .invalid) ∧
        answerAt (RandomSource.constant 0) ⟨noon, []⟩ steps 2 = some (.failed .invalid) ∧
        answerAt (RandomSource.constant 0) ⟨noon, []⟩ steps 3 = some (.failed .invalid) := by
  let day : Span := ⟨-86400, 0, by omega, by omega⟩
  let noon : Instant := ⟨129600, 0, by omega, by omega, by omega⟩
  let expiry : Instant := ⟨43200, 0, by omega, by omega, by omega⟩
  refine ⟨day, rfl, noon, rfl, expiry, rfl, ?_⟩
  intro m user id role tokens steps
  have shift : noon.shift? day = some expiry := by decide
  have answer : answerAt (RandomSource.constant 0) ⟨noon, []⟩ steps 0 = some (.pair tokens) := by
    rw [answerAt_issuePair rfl, issuePair_eq_ok_iff, issueAccess_eq_ok_iff, issueRefresh_eq_ok_iff]
    exact ⟨⟨by decide, expiry, shift, rfl⟩, by decide, expiry, shift, rfl, rfl, rfl⟩
  obtain ⟨access, refresh⟩ := kinds_apart (.constant 0) ⟨noon, []⟩ steps
  refine ⟨answer, ?_, ?_, ?_⟩
  · exact (access 0 m user role tokens.access (.paired rfl answer) 1 m).1 rfl
  · exact (access 0 m user role tokens.access (.paired rfl answer) 2 m).2 rfl
  · exact refresh 0 m user tokens.refresh (.paired rfl answer) 3 m rfl

end Run

end Credentials.Token
