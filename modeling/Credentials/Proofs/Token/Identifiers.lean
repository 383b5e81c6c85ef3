import Credentials.Proofs.Token.Lifetime
import Credentials.Proofs.Token.Signature
import Credentials.Proofs.Uuid.Random

/-!
# Identifiers of refresh tokens over whole runs

Any number of policies share one source of random bytes. In a run of any length, whatever is issued
and validated, whatever the clock does and whatever fails:

* `NeedsIdentifier`, `draws_iff` — the steps that draw an identifier: those that issue a refresh token
  for a user, alone or after the access token of a pair, even if its lifetime then overflows.
* `asked_succ`, `asked_before` — each of them makes one request, for sixteen bytes, and no other step
  makes any.
* `identifiers_drawn` — all of this together: **the identifier of a refresh token is what was drawn
  for it, but for six bits, and tokens with different identifiers are different**.
-/

namespace Credentials.Token.Run

/-! ## Steps -/

/-- The step comes to the point where a refresh token gets its identifier: its user is not the nil
one, and if it issues a pair, then the access token is there. -/
inductive NeedsIdentifier (now : Instant) : Step → Prop where
  | alone {p : Policy} {user : Uuid} : user ≠ .nil → NeedsIdentifier now (.issueRefresh p user)
  | paired {p : Policy} {user : Uuid} {role token : String} :
      p.issueAccess now user role = .ok token → NeedsIdentifier now (.issuePair p user role)

section asks

variable {p : Policy} {now : Instant} {user : Uuid} {role : String}

/-- Bytes are drawn for the refresh token of every user but the nil one. -/
theorem asks_refreshing_iff : (p.refreshing now user).asks = true ↔ user ≠ .nil := by
  unfold Policy.refreshing Uuid.isNil
  by_cases hnil : user = .nil
  · simp [hnil, Drawing.asks]
  · simp [hnil, Drawing.asks]

/-- Bytes are drawn for a pair once its access token is there. -/
theorem asks_pairing_iff :
    (p.pairing now user role).asks = true ↔ ∃ token, p.issueAccess now user role = .ok token := by
  unfold Policy.pairing
  cases issued : p.issueAccess now user role with
  | error e => simp [Drawing.asks]
  | ok token =>
    rw [Drawing.asks_map, asks_refreshing_iff]
    exact ⟨fun _ => ⟨token, rfl⟩, fun _ => (issueAccess_eq_ok_iff.1 issued).1⟩

end asks

/-- The steps that draw bytes are those that need an identifier. -/
theorem draws_iff {s : State} {step : Step} : draws s step = true ↔ NeedsIdentifier s.now step := by
  unfold draws
  constructor
  · intro h
    cases step with
    | issueRefresh p user =>
      rw [attempt, Drawing.asks_map, asks_refreshing_iff] at h
      exact .alone h
    | issuePair p user role =>
      rw [attempt, Drawing.asks_map, asks_pairing_iff] at h
      obtain ⟨token, issued⟩ := h
      exact .paired issued
    | clock | issueAccess | validateAccess | validateRefresh | validateUser => cases h
  · rintro (hnil | issued)
    · rwa [attempt, Drawing.asks_map, asks_refreshing_iff]
    · rw [attempt, Drawing.asks_map, asks_pairing_iff]
      exact ⟨_, issued⟩

instance (now : Instant) (step : Step) : Decidable (NeedsIdentifier now step) :=
  decidable_of_iff (draws ⟨now, []⟩ step = true) draws_iff

/-- Any other step says the same whatever the source has given and will give. -/
theorem outcome_of_not_draws {source source' : RandomSource} {s s' : State} {step : Step}
    (clock : s'.now = s.now) (h : draws s step = false) :
    outcome source' s' step = outcome source s step := by
  rw [outcome, outcome, clock]
  exact Drawing.given_eq_of_not_asks h _ _

/-! ## Requests -/

section requests

variable (source : RandomSource) (s : State)

/-- A step asks for sixteen bytes if it needs an identifier, and else for none. -/
theorem asked_after (step : Step) :
    (after s step).asked = if NeedsIdentifier s.now step then 16 :: s.asked else s.asked :=
  ite_congr (propext draws_iff) (fun _ => rfl) fun _ => rfl

/-- What a step adds to the requests. -/
theorem asked_succ {steps : List Step} {i : Nat} {step : Step} (h : steps[i]? = some step) :
    (before source s steps (i + 1)).asked =
      if NeedsIdentifier (clockAt source s steps i) step then 16 :: (before source s steps i).asked
      else (before source s steps i).asked := by
  rw [before_succ source s h, asked_after]
  rfl

/-- How many of the steps before place `i` need an identifier. -/
def identifiersBefore (steps : List Step) (i : Nat) : Nat :=
  (List.range i).countP fun j => ∃ step ∈ steps[j]?, NeedsIdentifier (clockAt source s steps j) step

/-- One more step needs one more identifier, or none. -/
theorem identifiersBefore_succ (steps : List Step) (i : Nat) :
    identifiersBefore source s steps (i + 1) = identifiersBefore source s steps i +
      if ∃ step ∈ steps[i]?, NeedsIdentifier (clockAt source s steps i) step then 1 else 0 := by
  rw [identifiersBefore, List.range_succ, List.countP_append, List.countP_singleton]
  simp only [decide_eq_true_eq]
  rfl

/-- The requests that were made before a place: one for each step before it that needs an
identifier. -/
theorem asked_before (steps : List Step) (i : Nat) :
    (before source s steps i).asked =
      List.replicate (identifiersBefore source s steps i) 16 ++ s.asked := by
  induction i with
  | zero => rfl
  | succ i ih =>
    rw [identifiersBefore_succ]
    cases h : steps[i]? with
    | none =>
      rw [before_succ_of_none source s h, ih, if_neg (by simp)]
      rfl
    | some step =>
      rw [asked_succ source s h, ih]
      by_cases needs : NeedsIdentifier (clockAt source s steps i) step
      · rw [if_pos needs, if_pos ⟨step, rfl, needs⟩, List.replicate_succ]
        rfl
      · rw [if_neg needs, if_neg]
        · rfl
        · rintro ⟨_, ⟨⟩, needed⟩
          exact needs needed

/-- The bytes that the source has for the first identifier from place `i` on. -/
def drawnAt (steps : List Step) (i : Nat) : Vector UInt8 16 :=
  source.fill (List.replicate (identifiersBefore source s steps i) 16 ++ s.asked) 16

/-- The bytes at a place of a run are those after the identifiers before it. -/
theorem draw_before (steps : List Step) (i : Nat) :
    draw source (before source s steps i) = drawnAt source s steps i := by
  rw [draw, asked_before, drawnAt]

/-- A run asks for sixteen bytes as often as an identifier is needed. -/
theorem asked_run (steps : List Step) :
    (run source s steps).2.asked =
      List.replicate (identifiersBefore source s steps steps.length) 16 ++ s.asked := by
  have asked := asked_before source s steps steps.length
  rwa [before, List.take_length] at asked

end requests

/-! ## Issued tokens -/

section issued

variable {source : RandomSource} {s : State} {steps : List Step} {i : Nat} {m : Policy} {user : Uuid}
  {r : RefreshToken}

/-- A step that has issued a refresh token needed an identifier. -/
theorem IssuedRefresh.needsIdentifier (h : IssuedRefresh source s steps i m user r) :
    ∃ step ∈ steps[i]?, NeedsIdentifier (clockAt source s steps i) step := by
  cases h with
  | alone step answer =>
    have issued := (answerAt_issueRefresh step).1 answer
    exact ⟨_, step, .alone (issueRefresh_eq_ok_iff.1 issued).1⟩
  | paired step answer =>
    have issued := (answerAt_issuePair step).1 answer
    exact ⟨_, step, .paired (issuePair_eq_ok_iff.1 issued).1⟩

/-- The identifier of a refresh token is made from what was drawn at its place. -/
theorem IssuedRefresh.tokenId_eq (h : IssuedRefresh source s steps i m user r) :
    r.tokenId = .ofRandom (drawnAt source s steps i) := by
  obtain ⟨-, _, -, tokenId, -⟩ := issueRefresh_eq_ok_iff.1 h.issued
  rw [tokenId, draw_before]

/-- Tokens with different identifiers are different. -/
theorem IssuedRefresh.token_ne {i' : Nat} {m' : Policy} {user' : Uuid} {r' : RefreshToken}
    (h : IssuedRefresh source s steps i m user r)
    (h' : IssuedRefresh source s steps i' m' user' r') (ids : r.tokenId ≠ r'.tokenId) :
    r.token ≠ r'.token := by
  obtain ⟨-, _, -, -, -, token⟩ := issueRefresh_eq_ok_iff.1 h.issued
  obtain ⟨-, _, -, -, -, token'⟩ := issueRefresh_eq_ok_iff.1 h'.issued
  rw [token, token']
  intro same
  have texts := congrArg RefreshClaims.tokenId (refreshClaims_eq_of_mint_eq same)
  exact ids (Uuid.text_injective (String.ofList_injective texts))

end issued

/-- **The identifiers of refresh tokens come from the source, one for each token and in order.** Every
step that comes to the point where a refresh token gets its identifier makes one request, for sixteen
bytes, even if it then fails; no other step makes any or depends on the source. The identifier is what
was drawn, but for the six imposed bits: it is never the nil one, and of version 4. Two identifiers
are equal if and only if their draws agree in every other bit, and tokens with different identifiers
are different. -/
theorem identifiers_drawn (source : RandomSource) (s : State) (steps : List Step) :
    (∀ (i : Nat) (step : Step), steps[i]? = some step →
      (NeedsIdentifier (clockAt source s steps i) step →
        (before source s steps (i + 1)).asked = 16 :: (before source s steps i).asked) ∧
      (¬ NeedsIdentifier (clockAt source s steps i) step →
        (before source s steps (i + 1)).asked = (before source s steps i).asked ∧
        ∀ source' asked', outcome source' ⟨clockAt source s steps i, asked'⟩ step =
          outcome source (before source s steps i) step)) ∧
    (run source s steps).2.asked =
      List.replicate (identifiersBefore source s steps steps.length) 16 ++ s.asked ∧
    (∀ (i : Nat) (m : Policy) (user : Uuid) (r : RefreshToken),
      IssuedRefresh source s steps i m user r →
      (∃ step ∈ steps[i]?, NeedsIdentifier (clockAt source s steps i) step) ∧
      (∀ j b, Uuid.bit r.tokenId.bytes j b =
        (Uuid.imposed? j b).getD (Uuid.bit (drawnAt source s steps i) j b)) ∧
      r.tokenId ≠ .nil ∧ r.tokenId.version = 4) ∧
    ∀ (i i' : Nat) (m m' : Policy) (user user' : Uuid) (r r' : RefreshToken),
      IssuedRefresh source s steps i m user r → IssuedRefresh source s steps i' m' user' r' →
      (r.tokenId = r'.tokenId ↔ ∀ j b, Uuid.imposed? j b = none →
        Uuid.bit (drawnAt source s steps i) j b = Uuid.bit (drawnAt source s steps i') j b) ∧
      (r.tokenId ≠ r'.tokenId → r.token ≠ r'.token) := by
  refine ⟨?requests, asked_run source s steps, ?identifier, ?two⟩
  case requests =>
    intro i step h
    rw [asked_succ source s h]
    constructor
    · exact fun needs => if_pos needs
    · intro still
      have notDrawn : draws (before source s steps i) step = false :=
        Bool.eq_false_iff.2 (mt draws_iff.1 still)
      refine ⟨if_neg still, ?_⟩
      intro source' asked'
      exact outcome_of_not_draws rfl notDrawn
  case identifier =>
    intro i m user r issued
    refine ⟨issued.needsIdentifier, ?_⟩
    rw [issued.tokenId_eq]
    exact ⟨Uuid.bit_ofRandom _, Uuid.ofRandom_ne_nil _, Uuid.version_ofRandom _⟩
  case two =>
    intro i i' m m' user user' r r' issued issued'
    refine ⟨?_, issued.token_ne issued'⟩
    rw [issued.tokenId_eq, issued'.tokenId_eq]
    exact Uuid.ofRandom_eq_iff

/-- An identifier is drawn for a token that overflows, but none for the nil user; the two tokens that
are issued then, one of them in a pair, have different identifiers. -/
theorem identifiers_drawn_after_overflow :
    ∃ hour ∈ Span.ofUnits? 3600 1, ∃ ages ∈ Span.ofUnits? 3600 2500000000000,
      ∃ epoch ∈ Instant.ofSecond? 0,
      let m : Policy := ⟨"a", "b", hour, hour⟩
      let user : Uuid := ⟨Vector.replicate 16 1⟩
      let steps : List Step := [.issueRefresh m .nil, .issueRefresh ⟨"a", "b", hour, ages⟩ user,
        .issueRefresh m user, .issuePair m user "bidder"]
      let start : State := ⟨epoch, [12]⟩
      (run (.counting 0) start steps).2.asked = [16, 16, 16, 12] ∧
        ∃ r tokens, answerAt (.counting 0) start steps 2 = some (.refresh r) ∧
          answerAt (.counting 0) start steps 3 = some (.pair tokens) ∧
          r.tokenId ≠ tokens.refresh.tokenId ∧ r.token ≠ tokens.refresh.token := by
  let hour : Span := ⟨3600, 0, by omega, by omega⟩
  let ages : Span := ⟨9000000000000000, 0, by omega, by omega⟩
  let epoch : Instant := ⟨0, 0, by omega, by omega, by omega⟩
  refine ⟨hour, rfl, ages, rfl, epoch, rfl, ?_⟩
  intro m user steps start
  let expiry : Instant := ⟨3600, 0, by omega, by omega, by omega⟩
  have shift : start.now.shift? hour = some expiry := by decide
  have hnil : user ≠ .nil := by decide
  have access : ∃ token, m.issueAccess start.now user "bidder" = .ok token :=
    ⟨_, issueAccess_eq_ok_iff.2 ⟨hnil, expiry, shift, rfl⟩⟩
  have refresh (draw : Vector UInt8 16) : ∃ r, m.issueRefresh start.now user draw = .ok r :=
    let claims := RefreshClaims.issue user (.ofRandom draw) start.now expiry
    ⟨⟨mint "b" claims.toJson, .ofRandom draw, expiry.floor⟩,
      issueRefresh_eq_ok_iff.2 ⟨hnil, expiry, shift, rfl, rfl, rfl⟩⟩
  obtain ⟨token, issued⟩ := access
  obtain ⟨r, issued₂⟩ := refresh (draw (.counting 0) (before (.counting 0) start steps 2))
  obtain ⟨r', issued₃⟩ := refresh (draw (.counting 0) (before (.counting 0) start steps 3))
  have answer₂ : answerAt (.counting 0) start steps 2 = some (.refresh r) :=
    (answerAt_issueRefresh rfl).2 issued₂
  have answer₃ : answerAt (.counting 0) start steps 3 = some (.pair ⟨token, r'⟩) :=
    (answerAt_issuePair rfl).2 (issuePair_eq_ok_iff.2 ⟨issued, issued₃⟩)
  obtain ⟨-, all, -, two⟩ := identifiers_drawn (.counting 0) start steps
  obtain ⟨ids, tokens⟩ := two 2 3 m m user user r r' (.alone rfl answer₂) (.paired rfl answer₃)
  have drawnApart : Uuid.bit (drawnAt (.counting 0) start steps 2) 0 0 ≠
      Uuid.bit (drawnAt (.counting 0) start steps 3) 0 0 := by decide
  have apart : r.tokenId ≠ r'.tokenId := by
    rw [ne_eq, ids]
    intro same
    exact drawnApart (same 0 0 rfl)
  refine ⟨?_, r, ⟨token, r'⟩, answer₂, answer₃, apart, tokens apart⟩
  rw [all]
  decide

end Credentials.Token.Run
