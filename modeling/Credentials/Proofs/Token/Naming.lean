import Credentials.Proofs.Token.Verdict

/-!
# Whom refresh tokens name

A refresh token says in text whom it is for and which token it is. Both texts may have any of the
forms of an identifier, and the user must not be the nil one.

* `RefreshClaims.Names` — the claims name a user.
* `Carries` — the token is signed over claims that are in time; a minted one is
  (`carries_mint`).
* `user_named` — **the user of such a token is the one that its claims name**, and if they name none
  it is invalid. Two subjects stand for one user if and only if they are forms of one identifier.
-/

namespace Credentials.Token

/-- The subject is a form of the user, who is not the nil one, and the token has an identifier. -/
def RefreshClaims.Names (c : RefreshClaims) (user : Uuid) : Prop :=
  user ≠ .nil ∧ user.Form c.subject.toList ∧ ∃ id : Uuid, id.Form c.tokenId.toList

/-- The token is signed over the claims, whatever its header is, and they have an expiry that is not
over. -/
structure Carries (p : Policy) (now : Instant) (token : String) (c : RefreshClaims) : Prop where
  /-- The payload is the text of the claims. -/
  signed : Signed p.refreshSecret token (Utf8.encode c.toJson.render)
  /-- The expiry is not negative. -/
  nonneg : 0 ≤ c.expires.toInt
  /-- It is not over. -/
  inTime : timestamp now ≤ c.expires

variable {p : Policy} {now : Instant} {token token' : String} {c c' : RefreshClaims}

/-- A minted token carries its claims until they expire. -/
theorem carries_mint (p : Policy) (nonneg : 0 ≤ c.expires.toInt)
    (inTime : timestamp now ≤ c.expires) : Carries p now (mint p.refreshSecret c.toJson) c :=
  ⟨signed_mint _ _, nonneg, inTime⟩

/-! ## Verdicts -/

/-- Only the names decide over claims that are in time. -/
theorem Carries.openRefresh_eq (h : Carries p now token c) :
    p.openRefresh now token = judgeRefresh now c := by
  apply openRefresh_of_verified
  rw [verified_eq_ok_iff]
  exact ⟨_, h.signed, says_refresh h.nonneg⟩

/-- The user that is read is the one that the claims name. -/
theorem Carries.validateUser_eq_ok_iff (h : Carries p now token c) {user : Uuid} :
    p.validateUser now token = .ok user ↔ c.Names user := by
  unfold Policy.validateUser RefreshClaims.Names
  simp only [h.openRefresh_eq, map_eq_ok_iff, Prod.exists, judgeRefresh_eq_ok_iff,
    Uuid.parse?_eq_some_iff]
  constructor
  · rintro ⟨_, _, ⟨rfl, subject, hnil, tokenId, -⟩, rfl⟩
    exact ⟨hnil, subject, tokenId⟩
  · rintro ⟨hnil, subject, tokenId⟩
    exact ⟨c, user, ⟨rfl, subject, hnil, tokenId, timestamp_le_iff.1 h.inTime⟩, rfl⟩

/-- A token whose claims name no user is invalid. -/
theorem Carries.invalid_of_unnamed (h : Carries p now token c) (unnamed : ∀ user, ¬ c.Names user) :
    (p.validateUser now token).mapError Rejection.error = .error .invalid := by
  have notNamed : ¬ c.Named := by
    rintro ⟨user, id, subject, hnil, tokenId⟩
    apply unnamed user
    exact ⟨hnil, Uuid.parse?_eq_some_iff.1 subject, id, Uuid.parse?_eq_some_iff.1 tokenId⟩
  rw [Policy.validateUser, h.openRefresh_eq, mapError_map, judgeRefresh_unnamed notNamed]
  rfl

/-- **The user of a refresh token is the one that its claims name.** Of a token that is signed over
claims in time, the subject and the identifier may have any form; if the subject is a form of no
user, or the identifier of nothing, the token is invalid. Two tokens have one user if and only if
their subjects are forms of one identifier, and no text is a form of two. -/
theorem user_named (p : Policy) (now : Instant) :
    (∀ c : RefreshClaims, 0 ≤ c.expires.toInt → timestamp now ≤ c.expires →
      Carries p now (mint p.refreshSecret c.toJson) c) ∧
    (∀ token c, Carries p now token c →
      (∀ user, p.validateUser now token = .ok user ↔ c.Names user) ∧
      ((∀ user, ¬ c.Names user) →
        (p.validateUser now token).mapError Rejection.error = .error .invalid)) ∧
    (∀ token c token' c', Carries p now token c → Carries p now token' c' →
      ∀ user user', p.validateUser now token = .ok user → p.validateUser now token' = .ok user' →
        ((∃ u : Uuid, u.Form c.subject.toList ∧ u.Form c'.subject.toList) ↔ user = user')) ∧
    ∀ (text : String) (u v : Uuid), u.Form text.toList → v.Form text.toList → u = v := by
  refine ⟨fun c nonneg inTime => carries_mint p nonneg inTime, ?verdict, ?users,
    fun text u v => Uuid.Form.unique⟩
  case verdict =>
    intro token c h
    exact ⟨fun user => h.validateUser_eq_ok_iff, h.invalid_of_unnamed⟩
  case users =>
    intro token c token' c' h h' user user' accepted accepted'
    obtain ⟨-, subject, -⟩ := h.validateUser_eq_ok_iff.1 accepted
    obtain ⟨-, subject', -⟩ := h'.validateUser_eq_ok_iff.1 accepted'
    constructor
    · rintro ⟨u, form, form'⟩
      exact (subject.unique form).trans (form'.unique subject')
    · rintro rfl
      exact ⟨user, subject, subject'⟩

/-- A subject in capitals behind `URN:UUID:`, with the nil identifier for the token, and the nil
subject, in the last second of use. -/
theorem user_named_in_capitals :
    ∃ hour ∈ Span.ofUnits? 3600 1, ∃ epoch ∈ Instant.ofSecond? 0,
      let p : Policy := ⟨"a", "r", hour, hour⟩
      let zeros := "00000000000000000000000000000000"
      let c : RefreshClaims := ⟨"URN:UUID:ABABABAB-ABAB-ABAB-ABAB-ABABABABABAB", zeros, 0, 0⟩
      let c' : RefreshClaims := ⟨zeros, zeros, 0, 0⟩
      p.validateUser epoch (mint "r" c.toJson) = .ok ⟨Vector.replicate 16 0xAB⟩ ∧
        (p.validateUser epoch (mint "r" c'.toJson)).mapError Rejection.error = .error .invalid := by
  let hour : Span := ⟨3600, 0, by omega, by omega⟩
  let epoch : Instant := ⟨0, 0, by omega, by omega, by omega⟩
  refine ⟨hour, rfl, epoch, rfl, ?_⟩
  intro p zeros c c'
  obtain ⟨minted, verdict, -⟩ := user_named p epoch
  have nilForm : Uuid.nil.Form zeros.toList := Uuid.parse?_eq_some_iff.1 (by decide)
  obtain ⟨accepted, -⟩ := verdict _ c (minted c (by decide) (by decide))
  obtain ⟨-, refused⟩ := verdict _ c' (minted c' (by decide) (by decide))
  constructor
  · rw [accepted]
    exact ⟨by decide, Uuid.parse?_eq_some_iff.1 (by decide), .nil, nilForm⟩
  · apply refused
    rintro user ⟨hnil, subject, -⟩
    exact hnil (subject.unique nilForm)

end Credentials.Token
