import Credentials.Proofs.Config.Variables
import Credentials.Proofs.Time.Shift
import Credentials.Proofs.Token.Signature

/-!
# Expiry of minted tokens

The claims of a token say the second in which it was issued and the last second of its use. Both are
rounded down, the second of them after the lifetime has been added.

* `Policy.Dates` — the times that a token says, whichever its kind.
* `Policy.Dates.exists_expiry` — they are the seconds of the issue and of what the lifetime leads to.
* `expiry_arithmetic` — **how far apart the two times are**, and that a token which is issued later
  never expires earlier.
-/

namespace Credentials.Token

/-- The policy issues a token at this instant, and its claims say these times of issue and expiry.
Which lifetime counts depends on the kind of the token. -/
inductive Policy.Dates (p : Policy) (now : Instant) : Span → Timestamp → Timestamp → Prop where
  | access {user : Uuid} {role : String} {c : AccessClaims} :
      p.issueAccess now user role = .ok (mint p.accessSecret c.toJson) →
      Dates p now p.accessLifetime c.issuedAt c.expires
  | refresh {user : Uuid} {draw : Vector UInt8 16} {r : RefreshToken} {c : RefreshClaims} :
      p.issueRefresh now user draw = .ok r → r.token = mint p.refreshSecret c.toJson →
      Dates p now p.refreshLifetime c.issuedAt c.expires

variable {p : Policy} {now : Instant} {user : Uuid} {lifetime : Span} {issued expires : Timestamp}

namespace Policy

/-! ## Tokens and their times -/

/-- An access token is issued if there is a user and its lifetime leads to an instant. -/
theorem exists_accessClaims (hnil : user ≠ .nil) (inRange : ¬ now.Overflows p.accessLifetime)
    (role : String) :
    ∃ c : AccessClaims, p.issueAccess now user role = .ok (mint p.accessSecret c.toJson) := by
  obtain ⟨expiry, shift⟩ := Instant.exists_shift inRange
  exact ⟨.issue user role now expiry, issueAccess_eq_ok_iff.2 ⟨hnil, expiry, shift, rfl⟩⟩

/-- A refresh token is issued if there is a user and its lifetime leads to an instant. -/
theorem exists_refreshClaims (hnil : user ≠ .nil) (inRange : ¬ now.Overflows p.refreshLifetime)
    (draw : Vector UInt8 16) :
    ∃ r, ∃ c : RefreshClaims, p.issueRefresh now user draw = .ok r ∧
      r.token = mint p.refreshSecret c.toJson := by
  obtain ⟨expiry, shift⟩ := Instant.exists_shift inRange
  let c : RefreshClaims := .issue user (.ofRandom draw) now expiry
  let r : RefreshToken := ⟨mint p.refreshSecret c.toJson, .ofRandom draw, expiry.floor⟩
  exact ⟨r, c, issueRefresh_eq_ok_iff.2 ⟨hnil, expiry, shift, rfl, rfl, rfl⟩, rfl⟩

/-- The times that a token says are those of its issue and of what its lifetime leads to. -/
theorem Dates.exists_expiry (h : p.Dates now lifetime issued expires) :
    ∃ expiry, now.shift? lifetime = some expiry ∧ issued.toInt = now.second ∧
      expires.toInt = expiry.second := by
  cases h with
  | access issue =>
    obtain ⟨-, expiry, shift, same⟩ := issueAccess_eq_ok_iff.1 issue
    obtain rfl := accessClaims_eq_of_mint_eq same
    exact ⟨expiry, shift, toInt_timestamp now, toInt_timestamp expiry⟩
  | refresh issue token =>
    obtain ⟨-, expiry, shift, -, -, same⟩ := issueRefresh_eq_ok_iff.1 issue
    obtain rfl := refreshClaims_eq_of_mint_eq (token.symm.trans same)
    exact ⟨expiry, shift, toInt_timestamp now, toInt_timestamp expiry⟩

/-! ## Between issue and expiry -/

/-- Away from leap seconds this is the lifetime, rounded down to seconds, or a second more. -/
theorem Dates.sub_of_steady (h : p.Dates now lifetime issued expires)
    (steady : now.isLeap = false) : expires.toInt - issued.toInt = lifetime.second ∨
      expires.toInt - issued.toInt = lifetime.second + 1 := by
  obtain ⟨expiry, shift, hissued, hexpires⟩ := h.exists_expiry
  rw [hissued, hexpires]
  rcases Instant.second_of_shift steady shift with gained | gained
  · left
    omega
  · right
    omega

/-- For whole seconds it is the lifetime, but for one on the way back out of a leap second. -/
theorem Dates.sub_of_whole (h : p.Dates now lifetime issued expires) (whole : lifetime.nano = 0) :
    expires.toInt - issued.toInt =
      if now.isLeap ∧ lifetime.second < 0 then lifetime.second + 1 else lifetime.second := by
  obtain ⟨expiry, shift, hissued, hexpires⟩ := h.exists_expiry
  rw [hissued, hexpires, Instant.second_of_whole_shift whole shift]
  split <;> omega

/-- Who is issued a token later has one that expires no earlier, for a lifetime of whole seconds. -/
theorem Dates.expires_le {q : Policy} {later : Instant} {issued' expires' : Timestamp}
    (h : p.Dates now lifetime issued expires) (h' : q.Dates later lifetime issued' expires')
    (whole : lifetime.nano = 0) (le : now ≤ later) : expires ≤ expires' := by
  obtain ⟨expiry, shift, -, hexpires⟩ := h.exists_expiry
  obtain ⟨expiry', shift', -, hexpires'⟩ := h'.exists_expiry
  rw [Int64.le_iff_toInt_le, hexpires, hexpires']
  exact Instant.second_le_of_whole_shift whole le shift shift'

end Policy

/-- **The expiry of minted tokens.** A token is issued for every user but the nil one, unless its
lifetime overflows. Away from leap seconds its times are as many seconds apart as its lifetime has,
rounded down, or one more. A lifetime of whole seconds, such as every policy from settings has, is
met exactly, but a negative one loses a second when it leads out of a leap second; and of two tokens
with such a lifetime, the one that is issued later never expires earlier. -/
theorem expiry_arithmetic :
    (∀ (p : Policy) (now : Instant) (user : Uuid), user ≠ .nil →
      (¬ now.Overflows p.accessLifetime → ∀ role, ∃ c : AccessClaims,
        p.issueAccess now user role = .ok (mint p.accessSecret c.toJson)) ∧
      (¬ now.Overflows p.refreshLifetime → ∀ draw, ∃ r, ∃ c : RefreshClaims,
        p.issueRefresh now user draw = .ok r ∧ r.token = mint p.refreshSecret c.toJson)) ∧
    (∀ (p : Policy) (now : Instant) (lifetime : Span) (issued expires : Timestamp),
      p.Dates now lifetime issued expires →
      issued.toInt = now.second ∧
      (now.isLeap = false → expires.toInt - issued.toInt = lifetime.second ∨
        expires.toInt - issued.toInt = lifetime.second + 1) ∧
      (lifetime.nano = 0 → expires.toInt - issued.toInt =
        if now.isLeap ∧ lifetime.second < 0 then lifetime.second + 1 else lifetime.second)) ∧
    (∀ (p q : Policy) (now later : Instant) (lifetime : Span)
      (issued expires issued' expires' : Timestamp), lifetime.nano = 0 → now ≤ later →
      p.Dates now lifetime issued expires → q.Dates later lifetime issued' expires' →
      expires ≤ expires') ∧
    ∀ (env : Config.Environment) (candidates : List Config.SettingsFile.Candidate) (p : Policy),
      (Config.Settings.readPolicy env candidates).1 = .returned (.ok p) →
      p.accessLifetime.nano = 0 ∧ p.refreshLifetime.nano = 0 := by
  refine ⟨?issued, ?apart, ?later, ?settings⟩
  case issued =>
    intro p now user hnil
    exact ⟨Policy.exists_accessClaims hnil, Policy.exists_refreshClaims hnil⟩
  case apart =>
    intro p now lifetime issued expires dates
    obtain ⟨-, -, hissued, -⟩ := dates.exists_expiry
    exact ⟨hissued, dates.sub_of_steady, dates.sub_of_whole⟩
  case later =>
    intro p q now later lifetime issued expires issued' expires' whole le dates dates'
    exact dates.expires_le dates' whole le
  case settings =>
    intro env candidates p read
    obtain ⟨-, good⟩ := Config.Settings.outcome_eq_returned_iff.1 read
    obtain ⟨-, -, ⟨minutes, -⟩, days, -⟩ := Config.Settings.policy_eq_ok_iff.1 good
    exact ⟨minutes, days⟩

/-- A refresh token from the end of a leap second and an access token from the second after it, both
of which expired an hour before their issue: they expire in the same second. -/
theorem expiry_arithmetic_leap_second :
    ∃ ago ∈ Span.ofUnits? 3600 (-1), ∃ leap ∈ Instant.of? 59 1999999999, ∃ next ∈ Instant.of? 60 0,
      let p : Policy := ⟨"a", "b", ago, ago⟩
      ∃ issued expires issued' expires', p.Dates leap ago issued expires ∧
        p.Dates next ago issued' expires' ∧ expires.toInt - issued.toInt = -3599 ∧
        expires'.toInt - issued'.toInt = -3600 ∧ expires ≤ expires' := by
  let ago : Span := ⟨-3600, 0, by omega, by omega⟩
  let leap : Instant := ⟨59, 1999999999, by omega, by omega, by omega⟩
  let next : Instant := ⟨60, 0, by omega, by omega, by omega⟩
  refine ⟨ago, rfl, leap, rfl, next, rfl, ?_⟩
  intro p
  obtain ⟨issue, apart, later, -⟩ := expiry_arithmetic
  have user : (⟨Vector.replicate 16 1⟩ : Uuid) ≠ .nil := by decide
  obtain ⟨r, c, refresh, token⟩ := (issue p leap _ user).2 (by decide) (Vector.replicate 16 0)
  obtain ⟨c', access⟩ := (issue p next _ user).1 (by decide) "bidder"
  have first : p.Dates leap ago c.issuedAt c.expires := .refresh refresh token
  have second : p.Dates next ago c'.issuedAt c'.expires := .access access
  obtain ⟨-, -, back⟩ := apart p leap ago _ _ first
  obtain ⟨-, -, back'⟩ := apart p next ago _ _ second
  refine ⟨_, _, _, _, first, second, ?_, ?_, ?_⟩
  · exact (back rfl).trans (by decide)
  · exact (back' rfl).trans (by decide)
  · exact later p p leap next ago _ _ _ _ rfl (.inl (by decide)) first second

end Credentials.Token
