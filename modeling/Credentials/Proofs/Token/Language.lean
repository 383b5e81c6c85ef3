import Credentials.Proofs.Token.Minting

/-!
# The language of accepted tokens

* `Signed.parts` — a signed text in three pieces: the header and the payload are encoded, and the
  signature is the one that the declared algorithm gives to them.
* `Signed.signature_unique` — for a header and a payload there is just one signature.
* `accepted_iff_signed` — **acceptance is exactly the signed language**, for the two kinds of
  tokens, at every instant.
-/

namespace Credentials.Token

/-! ## Signed texts -/

section signed

variable {secret : String} {payload : Bytes}

/-- A signed token has two full stops. -/
theorem Signed.count_dot {token : String} (hs : Signed secret token payload) :
    token.toList.count '.' = 2 := by
  obtain ⟨header, tree, algorithm, hash, -, -, -, rfl⟩ := hs
  exact Compact.count_dot_text _ _ _

/-- The pieces of a signed text. -/
theorem Signed.parts {h m s : String} (hs : Signed secret (h ++ "." ++ m ++ "." ++ s) payload) :
    ∃ header tree algorithm hash,
      Json.Tree.read? header = some tree ∧ Header.ofTree? tree = some ⟨algorithm⟩ ∧
        (algorithm, hash) ∈ Algorithm.keyed ∧
        Utf8.ofString h = Compact.encoded header ∧
        Utf8.ofString s = Compact.signature hash secret (Utf8.ofString h) (Utf8.ofString m) := by
  have split := Compact.split?_pieces hs.count_dot
  obtain ⟨header, tree, algorithm, hash, hread, hheader, hkeyed, htoken⟩ := hs
  refine ⟨header, tree, algorithm, hash, hread, hheader, hkeyed, ?_⟩
  rw [htoken, Compact.signature, Compact.ofString_text, Compact.split?_eq_some_iff.2
    ⟨rfl, Compact.dot_not_mem_encoded _, Compact.dot_not_mem_encoded _⟩] at split
  simp only [Option.some.injEq, Prod.mk.injEq] at split
  obtain ⟨hh, hm, hsig⟩ := split
  rw [← hh, ← hm, ← hsig]
  exact ⟨rfl, rfl⟩

/-- For a header and a payload there is just one signature. -/
theorem Signed.signature_unique {payload' : Bytes} {h m s s' : String}
    (hs : Signed secret (h ++ "." ++ m ++ "." ++ s) payload)
    (hs' : Signed secret (h ++ "." ++ m ++ "." ++ s') payload') : s = s' := by
  obtain ⟨header, tree, algorithm, hash, hread, hheader, hkeyed, hh, hsig⟩ := hs.parts
  obtain ⟨header', tree', algorithm', hash', hread', hheader', hkeyed', hh', hsig'⟩ := hs'.parts
  -- both texts have the same header, which settles the hash function
  obtain rfl : header = header' := Compact.encoded_injective (hh.symm.trans hh')
  obtain rfl : tree = tree' := Option.some.inj (hread.symm.trans hread')
  have halgorithm : algorithm = algorithm' :=
    congrArg Header.algorithm (Option.some.inj (hheader.symm.trans hheader'))
  have hhash : hash = hash' := by
    rw [← Algorithm.hash?_eq_some_iff] at hkeyed hkeyed'
    rw [← halgorithm] at hkeyed'
    exact Option.some.inj (hkeyed.symm.trans hkeyed')
  apply Utf8.ofString_injective
  rw [hsig, hsig', hhash]

end signed

/-! ## The two languages -/

/-- The text is accepted as an access token at some instant. -/
def Policy.AcceptsAccess (p : Policy) (token : String) : Prop :=
  ∃ now claims, p.validateAccess now token = .ok claims

/-- The text is accepted as a refresh token at some instant. -/
def Policy.AcceptsRefresh (p : Policy) (token : String) : Prop :=
  ∃ now claims, p.validateRefresh now token = .ok claims

/-- What is accepted as an access token is signed under the access secret. -/
theorem Policy.AcceptsAccess.signed {p : Policy} {token : String} (h : p.AcceptsAccess token) :
    ∃ payload, Signed p.accessSecret token payload := by
  obtain ⟨now, claims, h⟩ := h
  obtain ⟨payload, hsigned, -⟩ := validateAccess_eq_ok_iff.1 h
  exact ⟨payload, hsigned⟩

/-- What is accepted as a refresh token is signed under the refresh secret. -/
theorem Policy.AcceptsRefresh.signed {p : Policy} {token : String} (h : p.AcceptsRefresh token) :
    ∃ payload, Signed p.refreshSecret token payload := by
  obtain ⟨now, claims, h⟩ := h
  obtain ⟨payload, hsigned, -⟩ := validateRefresh_eq_ok_iff.1 h
  exact ⟨payload, hsigned⟩

/-- **Acceptance is exactly the signed language.** A text is an access token with certain claims at
an instant if and only if it has exactly two full stops, is signed under the secret over a payload
that makes these claims, and the claims hold at that instant; likewise a refresh token. A header and
a payload have at most one signature with which they are ever accepted. -/
theorem accepted_iff_signed (p : Policy) (now : Instant) :
    (∀ token claims, p.validateAccess now token = .ok claims ↔
      token.toList.count '.' = 2 ∧ ∃ payload, Signed p.accessSecret token payload ∧
        Says AccessClaims.ofTree? payload claims ∧ claims.user ≠ .nil ∧
        claims.notBefore ≤ timestamp now ∧ timestamp now ≤ claims.expires) ∧
    (∀ token claims, p.validateRefresh now token = .ok claims ↔
      token.toList.count '.' = 2 ∧ ∃ payload, Signed p.refreshSecret token payload ∧
        Says RefreshClaims.ofTree? payload claims ∧
        (∃ user, Uuid.parse? claims.subject.toList = some user ∧ user ≠ .nil) ∧
        (∃ id, Uuid.parse? claims.tokenId.toList = some id) ∧ timestamp now ≤ claims.expires) ∧
    ∀ h m s s' : String,
      (p.AcceptsAccess (h ++ "." ++ m ++ "." ++ s) →
        p.AcceptsAccess (h ++ "." ++ m ++ "." ++ s') → s = s') ∧
      (p.AcceptsRefresh (h ++ "." ++ m ++ "." ++ s) →
        p.AcceptsRefresh (h ++ "." ++ m ++ "." ++ s') → s = s') := by
  refine ⟨?access, ?refresh, ?unique⟩
  case access =>
    intro token claims
    simp only [timestamp_le_iff, le_timestamp_iff]
    rw [validateAccess_eq_ok_iff]
    constructor
    · rintro ⟨payload, hsigned, h⟩
      exact ⟨hsigned.count_dot, payload, hsigned, h⟩
    · rintro ⟨-, h⟩
      exact h
  case refresh =>
    intro token claims
    simp only [timestamp_le_iff]
    rw [validateRefresh_eq_ok_iff]
    constructor
    · rintro ⟨payload, hsigned, h⟩
      exact ⟨hsigned.count_dot, payload, hsigned, h⟩
    · rintro ⟨-, h⟩
      exact h
  case unique =>
    intro h m s s'
    constructor
    · intro hs hs'
      obtain ⟨_, hsigned⟩ := hs.signed
      obtain ⟨_, hsigned'⟩ := hs'.signed
      exact hsigned.signature_unique hsigned'
    · intro hs hs'
      obtain ⟨_, hsigned⟩ := hs.signed
      obtain ⟨_, hsigned'⟩ := hs'.signed
      exact hsigned.signature_unique hsigned'

/-- A token that was signed elsewhere with another algorithm is accepted, but not with a padded
signature. -/
theorem padded_signature_refused :
    ∃ hour ∈ Span.ofUnits? 3600 1, ∃ epoch ∈ Instant.ofSecond? 0,
      let p : Policy := ⟨"a", "r", hour, hour⟩
      let claims : AccessClaims := ⟨⟨Vector.replicate 16 1⟩, "\"admin\"", 0, 0, 0⟩
      let h := Compact.encodedJson (Header.toJson ⟨.hs512⟩)
      let m := Compact.encodedJson claims.toJson
      let s := Compact.signature .sha512 "a" h m
      let message := String.ofList h.chars ++ "." ++ String.ofList m.chars
      let signature := String.ofList s.chars
      p.validateAccess epoch (message ++ "." ++ signature) = .ok claims ∧
        ¬ p.AcceptsAccess (message ++ "." ++ (signature ++ "=")) := by
  let hour : Span := ⟨3600, 0, by omega, by omega⟩
  let epoch : Instant := ⟨0, 0, by omega, by omega, by omega⟩
  refine ⟨hour, rfl, epoch, rfl, ?_⟩
  intro p claims h m s message signature
  obtain ⟨access, -, unique⟩ := accepted_iff_signed p epoch
  have hsigned : Signed "a" (message ++ "." ++ signature) (Utf8.encode claims.toJson.render) := by
    have hs := signed_sign (Algorithm.hash?_eq_some_iff.1 (rfl : Algorithm.hs512.hash? = _)) "a"
      claims.toJson
    rwa [Compact.sign, ← Compact.text, Compact.text_eq_pieces] at hs
  have haccepted : p.validateAccess epoch (message ++ "." ++ signature) = .ok claims := by
    rw [access]
    exact ⟨hsigned.count_dot, _, hsigned, says_access (by decide), by decide, by decide, by decide⟩
  refine ⟨haccepted, ?_⟩
  intro hpadded
  have heq : signature = signature ++ "=" :=
    (unique _ _ signature (signature ++ "=")).1 ⟨epoch, claims, haccepted⟩ hpadded
  have hlength := congrArg String.length heq
  rw [String.length_append] at hlength
  have : "=".length = 1 := rfl
  omega

end Credentials.Token
