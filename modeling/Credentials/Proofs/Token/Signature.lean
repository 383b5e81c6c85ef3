import Credentials.Proofs.Token.Minting

/-!
# Minted tokens under any secret

What validation makes of a minted token, whichever secret it was minted with and whatever claims it
is read for.

* `Compact.signedPart` — the part of a token that its signature is over.
* `SameCode` — two secrets give this part the same code.
* `verified_mint` — **the signature stage lets a minted token pass if and only if the two secrets give
  the same code**, and then only its claims count.
* `claimsOf_unread`, `claimsOf_noExpiry` — the two faults that its claims can have.
* `accessClaims_eq_of_mint_eq`, `refreshClaims_eq_of_mint_eq` — two tokens that are the same say the
  same, under any secrets.
-/

namespace Credentials.Token

open Json

/-! ## What is signed -/

namespace Compact

/-- The part of a token that its signature is over: all that stands before the last full stop. -/
def signedPart (token : String) : Bytes :=
  ((splitLast? (Utf8.ofString token)).map Prod.fst).getD []

/-- A token is signed over its first two parts. -/
theorem signedPart_text (a b c : Bytes) :
    signedPart (text (encoded a) (encoded b) (encoded c)) = encoded a ++ dot :: encoded b := by
  have split : splitLast? (Utf8.ofString (text (encoded a) (encoded b) (encoded c))) =
      some (encoded a ++ dot :: encoded b, encoded c) := by
    rw [ofString_text, splitLast?_eq_some_iff]
    exact ⟨rfl, dot_not_mem_encoded c⟩
  rw [signedPart, split]
  rfl

/-- Two secrets sign alike just if they give the same code. -/
theorem signature_eq_iff {hash : HashFunction} {secret secret' : String} {header payload : Bytes} :
    signature hash secret header payload = signature hash secret' header payload ↔
      Hmac.code hash (Utf8.ofString secret) (header ++ dot :: payload) =
        Hmac.code hash (Utf8.ofString secret') (header ++ dot :: payload) := by
  constructor
  · exact encoded_injective
  · intro h
    unfold signature
    rw [h]

end Compact

/-- Two secrets give the signed part of a token the same code. -/
def SameCode (secret secret' token : String) : Prop :=
  Hmac.code .sha256 (Utf8.ofString secret) (Compact.signedPart token) =
    Hmac.code .sha256 (Utf8.ofString secret') (Compact.signedPart token)

instance (secret secret' token : String) : Decidable (SameCode secret secret' token) :=
  inferInstanceAs (Decidable (_ = _))

/-- A secret gives the code that it gives. -/
theorem SameCode.refl (secret token : String) : SameCode secret secret token := rfl

/-! ## The signature of a minted token -/

/-- The header of the tokens that are minted here, as it stands in them. -/
def mintedHeader : Bytes := Compact.encodedJson (Header.toJson ⟨signingAlgorithm⟩)

/-- The header of a minted token declares the algorithm that it was signed with. -/
theorem declared_mintedHeader : declared mintedHeader = .ok .sha256 := by
  rw [declared_eq_ok_iff]
  refine ⟨_, _, signingAlgorithm, rfl, read?_render _, Header.ofTree?_toJson _, ?_⟩
  exact List.mem_cons_self

variable {α : Type} (secret secret' : String) (read : Tree → Option α) (claims : Json)

/-- The parts of a minted token. -/
theorem split?_mint :
    Compact.split? (Utf8.ofString (mint secret claims)) =
      some (mintedHeader, Compact.encodedJson claims,
        Compact.signature .sha256 secret mintedHeader (Compact.encodedJson claims)) := by
  rw [Compact.split?_eq_some_iff]
  refine ⟨?_, Compact.dot_not_mem_encoded _, Compact.dot_not_mem_encoded _⟩
  exact Compact.ofString_text _ _ _

/-- The signature of a minted token is over its header and its claims. -/
theorem signedPart_mint :
    Compact.signedPart (mint secret claims) =
      mintedHeader ++ Compact.dot :: Compact.encodedJson claims :=
  Compact.signedPart_text _ _ _

/-- Two secrets give a minted token the same code just if they sign its claims alike. -/
theorem sameCode_mint_iff :
    SameCode secret secret' (mint secret claims) ↔
      Compact.signature .sha256 secret mintedHeader (Compact.encodedJson claims) =
        Compact.signature .sha256 secret' mintedHeader (Compact.encodedJson claims) := by
  rw [SameCode, signedPart_mint, Compact.signature_eq_iff]

/-- A minted token gets past the signature under just those secrets that give it the same code. -/
theorem verified_mint :
    verified secret' read (mint secret claims) =
      if SameCode secret secret' (mint secret claims) then
        claimsOf read (Compact.encodedJson claims)
      else .error .signature := by
  unfold verified
  rw [split?_mint]
  show (declared mintedHeader >>= fun hash =>
    if Compact.signature .sha256 secret mintedHeader (Compact.encodedJson claims) =
        Compact.signature hash secret' mintedHeader (Compact.encodedJson claims) then
      claimsOf read (Compact.encodedJson claims)
    else .error .signature) = _
  rw [declared_mintedHeader]
  by_cases same : SameCode secret secret' (mint secret claims)
  · rw [if_pos same]
    exact if_pos ((sameCode_mint_iff _ _ _).1 same)
  · rw [if_neg same]
    exact if_neg (mt (sameCode_mint_iff _ _ _).2 same)

/-- Under its own secret only the claims of a minted token count. -/
theorem verified_mint_self :
    verified secret read (mint secret claims) = claimsOf read (Compact.encodedJson claims) := by
  rw [verified_mint, if_pos (SameCode.refl _ _)]

/-! ## The claims of a minted token -/

variable {read}

/-- An encoded value is read back. -/
theorem treeOf_encodedJson (j : Json) : treeOf (Compact.encodedJson j) = .ok (tree j) :=
  treeOf_eq_ok_iff.2 ⟨_, rfl, read?_render j⟩

/-- A payload that says no claims of the kind is not the JSON that it should be. -/
theorem claimsOf_unread {j : Json} (h : read (tree j) = none) :
    claimsOf read (Compact.encodedJson j) = .error .json := by
  unfold claimsOf
  rw [treeOf_encodedJson]
  show (require (read (tree j)) .json >>= _) = _
  rw [h]
  rfl

/-- A payload that says the claims, but no expiry that fits 64 bits without a sign. -/
theorem claimsOf_noExpiry {j : Json} {claims : α} (h : read (tree j) = some claims)
    (expiry : Registered.expiry? (tree j) = some none) :
    claimsOf read (Compact.encodedJson j) = .error .noExpiry := by
  unfold claimsOf
  rw [treeOf_encodedJson]
  show (require (read (tree j)) .json >>= fun claims =>
    require (Registered.expiry? (tree j)) .json >>= _) = _
  rw [h, expiry]
  rfl

/-! ## Tokens that are the same -/

/-- A token says one thing only, under whatever secret it was minted. -/
theorem tree_eq_of_mint_eq {secret secret' : String} {claims claims' : Json}
    (h : mint secret claims = mint secret' claims') : tree claims = tree claims' := by
  have parts := split?_mint secret claims
  rw [h, split?_mint] at parts
  have payloads : Compact.encodedJson claims' = Compact.encodedJson claims :=
    congrArg (fun p => p.2.1) (Option.some.inj parts)
  have read := read?_render claims
  rw [← Compact.encoded_injective payloads, read?_render] at read
  exact (Option.some.inj read).symm

/-- A token tells its access claims, whatever the secrets. -/
theorem accessClaims_eq_of_mint_eq {secret secret' : String} {c c' : AccessClaims}
    (h : mint secret c.toJson = mint secret' c'.toJson) : c = c' := by
  have read := AccessClaims.ofTree?_toJson c
  rw [tree_eq_of_mint_eq h, AccessClaims.ofTree?_toJson] at read
  exact (Option.some.inj read).symm

/-- A token tells its refresh claims, whatever the secrets. -/
theorem refreshClaims_eq_of_mint_eq {secret secret' : String} {c c' : RefreshClaims}
    (h : mint secret c.toJson = mint secret' c'.toJson) : c = c' := by
  have read := RefreshClaims.ofTree?_toJson c
  rw [tree_eq_of_mint_eq h, RefreshClaims.ofTree?_toJson] at read
  exact (Option.some.inj read).symm

end Credentials.Token
