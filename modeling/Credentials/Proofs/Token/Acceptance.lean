import Credentials.Proofs.Except
import Credentials.Proofs.Token.Compact
import Credentials.Token.Validate

/-!
# Which tokens are accepted

A token is accepted if it is signed under the secret and its payload makes the claims, and these
hold now.

* `Signed` — the text is the compact form of a header that declares one of the three keyed
  algorithms and of a payload, under the signature that belongs to both.
* `Says` — a payload makes claims of a kind, and the registered claims with an expiry among them.
* `verified_eq_ok_iff` — the first two stages of validation give claims if and only if the token is
  signed over a payload that says them. Soundness has to exclude every other split, spelling and
  signature; completeness has to accept every header and every payload that can be read.
* `validateAccess_eq_ok_iff`, `validateRefresh_eq_ok_iff` — all stages for the two kinds of tokens;
  `openRefresh_eq_ok_iff` gives the user of a refresh token as well.
-/

namespace Credentials.Token

/-! ## The signed form -/

/-- The algorithms that sign with a shared secret, with their hash functions. -/
def Algorithm.keyed : List (Algorithm × HashFunction) :=
  [(.hs256, .sha256), (.hs384, .sha384), (.hs512, .sha512)]

/-- The algorithms with a hash function, and which it is. -/
theorem Algorithm.hash?_eq_some_iff {a : Algorithm} {hash : HashFunction} :
    a.hash? = some hash ↔ (a, hash) ∈ keyed := by
  cases a <;> simp [hash?, keyed, eq_comm]

/-- The token is signed under the secret over a payload, with a header that declares how. -/
def Signed (secret token : String) (payload : Bytes) : Prop :=
  ∃ header tree algorithm hash,
    Json.Tree.read? header = some tree ∧ Header.ofTree? tree = some ⟨algorithm⟩ ∧
      (algorithm, hash) ∈ Algorithm.keyed ∧
      token = Compact.text (Compact.encoded header) (Compact.encoded payload)
        (Compact.signature hash secret (Compact.encoded header) (Compact.encoded payload))

/-- The payload makes these claims, and the registered claims with an expiry among them. -/
def Says {α : Type} (read : Json.Tree → Option α) (payload : Bytes) (claims : α) : Prop :=
  ∃ tree, Json.Tree.read? payload = some tree ∧ read tree = some claims ∧
    ∃ expiry : Nat, Registered.expiry? tree = some (some expiry)

/-! ## Stages of validation -/

variable {α : Type}

/-- What is required is what is there. -/
theorem require_eq_ok_iff {value : Option α} {otherwise : Rejection} {a : α} :
    require value otherwise = .ok a ↔ value = some a := by
  cases value <;> simp [require]

/-- A part is read as a value just if it is the encoded form of a JSON text for it. -/
theorem treeOf_eq_ok_iff {part : Bytes} {tree : Json.Tree} :
    treeOf part = .ok tree ↔ ∃ bs, part = Compact.encoded bs ∧ Json.Tree.read? bs = some tree := by
  simp only [treeOf, bind_eq_ok_iff, require_eq_ok_iff]
  constructor
  · rintro ⟨bs, hbs, h⟩
    cases hd : Base64.decode .url part with
    | error fault =>
      rw [hd] at hbs
      cases hbs
    | ok bs' =>
      rw [hd] at hbs
      cases hbs
      exact ⟨bs, Compact.decode_eq_ok_iff.1 hd, h⟩
  · rintro ⟨bs, hpart, h⟩
    rw [Compact.decode_eq_ok_iff.2 hpart]
    exact ⟨bs, rfl, h⟩

/-- A header declares a hash function just if it is encoded JSON that names an algorithm with it. -/
theorem declared_eq_ok_iff {part : Bytes} {hash : HashFunction} :
    declared part = .ok hash ↔ ∃ header tree algorithm, part = Compact.encoded header ∧
      Json.Tree.read? header = some tree ∧ Header.ofTree? tree = some ⟨algorithm⟩ ∧
      (algorithm, hash) ∈ Algorithm.keyed := by
  simp only [declared, bind_eq_ok_iff, require_eq_ok_iff, treeOf_eq_ok_iff,
    Algorithm.hash?_eq_some_iff]
  constructor
  · rintro ⟨tree, ⟨header, hpart, hread⟩, ⟨algorithm⟩, hheader, hash⟩
    exact ⟨header, tree, algorithm, hpart, hread, hheader, hash⟩
  · rintro ⟨header, tree, algorithm, hpart, hread, hheader, hash⟩
    exact ⟨tree, ⟨header, hpart, hread⟩, ⟨algorithm⟩, hheader, hash⟩

/-- Claims are read from a part just if its payload says them. -/
theorem claimsOf_eq_ok_iff {read : Json.Tree → Option α} {part : Bytes} {claims : α} :
    claimsOf read part = .ok claims ↔
      ∃ payload, part = Compact.encoded payload ∧ Says read payload claims := by
  simp only [claimsOf, bind_eq_ok_iff, require_eq_ok_iff, treeOf_eq_ok_iff, Says]
  constructor
  · rintro ⟨tree, ⟨payload, hpart, hread⟩, _, hclaims, _, hexpiry, expiry, rfl, ⟨⟩⟩
    exact ⟨payload, hpart, tree, hread, hclaims, expiry, hexpiry⟩
  · rintro ⟨payload, hpart, tree, hread, hclaims, expiry, hexpiry⟩
    exact ⟨tree, ⟨payload, hpart, hread⟩, claims, hclaims, some expiry, hexpiry, expiry, rfl, rfl⟩

/-- Claims are verified just if the token is signed over a payload that says them. -/
theorem verified_eq_ok_iff {secret token : String} {read : Json.Tree → Option α} {claims : α} :
    verified secret read token = .ok claims ↔
      ∃ payload, Signed secret token payload ∧ Says read payload claims := by
  simp only [verified, bind_eq_ok_iff, require_eq_ok_iff, Prod.exists, declared_eq_ok_iff,
    Compact.split?_eq_some_iff]
  constructor
  · rintro ⟨_, p, s, ⟨htoken, -, -⟩, hash, hdeclared, h⟩
    obtain ⟨header, tree, algorithm, rfl, hread, hheader, hkeyed⟩ := hdeclared
    split at h
    case isTrue hs =>
      -- all three parts are encoded now, so that the text can be compared byte by byte
      obtain ⟨payload, rfl, hsays⟩ := claimsOf_eq_ok_iff.1 h
      refine ⟨payload, ⟨header, tree, algorithm, hash, hread, hheader, hkeyed, ?_⟩, hsays⟩
      rw [hs, Compact.signature, ← Compact.ofString_text] at htoken
      exact Utf8.ofString_injective htoken
    case isFalse => cases h
  · rintro ⟨payload, ⟨header, tree, algorithm, hash, hread, hheader, hkeyed, rfl⟩, hsays⟩
    refine ⟨_, _, _, ⟨Compact.ofString_text _ _ _, Compact.dot_not_mem_encoded _,
      Compact.dot_not_mem_encoded _⟩, hash, ⟨header, tree, algorithm, rfl, hread, hheader, hkeyed⟩,
      ?_⟩
    exact (if_pos rfl).trans (claimsOf_eq_ok_iff.2 ⟨payload, rfl, hsays⟩)

/-! ## Time -/

/-- A token is early before its first second, and else expired after its last one. -/
theorem checkTime_eq (now : Instant) (first : Option Timestamp) (last : Timestamp) :
    checkTime now first last =
      if ∃ t ∈ first, now.second < t.toInt then .error .early
      else if last.toInt < now.second then .error (.expired last)
      else .ok () := by
  unfold checkTime
  cases first with
  | none => simp
  | some t => simp

/-- A token is in time from its first second to its last one, both included. -/
theorem checkTime_eq_ok_iff {now : Instant} {first : Option Timestamp} {last : Timestamp} :
    checkTime now first last = .ok () ↔
      (∀ t ∈ first, t.toInt ≤ now.second) ∧ now.second ≤ last.toInt := by
  rw [checkTime_eq]
  by_cases early : ∃ t ∈ first, now.second < t.toInt
  · rw [if_pos early]
    obtain ⟨t, ht, hlt⟩ := early
    constructor
    · nofun
    · rintro ⟨h, -⟩
      have := h t ht
      omega
  rw [if_neg early]
  by_cases late : last.toInt < now.second
  · rw [if_pos late]
    constructor
    · nofun
    · rintro ⟨-, h⟩
      omega
  · rw [if_neg late]
    refine ⟨fun _ => ⟨?_, by omega⟩, fun _ => rfl⟩
    intro t ht
    apply Int.not_lt.1
    intro h
    exact early ⟨t, ht, h⟩

/-! ## The two kinds of tokens -/

/-- The verdict on the claims of an access token that was verified. -/
def judgeAccess (now : Instant) (claims : AccessClaims) : Except Rejection AccessClaims :=
  if claims.user = .nil then .error .nilUser
  else (checkTime now (some claims.notBefore) claims.expires).map fun _ => claims

/-- An access token is verified, and then its claims are judged. -/
theorem validateAccess_eq (p : Policy) (now : Instant) (token : String) :
    p.validateAccess now token =
      verified p.accessSecret AccessClaims.ofTree? token >>= judgeAccess now := by
  rw [Policy.validateAccess]
  congr 1
  funext claims
  rw [judgeAccess, Uuid.isNil]
  by_cases h : claims.user = .nil
  · simp only [h, decide_true, if_true]
    rfl
  · simp only [h, decide_false, if_false]
    cases checkTime now (some claims.notBefore) claims.expires <;> rfl

/-- A text that does not get past its signature and its claims is refused for that. -/
theorem validateAccess_of_fault {p : Policy} {token : String} {r : Rejection}
    (h : verified p.accessSecret AccessClaims.ofTree? token = .error r) (now : Instant) :
    p.validateAccess now token = .error r := by
  rw [validateAccess_eq, h]
  rfl

/-- Of a text that does get past both, the claims are judged. -/
theorem validateAccess_of_verified {p : Policy} {token : String} {c : AccessClaims}
    (h : verified p.accessSecret AccessClaims.ofTree? token = .ok c) (now : Instant) :
    p.validateAccess now token = judgeAccess now c := by
  rw [validateAccess_eq, h]
  rfl

/-- Only the time decides over access claims that name a user. -/
theorem judgeAccess_eq {c : AccessClaims} (user : c.user ≠ .nil) (now : Instant) :
    judgeAccess now c =
      if now.second < c.notBefore.toInt then .error .early
      else if c.expires.toInt < now.second then .error (.expired c.expires)
      else .ok c := by
  unfold judgeAccess
  rw [if_neg user, checkTime_eq]
  simp only [Option.mem_def, Option.some.injEq, exists_eq_left']
  rw [apply_ite (Except.map _), apply_ite (Except.map _)]
  rfl

/-- Claims for the nil user are refused at any time. -/
theorem judgeAccess_nil {c : AccessClaims} (user : c.user = .nil) (now : Instant) :
    judgeAccess now c = .error .nilUser := if_pos user

/-- Access claims are passed on unchanged, just if they have a user and are in time. -/
theorem judgeAccess_eq_ok_iff {now : Instant} {claims claims' : AccessClaims} :
    judgeAccess now claims' = .ok claims ↔
      claims' = claims ∧ claims.user ≠ .nil ∧
        claims.notBefore.toInt ≤ now.second ∧ now.second ≤ claims.expires.toInt := by
  by_cases h : claims'.user = .nil
  · rw [judgeAccess_nil h]
    constructor
    · nofun
    · rintro ⟨rfl, user, -⟩
      exact absurd h user
  rw [judgeAccess, if_neg h, map_eq_ok_iff]
  constructor
  · rintro ⟨⟨⟩, time, rfl⟩
    obtain ⟨first, last⟩ := checkTime_eq_ok_iff.1 time
    exact ⟨rfl, h, first _ rfl, last⟩
  · rintro ⟨rfl, -, first, last⟩
    refine ⟨(), checkTime_eq_ok_iff.2 ⟨?_, last⟩, rfl⟩
    rintro _ ⟨⟩
    exact first

/-- An access token is accepted if and only if it is signed over claims that hold now. -/
theorem validateAccess_eq_ok_iff {p : Policy} {now : Instant} {token : String}
    {claims : AccessClaims} :
    p.validateAccess now token = .ok claims ↔
      ∃ payload, Signed p.accessSecret token payload ∧
        Says AccessClaims.ofTree? payload claims ∧ claims.user ≠ .nil ∧
        claims.notBefore.toInt ≤ now.second ∧ now.second ≤ claims.expires.toInt := by
  simp only [validateAccess_eq, bind_eq_ok_iff, verified_eq_ok_iff, judgeAccess_eq_ok_iff]
  constructor
  · rintro ⟨_, ⟨payload, hsigned, hsays⟩, rfl, h⟩
    exact ⟨payload, hsigned, hsays, h⟩
  · rintro ⟨payload, hsigned, hsays, h⟩
    exact ⟨claims, ⟨payload, hsigned, hsays⟩, rfl, h⟩

/-- The verdict on the claims of a refresh token that was verified. -/
def judgeRefresh (now : Instant) (claims : RefreshClaims) :
    Except Rejection (RefreshClaims × Uuid) := do
  let user ← require ((Uuid.parse? claims.subject.toList).filter fun u => !u.isNil) .subject
  let _ ← require (Uuid.parse? claims.tokenId.toList) .tokenId
  checkTime now none claims.expires
  return (claims, user)

/-- A refresh token is verified, and then its claims are judged. -/
theorem openRefresh_eq (p : Policy) (now : Instant) (token : String) :
    p.openRefresh now token =
      verified p.refreshSecret RefreshClaims.ofTree? token >>= judgeRefresh now := rfl

/-- What keeps a token from being verified is the error at any time. -/
theorem openRefresh_of_fault {p : Policy} {token : String} {r : Rejection}
    (h : verified p.refreshSecret RefreshClaims.ofTree? token = .error r) (now : Instant) :
    p.openRefresh now token = .error r := by
  rw [openRefresh_eq, h]
  rfl

/-- Once a token is verified, the verdict is that on its claims. -/
theorem openRefresh_of_verified {p : Policy} {token : String} {c : RefreshClaims}
    (h : verified p.refreshSecret RefreshClaims.ofTree? token = .ok c) (now : Instant) :
    p.openRefresh now token = judgeRefresh now c := by
  rw [openRefresh_eq, h]
  rfl

/-- Only the time decides over refresh claims that name a user and the token. -/
theorem judgeRefresh_eq {c : RefreshClaims} {user id : Uuid}
    (subject : Uuid.parse? c.subject.toList = some user) (hnil : user ≠ .nil)
    (tokenId : Uuid.parse? c.tokenId.toList = some id) (now : Instant) :
    judgeRefresh now c =
      if c.expires.toInt < now.second then .error (.expired c.expires) else .ok (c, user) := by
  have notNil : (!user.isNil) = true := by
    rw [Uuid.isNil, decide_eq_false hnil]
    rfl
  unfold judgeRefresh
  rw [subject, Option.filter_some, if_pos notNil, tokenId, checkTime_eq,
    if_neg (by rintro ⟨_, ⟨⟩, _⟩)]
  by_cases past : c.expires.toInt < now.second
  · rw [if_pos past, if_pos past]
    rfl
  · rw [if_neg past, if_neg past]
    rfl

/-- Refresh claims are passed on just if they name a user and a token and are in time. -/
theorem judgeRefresh_eq_ok_iff {now : Instant} {claims claims' : RefreshClaims} {user : Uuid} :
    judgeRefresh now claims' = .ok (claims, user) ↔
      claims' = claims ∧ Uuid.parse? claims.subject.toList = some user ∧ user ≠ .nil ∧
        (∃ id, Uuid.parse? claims.tokenId.toList = some id) ∧
        now.second ≤ claims.expires.toInt := by
  simp only [judgeRefresh, bind_eq_ok_iff, require_eq_ok_iff, Option.filter_eq_some_iff,
    Bool.not_eq_true', Uuid.isNil, decide_eq_false_iff_not]
  constructor
  · rintro ⟨user', ⟨subject, hnil⟩, id, tokenId, ⟨⟩, time, ⟨⟩⟩
    exact ⟨rfl, subject, hnil, ⟨id, tokenId⟩, (checkTime_eq_ok_iff.1 time).2⟩
  · rintro ⟨rfl, subject, hnil, ⟨id, tokenId⟩, time⟩
    exact ⟨user, ⟨subject, hnil⟩, id, tokenId, (), checkTime_eq_ok_iff.2 ⟨nofun, time⟩, rfl⟩

/-- A refresh token is accepted for a user if and only if it is signed over claims that name the
user and hold now. -/
theorem openRefresh_eq_ok_iff {p : Policy} {now : Instant} {token : String}
    {claims : RefreshClaims} {user : Uuid} :
    p.openRefresh now token = .ok (claims, user) ↔
      ∃ payload, Signed p.refreshSecret token payload ∧
        Says RefreshClaims.ofTree? payload claims ∧
        Uuid.parse? claims.subject.toList = some user ∧ user ≠ .nil ∧
        (∃ id, Uuid.parse? claims.tokenId.toList = some id) ∧
        now.second ≤ claims.expires.toInt := by
  simp only [openRefresh_eq, bind_eq_ok_iff, verified_eq_ok_iff, judgeRefresh_eq_ok_iff]
  constructor
  · rintro ⟨_, ⟨payload, hsigned, hsays⟩, rfl, h⟩
    exact ⟨payload, hsigned, hsays, h⟩
  · rintro ⟨payload, hsigned, hsays, h⟩
    exact ⟨claims, ⟨payload, hsigned, hsays⟩, rfl, h⟩

/-- A refresh token that does not open is refused with the same fault whatever it is asked for. -/
theorem refused_of_openRefresh {p : Policy} {now : Instant} {token : String} {r : Rejection}
    (h : p.openRefresh now token = .error r) :
    p.validateUser now token = .error r ∧ p.validateRefresh now token = .error r := by
  unfold Policy.validateUser Policy.validateRefresh
  rw [h]
  exact ⟨rfl, rfl⟩

/-- A refresh token is accepted just if it is signed over claims that name a user and are in
time. -/
theorem validateRefresh_eq_ok_iff {p : Policy} {now : Instant} {token : String}
    {claims : RefreshClaims} :
    p.validateRefresh now token = .ok claims ↔
      ∃ payload, Signed p.refreshSecret token payload ∧
        Says RefreshClaims.ofTree? payload claims ∧
        (∃ user, Uuid.parse? claims.subject.toList = some user ∧ user ≠ .nil) ∧
        (∃ id, Uuid.parse? claims.tokenId.toList = some id) ∧
        now.second ≤ claims.expires.toInt := by
  unfold Policy.validateRefresh
  rw [map_eq_ok_iff]
  constructor
  · rintro ⟨⟨c, user⟩, hopen, rfl⟩
    obtain ⟨payload, hsigned, hsays, subject, hnil, tokenId, time⟩ := openRefresh_eq_ok_iff.1 hopen
    exact ⟨payload, hsigned, hsays, ⟨user, subject, hnil⟩, tokenId, time⟩
  · rintro ⟨payload, hsigned, hsays, ⟨user, subject, hnil⟩, tokenId, time⟩
    refine ⟨(claims, user), ?_, rfl⟩
    rw [openRefresh_eq_ok_iff]
    exact ⟨payload, hsigned, hsays, subject, hnil, tokenId, time⟩

end Credentials.Token
