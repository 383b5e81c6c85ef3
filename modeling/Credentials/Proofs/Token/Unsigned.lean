import Credentials.Proofs.Token.Minting
import Credentials.Proofs.Token.Runs
import Credentials.Proofs.Token.Verdict

/-!
# Unsigned tokens

Of a token that is not signed under the secret, only the header is looked at. Its payload and its
signature leave no trace in the answer or in the log.

* `Check` — the three things that can be asked about a token.
* `Declares` — a text is an encoded header that names an algorithm; `Unsigned` — a signature is not
  the one that a header and a payload have under a secret.
* `faultOf` — what is wrong with an unsigned token, as a function of its header alone, and
  `outcome_unsigned`: every check of an unsigned token says so and logs so.
* `unsigned_unread` — **two unsigned tokens with one header cannot be told apart**, and a header that
  declares another kind of algorithm, or none, settles the outcome for all payloads, all signatures,
  all secrets and all times.
-/

namespace Credentials.Token

open Json

/-! ## Checks -/

/-- What can be asked about a token. -/
inductive Check where
  /-- The claims of an access token. -/
  | access
  /-- The claims of a refresh token. -/
  | refresh
  /-- The user of a refresh token. -/
  | user

namespace Check

/-- The secret that the token should be signed under. -/
def secret (p : Policy) : Check → String
  | access => p.accessSecret
  | refresh => p.refreshSecret
  | user => p.refreshSecret

/-- The check as a step of a run. -/
def step (p : Policy) (token : String) : Check → Run.Step
  | access => .validateAccess p token
  | refresh => .validateRefresh p token
  | user => .validateUser p token

variable {check : Check} {p : Policy} {token : String} {r : Rejection}

/-- A text that does not get past its signature has the same outcome whatever is asked about it. -/
theorem outcome_of_fault
    (fault : ∀ {α : Type} (read : Tree → Option α),
      verified (check.secret p) read token = .error r)
    (source : RandomSource) (s : Run.State) :
    Run.outcome source s (check.step p token) = ⟨.failed .invalid, [r.event]⟩ := by
  rw [← verified_invalid (fault AccessClaims.ofTree?)]
  cases check with
  | access =>
    have refused := validateAccess_of_fault (fault AccessClaims.ofTree?) s.now
    exact congrArg (Run.Outcome.ofValidation _) refused
  | refresh =>
    have refused := openRefresh_of_fault (fault RefreshClaims.ofTree?) s.now
    exact congrArg (Run.Outcome.ofValidation _) (refused_of_openRefresh refused).2
  | user =>
    have refused := openRefresh_of_fault (fault RefreshClaims.ofTree?) s.now
    exact congrArg (Run.Outcome.ofValidation _) (refused_of_openRefresh refused).1

end Check

/-! ## Headers -/

/-- The text is an encoded header that declares the algorithm. -/
def Declares (h : String) (a : Algorithm) : Prop :=
  ∃ header tree, Utf8.ofString h = Compact.encoded header ∧ Tree.read? header = some tree ∧
    Header.ofTree? tree = some ⟨a⟩

variable {h m s : String} {a : Algorithm}

/-- A header that declares an algorithm gets past all stages but the last. -/
theorem declared_of_declares (hd : Declares h a) :
    declared (Utf8.ofString h) = require a.hash? (.algorithm a) := by
  obtain ⟨header, tree, encoded, hread, hheader⟩ := hd
  unfold declared
  rw [treeOf_eq_ok_iff.2 ⟨header, encoded, hread⟩]
  show (require (Header.ofTree? tree) .json >>= _) = _
  rw [hheader]
  rfl

/-- A hash function is declared by the name of an algorithm that has it. -/
theorem declares_of_declared {hash : HashFunction} (hd : declared (Utf8.ofString h) = .ok hash) :
    ∃ a, Declares h a ∧ a.hash? = some hash := by
  obtain ⟨header, tree, a, encoded, hread, hheader, keyed⟩ := declared_eq_ok_iff.1 hd
  exact ⟨a, ⟨header, tree, encoded, hread, hheader⟩, Algorithm.hash?_eq_some_iff.2 keyed⟩

/-- The algorithm that the encoded text of a JSON value declares. -/
theorem declares_encodedJson_iff {j : Json} :
    Declares (String.ofList (Compact.encodedJson j).chars) a ↔
      Header.ofTree? (tree j) = some ⟨a⟩ := by
  have encoded : Utf8.ofString (String.ofList (Compact.encodedJson j).chars) =
      Compact.encodedJson j := Utf8.ofString_chars fun _ hb => Compact.encoded_ascii hb
  constructor
  · rintro ⟨header, t, hheader, hread, declares⟩
    obtain rfl := Compact.encoded_injective (encoded.symm.trans hheader)
    obtain rfl := Option.some.inj ((read?_render j).symm.trans hread)
    exact declares
  · intro declares
    exact ⟨_, _, encoded, read?_render j, declares⟩

/-! ## Tokens without their signature -/

/-- The signature is not the one that the header and the payload have under the secret, with the
algorithm that the header declares. -/
def Unsigned (secret h m s : String) : Prop :=
  ∀ a hash, Declares h a → a.hash? = some hash →
    Utf8.ofString s ≠ Compact.signature hash secret (Utf8.ofString h) (Utf8.ofString m)

/-- What is wrong with an unsigned token: its header, or else its signature. -/
def faultOf (h : String) : Rejection :=
  match declared (Utf8.ofString h) with
  | .ok _ => .signature
  | .error r => r

/-- Nothing but the header of an unsigned token counts. -/
theorem verified_unsigned {α : Type} (read : Tree → Option α) {secret : String}
    (hm : '.' ∉ m.toList) (hs : '.' ∉ s.toList) (unsigned : Unsigned secret h m s) :
    verified secret read (h ++ "." ++ m ++ "." ++ s) = .error (faultOf h) := by
  unfold verified
  rw [Compact.split?_dotless hm hs]
  show (declared (Utf8.ofString h) >>= fun hash =>
    if Utf8.ofString s = Compact.signature hash secret (Utf8.ofString h) (Utf8.ofString m) then
      claimsOf read (Utf8.ofString m)
    else .error .signature) = _
  unfold faultOf
  cases hd : declared (Utf8.ofString h) with
  | error r => rfl
  | ok hash =>
    obtain ⟨a, declares, keyed⟩ := declares_of_declared hd
    exact if_neg (unsigned a hash declares keyed)

/-- Every check of an unsigned token has the outcome that its header settles. -/
theorem outcome_unsigned {check : Check} {p : Policy} (hm : '.' ∉ m.toList) (hs : '.' ∉ s.toList)
    (unsigned : Unsigned (check.secret p) h m s) (source : RandomSource) (st : Run.State) :
    Run.outcome source st (check.step p (h ++ "." ++ m ++ "." ++ s)) =
      ⟨.failed .invalid, [(faultOf h).event]⟩ :=
  Check.outcome_of_fault (fun read => verified_unsigned read hm hs unsigned) source st

/-- A token has no signature under any secret if its header declares no algorithm that signs with
one. -/
theorem unsigned_of_unkeyed (unkeyed : ∀ a, Declares h a → a.hash? = none)
    (secret m s : String) : Unsigned secret h m s := by
  intro a hash declares keyed
  rw [unkeyed a declares] at keyed
  cases keyed

/-- A text declares at most one algorithm. -/
theorem Declares.unique {b : Algorithm} (ha : Declares h a) (hb : Declares h b) : a = b := by
  obtain ⟨header, tree, encoded, hread, hheader⟩ := ha
  obtain ⟨header', tree', encoded', hread', hheader'⟩ := hb
  obtain rfl := Compact.encoded_injective (encoded.symm.trans encoded')
  obtain rfl := Option.some.inj (hread.symm.trans hread')
  exact congrArg Header.algorithm (Option.some.inj (hheader.symm.trans hheader'))

/-! ## What an outcome shows -/

/-- **Nothing unsigned is looked at, and an algorithm cannot be confused with another.** For every
check, secret and state, two tokens with one header that are not signed under the secret have the
same answer and the same log. If the header declares an algorithm that does not sign with a shared
secret, they are those of a token that does so, whatever else stands in it; if it declares none, they
are settled by the header. -/
theorem unsigned_unread (h : String) :
    (∀ (check : Check) (p : Policy) (source : RandomSource) (st : Run.State)
      (m s m' s' : String), '.' ∉ m.toList → '.' ∉ s.toList → '.' ∉ m'.toList → '.' ∉ s'.toList →
      Unsigned (check.secret p) h m s → Unsigned (check.secret p) h m' s' →
        Run.outcome source st (check.step p (h ++ "." ++ m ++ "." ++ s)) =
          Run.outcome source st (check.step p (h ++ "." ++ m' ++ "." ++ s'))) ∧
    (∀ a, Declares h a → a.hash? = none →
      ∀ (check : Check) (p : Policy) (source : RandomSource) (st : Run.State) (m s : String),
        '.' ∉ m.toList → '.' ∉ s.toList →
          Run.outcome source st (check.step p (h ++ "." ++ m ++ "." ++ s)) =
            ⟨.failed .invalid,
              [⟨"token declares a non-HMAC algorithm", [("alg", a.name)]⟩]⟩) ∧
    ((∀ a, ¬ Declares h a) → ∃ event : Event,
      ∀ (check : Check) (p : Policy) (source : RandomSource) (st : Run.State) (m s : String),
        '.' ∉ m.toList → '.' ∉ s.toList →
          Run.outcome source st (check.step p (h ++ "." ++ m ++ "." ++ s)) =
            ⟨.failed .invalid, [event]⟩) := by
  refine ⟨?same, ?unkeyed, ?undeclared⟩
  case same =>
    intro check p source st m s m' s' hm hs hm' hs' unsigned unsigned'
    rw [outcome_unsigned hm hs unsigned, outcome_unsigned hm' hs' unsigned']
  case unkeyed =>
    intro a declares unkeyed check p source st m s hm hs
    have unsigned : Unsigned (check.secret p) h m s := by
      apply unsigned_of_unkeyed
      intro b hb
      rw [← declares.unique hb, unkeyed]
    have fault : faultOf h = .algorithm a := by
      rw [faultOf, declared_of_declares declares, unkeyed]
      rfl
    rw [outcome_unsigned hm hs unsigned, fault]
    rfl
  case undeclared =>
    intro undeclared
    refine ⟨(faultOf h).event, ?_⟩
    intro check p source st m s hm hs
    apply outcome_unsigned hm hs
    apply unsigned_of_unkeyed
    intro a declares
    exact absurd declares (undeclared a)

/-- Claims that may be used under a foreign signature, claims that have expired under another one; a
code that is right but for an algorithm that it does not belong to; and no algorithm at all. -/
theorem unsigned_unread_crafted :
    ∃ hour ∈ Span.ofUnits? 3600 1, ∃ epoch ∈ Instant.ofSecond? 0,
      let p : Policy := ⟨"a", "r", hour, hour⟩
      let source := RandomSource.constant 0
      let st : Run.State := ⟨epoch, []⟩
      let part (j : Json) := String.ofList (Compact.encodedJson j).chars
      let h := part (Header.toJson ⟨.hs256⟩)
      let h' := part (Header.toJson ⟨.rs256⟩)
      let h'' := part (.obj [("alg", .str "none")])
      let user : Uuid := ⟨Vector.replicate 16 1⟩
      let good := part (AccessClaims.mk user "bidder" 0 0 3600).toJson
      let past := part (AccessClaims.mk user "admin" 0 0 0).toJson
      let code := String.ofList
        (Compact.signature .sha256 "a" (Utf8.ofString h') (Utf8.ofString good)).chars
      Run.outcome source st (.validateAccess p (h ++ "." ++ good ++ "." ++ "=")) =
          Run.outcome source st (.validateAccess p (h ++ "." ++ past ++ "." ++ "==")) ∧
        Run.outcome source st (.validateAccess p (h' ++ "." ++ good ++ "." ++ code)) =
          ⟨.failed .invalid, [⟨"token declares a non-HMAC algorithm", [("alg", "RS256")]⟩]⟩ ∧
        ∃ event : Event,
          Run.outcome source st (.validateAccess p (h'' ++ "." ++ good ++ "." ++ "")) =
            ⟨.failed .invalid, [event]⟩ ∧
          Run.outcome source st (.validateUser p (h'' ++ "." ++ past ++ "." ++ code)) =
            ⟨.failed .invalid, [event]⟩ := by
  let hour : Span := ⟨3600, 0, by omega, by omega⟩
  let epoch : Instant := ⟨0, 0, by omega, by omega, by omega⟩
  refine ⟨hour, rfl, epoch, rfl, ?_⟩
  intro p source st part h h' h'' user good past code
  have dotless (bs : Bytes) : '.' ∉ (String.ofList (Compact.encoded bs).chars).toList := by
    rw [String.toList_ofList]
    exact List.count_eq_zero.1 (Compact.count_dot_chars bs)
  -- the padding character is foreign to the alphabet of signatures
  have foreign {t : String} (ht : 0x3D ∈ Utf8.ofString t) (m : String) : Unsigned "a" h m t := by
    intro a hash _ _ signature
    rw [signature] at ht
    exact Base64.equals_not_mem_url (Base64.mem_symbols_of_mem_encode ht)
  have declares : Declares h' .rs256 := declares_encodedJson_iff.2 (Header.ofTree?_toJson _)
  have undeclared : ∀ a, ¬ Declares h'' a := by
    intro a ha
    have none : Header.ofTree? (tree (.obj [("alg", .str "none")])) = none := by decide
    rw [declares_encodedJson_iff, none] at ha
    cases ha
  obtain ⟨same, -, -⟩ := unsigned_unread h
  obtain ⟨-, unkeyed, -⟩ := unsigned_unread h'
  obtain ⟨-, -, unnamed⟩ := unsigned_unread h''
  obtain ⟨event, settled⟩ := unnamed undeclared
  refine ⟨?_, ?_, event, ?_, ?_⟩
  · exact same .access p source st good "=" past "==" (dotless _) (by decide) (dotless _)
      (by decide) (foreign (by decide) good) (foreign (by decide) past)
  · exact unkeyed .rs256 declares rfl .access p source st good code (dotless _) (dotless _)
  · exact settled .access p source st good "" (dotless _) (by decide)
  · exact settled .user p source st past code (dotless _) (dotless _)

end Credentials.Token
