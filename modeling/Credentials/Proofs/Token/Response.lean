import Credentials.Proofs.Time.Text
import Credentials.Proofs.Token.Expiry

/-!
# What the answer to a login says

The pair of tokens goes to the caller as JSON. Besides the tokens it repeats, for whoever has to
remember the refresh token, two things that this token says itself: its identifier and its expiry.
The token says its expiry as a number, the answer as a date and a time.

* `inside?` — the claims of a token as anyone reads them who does not check it.
* `Compact.Encoded` — a text of three parts in base 64.
* `toJson_text` — the answer, word for word.
* `login_response` — **the answer says what the refresh token says**, and needs no escapes.
-/

namespace Credentials.Token

open Json

/-! ## Texts that need no escapes -/

namespace Compact

/-- A text of three parts in base 64 with full stops between. -/
def Encoded (token : String) : Prop :=
  ∃ header payload signature : Bytes, token =
    text (encoded header) (encoded payload) (encoded signature)

/-- No symbol for URLs needs an escape in JSON. -/
theorem escape_symbol : ∀ b ∈ Base64.Alphabet.url.symbols,
    escape (Char.ofNat b.toNat) = [Char.ofNat b.toNat] := by
  have all : (Base64.Alphabet.url.symbols.all fun b =>
      escape (Char.ofNat b.toNat) = [Char.ofNat b.toNat]) = true := rfl
  intro b hb
  exact of_decide_eq_true (List.all_eq_true.1 all b hb)

/-- No encoded part needs an escape in JSON. -/
theorem unescaped_encoded (bs : Bytes) : Unescaped (encoded bs).chars := by
  intro c hc
  obtain ⟨b, hb, rfl⟩ := List.mem_map.1 hc
  exact escape_symbol b (Base64.mem_symbols_of_mem_encode hb)

/-- No token needs an escape in JSON. -/
theorem Encoded.unescaped {token : String} (h : Encoded token) : Unescaped token.toList := by
  obtain ⟨header, payload, signature, rfl⟩ := h
  rw [text_eq_pieces]
  simp only [String.toList_append, String.toList_ofList]
  have dot : Unescaped ".".toList := by decide
  exact ((((unescaped_encoded header).append dot).append (unescaped_encoded payload)).append
    dot).append (unescaped_encoded signature)

/-- What is minted has three encoded parts. -/
theorem encoded_mint (secret : String) (claims : Json) : Encoded (mint secret claims) :=
  ⟨_, _, _, rfl⟩

end Compact

/-- No row of digits needs an escape in JSON. -/
theorem unescaped_row {width n : Nat} {cs : List Char} (h : Decimal.Row width n cs) :
    Unescaped cs := by
  obtain ⟨ds, isDigits, rfl, -⟩ := Decimal.digits?_eq_some_iff.1 h.2
  intro c hc
  obtain ⟨d, hd, rfl⟩ := List.mem_map.1 hc
  have lt_ten := isDigits.lt_ten d hd
  have code := Decimal.toNat_digitChar lt_ten
  apply escape_eq_self <;> omega

/-- No year needs an escape in JSON. -/
theorem unescaped_year {year : Int} {cs : List Char} (h : Date.YearText year cs) : Unescaped cs := by
  cases h with
  | plain row => exact unescaped_row row
  | negative _ _ row => exact (unescaped_row row).cons rfl
  | large _ _ row => exact (unescaped_row row).cons rfl

/-- No text of an instant needs an escape in JSON. -/
theorem unescaped_rfc3339 {second : Int} {cs : List Char} (h : Instant.Rfc3339 second cs) :
    Unescaped cs := by
  obtain ⟨date, time, dateText, timeText, hdate, htime, -, rfl⟩ := h
  have unescaped_date : Unescaped dateText := by
    obtain ⟨-, year, month, day, hyear, hmonth, hday, rfl⟩ := hdate
    exact ((unescaped_year hyear).append ((unescaped_row hmonth).cons rfl)).append
      ((unescaped_row hday).cons rfl)
  have unescaped_time : Unescaped timeText := by
    obtain ⟨_, -, _, -, _, -, -, h, m, s, hrow, mrow, srow, rfl⟩ := htime
    exact ((unescaped_row hrow).append ((unescaped_row mrow).cons rfl)).append
      ((unescaped_row srow).cons rfl)
  have zone : Unescaped ['Z'] := by decide
  exact (unescaped_date.append (unescaped_time.cons rfl)).append zone

/-- No identifier needs an escape in JSON. -/
theorem unescaped_uuid (u : Uuid) : Unescaped u.text := by
  have digits : Unescaped (Hex.encode u.bytes.toList) := by
    intro c hc
    have := Hex.isDigit_iff.1 (Hex.isDigit_of_mem_encode hc)
    apply escape_eq_self <;> omega
  have taken {cs : List Char} (h : Unescaped cs) (n : Nat) : Unescaped (cs.take n) :=
    fun c hc => h c (List.mem_of_mem_take hc)
  have dropped (n : Nat) : Unescaped ((Hex.encode u.bytes.toList).drop n) :=
    fun c hc => digits c (List.mem_of_mem_drop hc)
  exact ((((taken digits 8).append ((taken (dropped 8) 4).cons rfl)).append
    ((taken (dropped 12) 4).cons rfl)).append ((taken (dropped 16) 4).cons rfl)).append
    ((dropped 20).cons rfl)

/-! ## The answer -/

/-- The answer, if none of its texts needs an escape. -/
theorem toJson_text {tokens : TokenPair} (access : Unescaped tokens.access.toList)
    (refresh : Unescaped tokens.refresh.token.toList)
    (expires : Unescaped tokens.refresh.expiresAt.text) :
    tokens.toJson.text =
      "\x7b\"access_token\":\"" ++ tokens.access ++
      "\",\"refresh_token\":\"" ++ tokens.refresh.token ++
      "\",\"refresh_token_id\":\"" ++ String.ofList tokens.refresh.tokenId.text ++
      "\",\"refresh_expires_at\":\"" ++ String.ofList tokens.refresh.expiresAt.text ++
      "\"\x7d" := by
  have ofList {cs : List Char} (h : Unescaped cs) : Unescaped (String.ofList cs).toList := by
    rwa [String.toList_ofList]
  have tokenId := ofList (unescaped_uuid tokens.refresh.tokenId)
  have names : ∀ name ∈ ["access_token", "refresh_token", "refresh_token_id", "refresh_expires_at"],
      Unescaped name.toList := by
    decide
  simp only [List.forall_mem_cons] at names
  obtain ⟨first, second, third, fourth, -⟩ := names
  apply String.toList_injective
  rw [TokenPair.toJson, Json.text, String.toList_ofList]
  simp only [render, renderMembers, first.quote_eq, second.quote_eq, third.quote_eq,
    fourth.quote_eq, access.quote_eq, refresh.quote_eq, tokenId.quote_eq, (ofList expires).quote_eq]
  simp only [String.toList_append, String.toList_ofList, List.append_assoc, List.cons_append,
    List.nil_append]
  rfl

/-! ## What the refresh token says -/

/-- The claims of a token, as anyone reads them who does not check the signature. -/
def inside? {α : Type} (read : Tree → Option α) (token : String) : Option α := do
  let (_, payload, _) ← Compact.split? (Utf8.ofString token)
  let bs ← (Base64.decode .url payload).toOption
  let tree ← Tree.read? bs
  read tree

/-- Whoever looks into a minted token reads its claims. -/
theorem inside?_mint {α : Type} (read : Tree → Option α) (secret : String) (claims : Json) :
    inside? read (mint secret claims) = read (tree claims) := by
  have decoded : Base64.decode .url (Compact.encodedJson claims) =
      .ok (Utf8.encode claims.render) :=
    Compact.decode_eq_ok_iff.2 rfl
  rw [inside?, split?_mint]
  show ((Base64.decode .url (Compact.encodedJson claims)).toOption >>= fun bs =>
    Tree.read? bs >>= read) = _
  rw [decoded]
  show (Tree.read? (Utf8.encode claims.render) >>= read) = _
  rw [read?_render]
  rfl

variable {p : Policy} {now : Instant} {user : Uuid} {role : String} {draw : Vector UInt8 16}
  {tokens : TokenPair}

/-- What the issuer remembers of the refresh token is what the token says. -/
theorem exists_inside (h : p.issuePair now user role draw = .ok tokens) :
    ∃ claims, inside? RefreshClaims.ofTree? tokens.refresh.token = some claims ∧
      String.ofList tokens.refresh.tokenId.text = claims.tokenId ∧
      Instant.Rfc3339 claims.expires.toInt tokens.refresh.expiresAt.text := by
  obtain ⟨-, refresh⟩ := issuePair_eq_ok_iff.1 h
  obtain ⟨-, expiry, -, -, expires, token⟩ := issueRefresh_eq_ok_iff.1 refresh
  refine ⟨RefreshClaims.issue user tokens.refresh.tokenId now expiry, ?_, rfl, ?_⟩
  · rw [token, inside?_mint, RefreshClaims.ofTree?_toJson]
  · have second : (timestamp expiry).toInt = expiry.floor.second := toInt_timestamp expiry
    rw [expires]
    show Instant.Rfc3339 (timestamp expiry).toInt _
    rw [second]
    exact Instant.rfc3339_text rfl

/-- Both tokens of a pair have three encoded parts. -/
theorem encoded_of_issuePair (h : p.issuePair now user role draw = .ok tokens) :
    Compact.Encoded tokens.access ∧ Compact.Encoded tokens.refresh.token := by
  obtain ⟨issuedAccess, issuedRefresh⟩ := issuePair_eq_ok_iff.1 h
  obtain ⟨-, _, -, access⟩ := issueAccess_eq_ok_iff.1 issuedAccess
  obtain ⟨-, _, -, -, -, refresh⟩ := issueRefresh_eq_ok_iff.1 issuedRefresh
  rw [access, refresh]
  exact ⟨Compact.encoded_mint _ _, Compact.encoded_mint _ _⟩

/-- **The answer to a login says what its refresh token says.** Word for word it has the two tokens,
which are texts in base 64, then the identifier that stands in the refresh token, then a date and a
time in UTC for the very second in which that token says that it expires, in whatever year that is;
nothing in it is escaped. Tokens that expire at different seconds get different texts. -/
theorem login_response :
    (∀ (p : Policy) (now : Instant) (user : Uuid) (role : String) (draw : Vector UInt8 16)
        (tokens : TokenPair), p.issuePair now user role draw = .ok tokens →
      Compact.Encoded tokens.access ∧ Compact.Encoded tokens.refresh.token ∧
      ∃ claims, inside? RefreshClaims.ofTree? tokens.refresh.token = some claims ∧
        Instant.Rfc3339 claims.expires.toInt tokens.refresh.expiresAt.text ∧
        tokens.toJson.text =
          "\x7b\"access_token\":\"" ++ tokens.access ++
          "\",\"refresh_token\":\"" ++ tokens.refresh.token ++
          "\",\"refresh_token_id\":\"" ++ claims.tokenId ++
          "\",\"refresh_expires_at\":\"" ++ String.ofList tokens.refresh.expiresAt.text ++
          "\"\x7d") ∧
    ∀ (p p' : Policy) (now now' : Instant) (user user' : Uuid) (role role' : String)
        (draw draw' : Vector UInt8 16) (tokens tokens' : TokenPair) (claims claims' : RefreshClaims),
      p.issuePair now user role draw = .ok tokens →
      p'.issuePair now' user' role' draw' = .ok tokens' →
      inside? RefreshClaims.ofTree? tokens.refresh.token = some claims →
      inside? RefreshClaims.ofTree? tokens'.refresh.token = some claims' →
      claims.expires ≠ claims'.expires →
      tokens.refresh.expiresAt.text ≠ tokens'.refresh.expiresAt.text := by
  constructor
  case left =>
    intro p now user role draw tokens issued
    obtain ⟨access, refresh⟩ := encoded_of_issuePair issued
    obtain ⟨claims, inside, tokenId, expires⟩ := exists_inside issued
    refine ⟨access, refresh, claims, inside, expires, ?_⟩
    rw [toJson_text access.unescaped refresh.unescaped (unescaped_rfc3339 expires), tokenId]
  case right =>
    intro p p' now now' user user' role role' draw draw' tokens tokens' claims claims' issued issued'
      inside inside' different same
    obtain ⟨_, found, -, expires⟩ := exists_inside issued
    obtain ⟨_, found', -, expires'⟩ := exists_inside issued'
    obtain rfl := Option.some.inj (inside.symm.trans found)
    obtain rfl := Option.some.inj (inside'.symm.trans found')
    rw [same] at expires
    exact different (Int64.toInt_inj.1 (expires.unique expires'))

/-- Two logins a second apart, with refresh tokens that expired when the year before year 0 did and
a second later. -/
theorem login_response_year_zero :
    ∃ hour ∈ Span.ofUnits? 3600 1, ∃ ago ∈ Span.ofUnits? 1 (-62167219201),
      ∃ epoch ∈ Instant.of? 0 999999999, ∃ next ∈ Instant.of? 1 0,
      let p : Policy := ⟨"a", "r", hour, ago⟩
      let user : Uuid := ⟨Vector.replicate 16 1⟩
      let draw := Vector.replicate 16 0
      ∃ tokens tokens', p.issuePair epoch user "bidder" draw = .ok tokens ∧
        p.issuePair next user "bidder" draw = .ok tokens' ∧
        (∃ claims, inside? RefreshClaims.ofTree? tokens.refresh.token = some claims ∧
          Instant.Rfc3339 claims.expires.toInt "-0001-12-31T23:59:59Z".toList ∧
          tokens.toJson.text =
            "\x7b\"access_token\":\"" ++ tokens.access ++
            "\",\"refresh_token\":\"" ++ tokens.refresh.token ++
            "\",\"refresh_token_id\":\"" ++ claims.tokenId ++
            "\",\"refresh_expires_at\":\"" ++ "-0001-12-31T23:59:59Z" ++ "\"\x7d") ∧
        tokens.refresh.expiresAt.text ≠ tokens'.refresh.expiresAt.text := by
  let hour : Span := ⟨3600, 0, by omega, by omega⟩
  let ago : Span := ⟨-62167219201, 0, by omega, by omega⟩
  let epoch : Instant := ⟨0, 999999999, by omega, by omega, by omega⟩
  let next : Instant := ⟨1, 0, by omega, by omega, by omega⟩
  refine ⟨hour, rfl, ago, rfl, epoch, rfl, next, rfl, ?_⟩
  intro p user draw
  have hnil : user ≠ .nil := by decide
  -- the tokens of a login, with the instants at which they expire
  let pair (now access refresh : Instant) : TokenPair :=
    ⟨mint "a" (AccessClaims.issue user "bidder" now access).toJson,
      mint "r" (RefreshClaims.issue user (.ofRandom draw) now refresh).toJson, .ofRandom draw,
      refresh.floor⟩
  have issued {now access refresh : Instant} (shift : now.shift? hour = some access)
      (shift' : now.shift? ago = some refresh) :
      p.issuePair now user "bidder" draw = .ok (pair now access refresh) :=
    issuePair_eq_ok_iff.2 ⟨issueAccess_eq_ok_iff.2 ⟨hnil, access, shift, rfl⟩,
      issueRefresh_eq_ok_iff.2 ⟨hnil, refresh, shift', rfl, rfl, rfl⟩⟩
  have inside (now access refresh : Instant) :
      inside? RefreshClaims.ofTree? (pair now access refresh).refresh.token =
        some (.issue user (.ofRandom draw) now refresh) := by
    rw [inside?_mint, RefreshClaims.ofTree?_toJson]
  have first := @issued epoch ⟨3600, 999999999, by omega, by omega, by omega⟩
    ⟨-62167219201, 999999999, by omega, by omega, by omega⟩ (by decide) (by decide)
  have second := @issued next ⟨3601, 0, by omega, by omega, by omega⟩
    ⟨-62167219200, 0, by omega, by omega, by omega⟩ (by decide) (by decide)
  have lastOfYear : (⟨-62167219201, 0, by omega, by omega, by omega⟩ : Instant).text =
      "-0001-12-31T23:59:59Z".toList := by
    rw [Instant.text_of_whole rfl]
    simp [Date.text, Date.ofDay, Date.yearOfCycle, Date.yearText, Instant.timeText, Decimal.padded,
      Decimal.ofNat, Decimal.digitChar]
  obtain ⟨response, differ⟩ := login_response
  obtain ⟨-, -, claims, read, expires, text⟩ := response _ _ _ _ _ _ first
  refine ⟨_, _, first, second, ⟨claims, read, ?_, ?_⟩, ?_⟩
  · rw [← lastOfYear]
    exact expires
  · rw [text]
    show _ ++ String.ofList (Instant.text ⟨-62167219201, 0, _, _, _⟩) ++ _ = _
    rw [lastOfYear, String.ofList_toList]
  · exact differ _ _ _ _ _ _ _ _ _ _ _ _ _ _ first second (inside _ _ _) (inside _ _ _) (by decide)

end Credentials.Token
