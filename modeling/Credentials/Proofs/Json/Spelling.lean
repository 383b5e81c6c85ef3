import Credentials.Json.Tree
import Credentials.Proofs.Json.Rendering

/-!
# How strings spell texts

A text can stand in a string in many ways, since each of its characters may be written as it is or
escaped.

* `Spelling` — the pieces spell the text, character by character.
* `text?_eq_some_iff` — **a string means a text if and only if it spells it**. So it means at most
  one (`Spelling.unique`), and a surrogate that stands alone spells none.
* `spelling_pieces` — what is written of a text spells it.
-/

namespace Credentials.Json

/-! ## Spellings -/

/-- The character of a surrogate pair of code units. -/
structure Paired (high low : UInt16) (c : Char) : Prop where
  /-- The first unit begins a pair. -/
  high_range : 0xD800 ≤ high.toNat ∧ high.toNat ≤ 0xDBFF
  /-- The second unit ends one. -/
  low_range : 0xDC00 ≤ low.toNat ∧ low.toNat ≤ 0xDFFF
  /-- Both give ten bits of the character. -/
  code : c.toNat = 0x10000 + (high.toNat - 0xD800) * 0x400 + (low.toNat - 0xDC00)

/-- The pieces of a string spell a text. -/
inductive Spelling : List Char → List Piece → Prop
  | nil : Spelling [] []
  /-- A character stands for itself. -/
  | plain {c : Char} {cs : List Char} {ps : List Piece} (h : Spelling cs ps) :
    Spelling (c :: cs) ((String.utf8EncodeChar c).map .byte ++ ps)
  /-- It is given by its code. -/
  | unit {u : UInt16} {c : Char} {cs : List Char} {ps : List Piece} (code : u.toNat = c.toNat)
    (h : Spelling cs ps) : Spelling (c :: cs) (.unit u :: ps)
  /-- It is given by a surrogate pair. -/
  | pair {high low : UInt16} {c : Char} {cs : List Char} {ps : List Piece}
    (paired : Paired high low c) (h : Spelling cs ps) :
    Spelling (c :: cs) (.unit high :: .unit low :: ps)

variable {u high low : UInt16} {c : Char} {cs : List Char} {ps : List Piece} {bs : Bytes}

/-! ## Code units -/

/-- The range of the high surrogates. -/
theorem isHighSurrogate_iff :
    isHighSurrogate u = true ↔ 0xD800 ≤ u.toNat ∧ u.toNat ≤ 0xDBFF := by
  simp only [isHighSurrogate, Bool.and_eq_true, decide_eq_true_eq, UInt16.le_iff_toNat_le]
  rfl

/-- The range of the low surrogates. -/
theorem isLowSurrogate_iff : isLowSurrogate u = true ↔ 0xDC00 ≤ u.toNat ∧ u.toNat ≤ 0xDFFF := by
  simp only [isLowSurrogate, Bool.and_eq_true, decide_eq_true_eq, UInt16.le_iff_toNat_le]
  rfl

/-- The code of a character is no surrogate. -/
theorem not_surrogate (code : u.toNat = c.toNat) :
    isHighSurrogate u = false ∧ isLowSurrogate u = false := by
  have valid : c.toNat < 0xD800 ∨ 0xDFFF < c.toNat ∧ c.toNat < 0x110000 := c.valid
  rw [Bool.eq_false_iff, Bool.eq_false_iff, ne_eq, ne_eq, isHighSurrogate_iff, isLowSurrogate_iff]
  omega

/-- The first surrogate of a pair is no low one. -/
theorem Paired.not_low (h : Paired high low c) : isLowSurrogate high = false := by
  have := h.high_range
  rw [Bool.eq_false_iff, ne_eq, isLowSurrogate_iff]
  omega

/-- Decoding a pair gives its character. -/
theorem Paired.ofSurrogates_eq (h : Paired high low c) : ofSurrogates high low = c := by
  rw [ofSurrogates, ← h.code, Char.ofNat_toNat]

/-- A high and a low surrogate are the pair of a character. -/
theorem paired_ofSurrogates (hhigh : isHighSurrogate high = true)
    (hlow : isLowSurrogate low = true) : Paired high low (ofSurrogates high low) := by
  rw [isHighSurrogate_iff] at hhigh
  rw [isLowSurrogate_iff] at hlow
  refine ⟨hhigh, hlow, ?_⟩
  rw [ofSurrogates, Char.ofNat, dif_pos (.inr (by omega))]
  rfl

/-! ## What is spelled is meant -/

/-- A code unit that is a character alone makes the bytes of that. -/
theorem bytes?_unit (code : u.toNat = c.toNat) :
    bytes? (.unit u :: ps) = (bytes? ps).map (String.utf8EncodeChar c ++ ·) := by
  obtain ⟨notHigh, notLow⟩ := not_surrogate code
  rw [bytes?.eq_def]
  simp only [notHigh, notLow, Bool.false_eq_true, if_false, code, Char.ofNat_toNat]

/-- Two code units that are a pair make the bytes of their character. -/
theorem bytes?_pair (h : Paired high low c) :
    bytes? (.unit high :: .unit low :: ps) = (bytes? ps).map (String.utf8EncodeChar c ++ ·) := by
  rw [bytes?.eq_def]
  simp only [h.not_low, isHighSurrogate_iff.2 h.high_range, isLowSurrogate_iff.2 h.low_range,
    h.ofSurrogates_eq, Bool.false_eq_true, if_false, if_true]

/-- The spelling of a text makes its bytes. -/
theorem Spelling.bytes?_eq (h : Spelling cs ps) : bytes? ps = some (Utf8.encode cs) := by
  induction h with
  | nil => rfl
  | plain _ ih =>
    rw [bytes?_bytes, ih]
    rfl
  | unit code _ ih =>
    rw [bytes?_unit code, ih]
    rfl
  | pair paired _ ih =>
    rw [bytes?_pair paired, ih]
    rfl

/-! ## What is meant is spelled -/

/-- A code unit begins a character, by itself or with the one behind it. -/
theorem bytes?_unit_eq_some (h : bytes? (.unit u :: ps) = some bs) :
    ∃ c bs', bs = String.utf8EncodeChar c ++ bs' ∧
      (u.toNat = c.toNat ∧ bytes? ps = some bs' ∨
        ∃ low ps', ps = .unit low :: ps' ∧ Paired u low c ∧ bytes? ps' = some bs') := by
  rw [bytes?.eq_def] at h
  dsimp only at h
  by_cases hlow : isLowSurrogate u = true
  case pos =>
    rw [if_pos hlow] at h
    cases h
  rw [if_neg hlow] at h
  by_cases hhigh : isHighSurrogate u = true
  case neg =>
    rw [if_neg hhigh] at h
    obtain ⟨bs', hps, rfl⟩ := Option.map_eq_some_iff.1 h
    refine ⟨_, bs', rfl, .inl ⟨?_, hps⟩⟩
    rw [isLowSurrogate_iff] at hlow
    rw [isHighSurrogate_iff] at hhigh
    have := u.toNat_lt
    rw [Char.ofNat, dif_pos (by unfold Nat.isValidChar; omega)]
    rfl
  rw [if_pos hhigh] at h
  rcases ps with _ | ⟨_ | low, ps⟩
  · cases h
  · cases h
  dsimp only at h
  by_cases hpair : isLowSurrogate low = true
  case neg =>
    rw [if_neg hpair] at h
    cases h
  rw [if_pos hpair] at h
  obtain ⟨bs', hps, rfl⟩ := Option.map_eq_some_iff.1 h
  exact ⟨_, bs', rfl, .inr ⟨low, ps, rfl, paired_ofSurrogates hhigh hpair, hps⟩⟩

/-- The tails of a character are bytes that stand for themselves. -/
theorem exists_bytes_of_tails {tails : Bytes} (tail : ∀ b ∈ tails, Utf8.isTail b = true)
    (h : bytes? ps = some (tails ++ bs)) :
    ∃ ps', ps = tails.map .byte ++ ps' ∧ bytes? ps' = some bs := by
  induction tails generalizing ps with
  | nil => exact ⟨ps, rfl, h⟩
  | cons t tails ih =>
    rcases ps with _ | ⟨b | u, ps⟩
    · cases h
    · obtain ⟨bs', hps, heq⟩ := Option.map_eq_some_iff.1 h
      obtain ⟨rfl, rfl⟩ := List.cons.inj heq
      obtain ⟨ps', rfl, hps'⟩ := ih (fun b hb => tail b (List.mem_cons_of_mem _ hb)) hps
      exact ⟨ps', rfl, hps'⟩
    · -- a code unit would begin another character here
      obtain ⟨c, bs', heq, -⟩ := bytes?_unit_eq_some h
      obtain ⟨lead, rest, hlead, noTail, -⟩ := Utf8.exists_utf8EncodeChar_eq c
      rw [hlead] at heq
      obtain ⟨rfl, -⟩ := List.cons.inj heq
      rw [tail t List.mem_cons_self] at noTail
      cases noTail

/-- Pieces that make the bytes of a text spell it. -/
theorem spelling_of_bytes? (h : bytes? ps = some (Utf8.encode cs)) : Spelling cs ps := by
  induction cs generalizing ps with
  | nil =>
    rcases ps with _ | ⟨b | u, ps⟩
    · exact .nil
    · obtain ⟨bs', -, heq⟩ := Option.map_eq_some_iff.1 h
      cases heq
    · obtain ⟨c, bs', heq, -⟩ := bytes?_unit_eq_some h
      obtain ⟨lead, rest, hlead, -⟩ := Utf8.exists_utf8EncodeChar_eq c
      rw [hlead] at heq
      cases heq
  | cons c cs ih =>
    rw [Utf8.encode_cons] at h
    rcases ps with _ | ⟨b | u, ps⟩
    · obtain ⟨lead, rest, hlead, -⟩ := Utf8.exists_utf8EncodeChar_eq c
      rw [hlead] at h
      cases h
    · obtain ⟨lead, tails, hlead, -, tail⟩ := Utf8.exists_utf8EncodeChar_eq c
      rw [hlead] at h
      obtain ⟨bs', hps, heq⟩ := Option.map_eq_some_iff.1 h
      obtain ⟨rfl, rfl⟩ := List.cons.inj heq
      obtain ⟨ps', rfl, hps'⟩ := exists_bytes_of_tails tail hps
      have spelling := Spelling.plain (c := c) (ih hps')
      rwa [hlead] at spelling
    · obtain ⟨c', bs', heq, hunit | ⟨low, ps', rfl, paired, hps⟩⟩ := bytes?_unit_eq_some h
      · obtain ⟨rfl, rfl⟩ := Utf8.encodeChar_append_inj heq.symm
        exact .unit hunit.1 (ih hunit.2)
      · obtain ⟨rfl, rfl⟩ := Utf8.encodeChar_append_inj heq.symm
        exact .pair paired (ih hps)

/-- A string means a text if it spells it. -/
theorem text?_eq_some_iff {s : String} : text? ps = some s ↔ Spelling s.toList ps := by
  rw [text?, Option.bind_eq_some_iff]
  constructor
  · rintro ⟨bs, hbs, hs⟩
    obtain rfl := Utf8.string?_eq_some_iff.1 hs
    exact spelling_of_bytes? hbs
  · intro h
    exact ⟨_, h.bytes?_eq, Utf8.string?_ofString s⟩

/-- No string spells two texts. -/
theorem Spelling.unique {cs' : List Char} (h : Spelling cs ps) (h' : Spelling cs' ps) :
    cs = cs' := by
  have same := h.bytes?_eq
  rw [h'.bytes?_eq] at same
  exact (Utf8.encode_injective (Option.some.inj same)).symm

/-- What is written of a text spells it. -/
theorem spelling_pieces (s : String) : Spelling s.toList (pieces s) :=
  text?_eq_some_iff.1 (text?_pieces s)

end Credentials.Json
