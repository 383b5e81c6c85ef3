import Credentials.Password.Record
import Credentials.Proofs.Bytes
import Credentials.Proofs.Text.Base64
import Credentials.Proofs.Text.Numeral

/-!
# Lines of stored passwords

A line is read by its parts between dollar signs, and what is written of a record is read back.

* `parts_append`, `parts_of_not_mem` — the parts of a line, one dollar sign after the other.
* `cost?_padded` — a cost of two digits is read back.
* `IsSymbol` — the characters of encoded salts and digests; none of them is a dollar sign.
* `cut?_eq_some_iff`, `cut?_encoded` — the last part is cut into salt and digest.
* `Laid` — the line has the parts of a record, whatever is encoded in them.
* `parse_eq_ok_iff` — **which lines are read, and as what**.
* `Storable`, `storable_iff` — the records that can be read.
* `parse_text`, `text_inj` — **they are read back from the line that is written of them**, so no two
  of them have the same line.
-/

namespace Credentials.Password.Record

/-! ## Parts -/

/-- A dollar sign parts what is before it from what is after it. -/
theorem parts_append (before after : List Char) :
    parts (String.ofList (before ++ '$' :: after)) =
      parts (String.ofList before) ++ parts (String.ofList after) := by
  simp only [parts, String.toList_ofList]
  rw [List.splitOn_append_cons_self, List.filter_append]

/-- Nothing stands before a dollar sign at the beginning. -/
theorem parts_cons (line : List Char) :
    parts (String.ofList ('$' :: line)) = parts (String.ofList line) := parts_append [] line

/-- A text without a dollar sign is one part. -/
theorem parts_of_not_mem {part : List Char} (noDollar : '$' ∉ part) (nonempty : part ≠ []) :
    parts (String.ofList part) = [part] := by
  rw [parts, String.toList_ofList, List.splitOn_eq_singleton noDollar]
  simp [nonempty]

/-! ## Costs -/

/-- A cost that fits two digits is read back. -/
theorem cost?_padded {cost : Nat} (h : cost < 100) : cost? (Decimal.padded 2 cost) = some cost := by
  rw [cost?, Decimal.nat?_padded, Option.filter_some, if_pos]
  exact decide_eq_true (by omega)

/-! ## Salts and digests -/

/-- A full stop, a slash, a letter or a digit. -/
def IsSymbol (c : Char) : Prop := c = '.' ∨ c = '/' ∨ c.isAlphanum = true

instance (c : Char) : Decidable (IsSymbol c) := inferInstanceAs (Decidable (_ ∨ _ ∨ _))

/-- Bytes are written with symbols only. -/
theorem isSymbol_of_mem_encoded {bs : Bytes} {c : Char} (h : c ∈ encoded bs) : IsSymbol c := by
  have all : (Base64.Alphabet.bcrypt.symbols.all fun s => IsSymbol (Char.ofNat s.toNat)) = true :=
    rfl
  obtain ⟨s, hs, rfl⟩ := List.mem_map.1 h
  exact of_decide_eq_true (List.all_eq_true.1 all s (Base64.mem_symbols_of_mem_encode hs))

/-- No dollar sign is written for any bytes. -/
theorem dollar_not_mem_encoded (bs : Bytes) : '$' ∉ encoded bs := by
  intro h
  exact absurd (isSymbol_of_mem_encoded h) (by decide)

/-- Three bytes are written as four symbols, and what is left over without filling. -/
theorem length_encoded (bs : Bytes) : (encoded bs).length = (4 * bs.length + 2) / 3 := by
  rw [encoded, Bytes.chars, List.length_map, Base64.length_encode]

/-- The symbols are ASCII. -/
theorem ascii_of_mem_encode {bs : Bytes} : ∀ s ∈ Base64.encode .bcrypt bs, s.toNat < 0x80 :=
  fun s hs => Base64.bcrypt_ascii s (Base64.mem_symbols_of_mem_encode hs)

/-- The characters of an encoded form are its bytes. -/
theorem encode_encoded (bs : Bytes) : Utf8.encode (encoded bs) = Base64.encode .bcrypt bs := by
  have bytes := Utf8.ofString_chars (@ascii_of_mem_encode bs)
  rwa [Utf8.ofString, String.toList_ofList] at bytes

/-- The last part is cut after its first 22 bytes, unless this goes through a character. -/
theorem cut?_eq_some_iff {part : List Char} {salt digest : Bytes} :
    cut? part = some (salt, digest) ↔ Utf8.encode part = salt ++ digest ∧ salt.length = 22 ∧
      digest.length = 31 ∧ digest.head?.any Utf8.isTail = false := by
  simp only [cut?, ← List.head?_drop, Bool.and_eq_true, decide_eq_true_eq, Bool.not_eq_true']
  constructor
  · intro h
    split at h
    case isTrue whole =>
      obtain ⟨rfl, rfl⟩ := Prod.mk.inj (Option.some.inj h)
      refine ⟨(List.take_append_drop 22 _).symm, ?_, ?_, whole.2⟩
      · rw [List.length_take, whole.1]
        rfl
      · rw [List.length_drop, whole.1]
    case isFalse => cases h
  · rintro ⟨bytes, hsalt, hdigest, notTail⟩
    rw [bytes, List.take_left' hsalt, List.drop_left' hsalt, if_pos]
    exact ⟨by rw [List.length_append, hsalt, hdigest], notTail⟩

/-- No character goes across the cut between an encoded salt and an encoded digest. -/
theorem cut?_encoded {salt digest : Bytes} (hsalt : salt.length = 16)
    (hdigest : digest.length = 23) : cut? (encoded salt ++ encoded digest) =
      some (Base64.encode .bcrypt salt, Base64.encode .bcrypt digest) := by
  rw [cut?_eq_some_iff, Utf8.encode_append, encode_encoded, encode_encoded, Base64.length_encode,
    Base64.length_encode, hsalt, hdigest]
  refine ⟨rfl, rfl, rfl, ?_⟩
  rcases head : (Base64.encode .bcrypt digest).head? with _ | s
  · rfl
  · have ascii := ascii_of_mem_encode s (List.mem_of_mem_head? head)
    rw [Option.any_some, Bool.eq_false_iff, ne_eq, Utf8.isTail_iff]
    omega

/-- A text is read as bytes just if it is what is written of them. -/
theorem decoded_eq_ok_iff {text bs : Bytes} :
    decoded text = .ok bs ↔ text = Base64.encode .bcrypt bs := by
  rw [← Base64.decode_eq_ok_iff Base64.equals_not_mem_bcrypt, decoded]
  cases Base64.decode .bcrypt text <;> simp [Except.mapError]

/-! ## Reading -/

/-- The line has three parts: a name of the scheme, a cost, and the texts of a salt and a digest. -/
def Laid (line : String) (cost : Nat) (saltText digestText : Bytes) : Prop :=
  ∃ scheme ∈ schemes, ∃ costPart last, parts line = [scheme, costPart, last] ∧
    cost? costPart = some cost ∧ cut? last = some (saltText, digestText)

variable {line : String} {r : Record} {cost : Nat} {saltText digestText : Bytes} {fault : Fault}

/-- Only such lines are read. -/
theorem exists_laid (h : parse line = .ok r) :
    ∃ cost saltText digestText, Laid line cost saltText digestText := by
  unfold parse at h
  split at h
  case h_2 => cases h
  case h_1 scheme costPart last hparts =>
    dsimp only at h
    by_cases known : scheme ∈ schemes
    case neg =>
      rw [if_pos known] at h
      cases h
    rw [if_neg (not_not.2 known)] at h
    rcases hcost : cost? costPart with _ | cost
    · rw [hcost] at h
      cases h
    rcases hcut : cut? last with _ | ⟨saltText, digestText⟩
    · rw [hcost, hcut] at h
      cases h
    exact ⟨cost, saltText, digestText, scheme, known, costPart, last, hparts, hcost, hcut⟩

/-- A salt that is not encoded well comes before a cost out of range. -/
theorem Laid.parse_of_error (h : Laid line cost saltText digestText)
    (hsalt : decoded saltText = .error fault) : parse line = .error fault := by
  obtain ⟨scheme, known, costPart, last, hparts, hcost, hcut⟩ := h
  simp only [parse, hparts, hcost, hcut, hsalt]
  rw [if_neg (not_not.2 known)]
  rfl

/-- When the salt of a line is read, the range of the cost is checked, and then the digest is
read. -/
theorem Laid.parse_of_salt (h : Laid line cost saltText digestText) {salt : Bcrypt.Salt}
    (hsalt : decoded saltText = .ok salt.toList) : parse line =
      if cost < minCost ∨ maxCost < cost then .error (.costRange cost)
      else (decoded digestText).map fun digest => ⟨cost, salt, digest⟩ := by
  obtain ⟨scheme, known, costPart, last, hparts, hcost, hcut⟩ := h
  simp only [parse, hparts, hcost, hcut, hsalt]
  rw [if_neg (not_not.2 known)]
  simp only [bind, Except.bind, Bytes.block?_toList]
  split
  · rfl
  · cases decoded digestText <;> rfl

/-- The text of a salt has 22 bytes, and so 16 bytes are encoded in it. -/
theorem Laid.exists_salt (h : Laid line cost saltText digestText) {bytes : Bytes}
    (hsalt : decoded saltText = .ok bytes) : ∃ salt : Bcrypt.Salt, salt.toList = bytes := by
  obtain ⟨_, -, _, _, -, -, hcut⟩ := h
  obtain ⟨-, length, -, -⟩ := cut?_eq_some_iff.1 hcut
  rw [decoded_eq_ok_iff.1 hsalt, Base64.length_encode] at length
  exact Bytes.exists_block (by omega)

/-- A line is read if its parts are a name of the scheme, a cost in range, and the encoded salt and
digest. -/
theorem parse_eq_ok_iff : parse line = .ok r ↔
    Laid line r.cost (Base64.encode .bcrypt r.salt.toList) (Base64.encode .bcrypt r.digest) ∧
      minCost ≤ r.cost ∧ r.cost ≤ maxCost := by
  constructor
  · intro h
    obtain ⟨cost, saltText, digestText, laid⟩ := exists_laid h
    rcases hsalt : decoded saltText with fault | bytes
    · rw [laid.parse_of_error hsalt] at h
      cases h
    obtain ⟨salt, rfl⟩ := laid.exists_salt hsalt
    rw [laid.parse_of_salt hsalt] at h
    split at h
    case isTrue => cases h
    case isFalse range =>
      obtain ⟨digest, hdigest, rfl⟩ := map_eq_ok_iff.1 h
      obtain rfl := decoded_eq_ok_iff.1 hsalt
      obtain rfl := decoded_eq_ok_iff.1 hdigest
      obtain ⟨low, high⟩ := not_or.1 range
      exact ⟨laid, Nat.not_lt.1 low, Nat.not_lt.1 high⟩
  · rintro ⟨laid, low, high⟩
    rw [laid.parse_of_salt (decoded_eq_ok_iff.2 rfl), if_neg]
    · rw [decoded_eq_ok_iff.2 rfl]
      rfl
    · rw [not_or]
      exact ⟨Nat.not_lt.2 low, Nat.not_lt.2 high⟩

/-! ## Writing and reading back -/

/-- The record has a line that can be read. -/
structure Storable (r : Record) : Prop where
  /-- The cost is not too low. -/
  low : minCost ≤ r.cost
  /-- The cost is not too high. -/
  high : r.cost ≤ maxCost
  /-- The digest is whole. -/
  length_digest : r.digest.length = 23

/-- A line, character by character: the version, the cost, and the salt and digest without a
break. -/
theorem toList_text (r : Record) : r.text.toList =
    "$2b$".toList ++ Decimal.padded 2 r.cost ++ '$' :: encoded r.salt.toList ++ encoded r.digest :=
  String.toList_ofList

/-- A cost that can be stored has two digits at most. -/
theorem Storable.cost_lt (h : r.Storable) : r.cost < 100 := Nat.lt_of_le_of_lt h.high (by decide)

/-- The parts of the line that is written of a record. -/
theorem Storable.parts_text (h : r.Storable) : parts r.text =
    [['2', 'b'], Decimal.padded 2 r.cost, encoded r.salt.toList ++ encoded r.digest] := by
  have text : r.text = String.ofList ('$' :: (['2', 'b'] ++ '$' ::
      (Decimal.padded 2 r.cost ++ '$' :: (encoded r.salt.toList ++ encoded r.digest)))) := by
    rw [← String.toList_inj, toList_text, String.toList_ofList]
    simp
  have scheme : parts (String.ofList ['2', 'b']) = [['2', 'b']] :=
    parts_of_not_mem (by decide) (by simp)
  have cost : parts (String.ofList (Decimal.padded 2 r.cost)) = [Decimal.padded 2 r.cost] := by
    obtain ⟨ds, isDigits, spelled, -⟩ := Decimal.exists_digits_padded 2 r.cost
    rw [spelled]
    exact parts_of_not_mem (isDigits.not_mem_map (by decide)) (by simpa using isDigits.ne_nil)
  have last : parts (String.ofList (encoded r.salt.toList ++ encoded r.digest)) =
      [encoded r.salt.toList ++ encoded r.digest] := by
    apply parts_of_not_mem
    · rw [List.mem_append, not_or]
      exact ⟨dollar_not_mem_encoded _, dollar_not_mem_encoded _⟩
    · apply List.ne_nil_of_length_pos
      rw [List.length_append, length_encoded, length_encoded, h.length_digest]
      omega
  rw [text, parts_cons, parts_append, parts_append, scheme, cost, last]
  rfl

/-- What was written of a record is read back. -/
theorem parse_text (h : r.Storable) : parse r.text = .ok r := by
  rw [parse_eq_ok_iff]
  refine ⟨⟨_, ?_, _, _, h.parts_text, cost?_padded h.cost_lt,
    cut?_encoded r.salt.length_toList h.length_digest⟩, h.low, h.high⟩
  simp [schemes]

/-- Storable records are those that some line is read as. -/
theorem storable_iff : r.Storable ↔ ∃ line, parse line = .ok r := by
  constructor
  · exact fun h => ⟨r.text, parse_text h⟩
  · rintro ⟨line, read⟩
    obtain ⟨⟨_, -, _, _, -, -, cut⟩, low, high⟩ := parse_eq_ok_iff.1 read
    obtain ⟨-, -, length, -⟩ := cut?_eq_some_iff.1 cut
    rw [Base64.length_encode] at length
    exact ⟨low, high, by omega⟩

/-- Different records have different lines. -/
theorem text_inj {r' : Record} (h : r.Storable) (h' : r'.Storable) : r.text = r'.text ↔ r = r' := by
  constructor
  · intro same
    have read := parse_text h
    rw [same, parse_text h'] at read
    exact (Except.ok.inj read).symm
  · rintro rfl
    rfl

end Credentials.Password.Record
