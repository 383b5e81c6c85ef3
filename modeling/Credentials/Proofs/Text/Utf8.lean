import Credentials.Proofs.Except
import Credentials.Text.Utf8

/-!
# Encoding and decoding UTF-8

* `decode_encode` — decoding gives back every text that was encoded; hence `encode_injective` and
  `ofString_injective`, and `string?_ofString` for strings.
* `decode_eq_ok_iff` — nothing else is decoded, and `string?_eq_some_iff` for strings.
* `encode_of_ascii` — a text of ASCII characters has one byte for each of them, and
  `ofString_chars`: a string of ASCII bytes encodes to these bytes. No other character has a byte in
  ASCII (`mem_of_mem_encode`).
* `encode_eq_append_iff` — which places of an encoded text are between two of its characters.

A character takes one to four bytes. The lead byte fixes how many (`width_eq`), and in each of the
four cases the decoder takes exactly these bytes and no more (`decodeFrom_one` and the three after
it).
-/

namespace Credentials.Utf8

/-! ## Bytes by their ranges -/

/-- The range of the bytes that continue a character. -/
theorem isTail_iff {b : UInt8} : isTail b = true ↔ 0x80 ≤ b.toNat ∧ b.toNat ≤ 0xBF := by
  simp only [isTail, Bool.and_eq_true, decide_eq_true_eq, UInt8.le_iff_toNat_le]
  rfl

/-- The length of a character by its first byte, or zero if that begins none. -/
theorem width_eq (a : UInt8) :
    width a = if a.toNat < 0x80 then 1
      else if 0xC2 ≤ a.toNat ∧ a.toNat ≤ 0xDF then 2
      else if 0xE0 ≤ a.toNat ∧ a.toNat ≤ 0xEF then 3
      else if 0xF0 ≤ a.toNat ∧ a.toNat ≤ 0xF4 then 4
      else 0 := by
  simp only [width, Bool.and_eq_true, decide_eq_true_eq, UInt8.le_iff_toNat_le,
    UInt8.lt_iff_toNat_lt]
  rfl

/-- A second byte is a tail byte, and four leads narrow its range at one end. -/
theorem isSecond_iff {a b : UInt8} :
    isSecond a b = true ↔ 0x80 ≤ b.toNat ∧ b.toNat ≤ 0xBF ∧
      (a.toNat = 0xE0 → 0xA0 ≤ b.toNat) ∧ (a.toNat = 0xED → b.toNat ≤ 0x9F) ∧
      (a.toNat = 0xF0 → 0x90 ≤ b.toNat) ∧ (a.toNat = 0xF4 → b.toNat ≤ 0x8F) := by
  have lead (n : Nat) (hn : n < 256) : a = UInt8.ofNat n ↔ a.toNat = n := by
    rw [← UInt8.toNat_inj, UInt8.toNat_ofNat_of_lt' hn]
  have hE0 : a = 0xE0 ↔ a.toNat = 0xE0 := lead _ (by decide)
  have hED : a = 0xED ↔ a.toNat = 0xED := lead _ (by decide)
  have hF0 : a = 0xF0 ↔ a.toNat = 0xF0 := lead _ (by decide)
  have hF4 : a = 0xF4 ↔ a.toNat = 0xF4 := lead _ (by decide)
  simp only [isSecond, isTail, hE0, hED, hF0, hF4]
  repeat' split
  all_goals
    simp only [Bool.and_eq_true, decide_eq_true_eq, UInt8.le_iff_toNat_le, UInt8.reduceToNat]
    omega

/-! ## One character -/

variable {a b c d : UInt8} (pos : Nat) (rest : Bytes)

/-- A character of one byte is decoded. -/
theorem decodeFrom_one (h : width a = 1) :
    decodeFrom pos (a :: rest) = (decodeFrom (pos + 1) rest).map (assemble 0x80 a [] :: ·) := by
  rw [decodeFrom.eq_def]
  exact if_pos h

/-- A character of two bytes is decoded. -/
theorem decodeFrom_two (h : width a = 2) (hb : isSecond a b = true) :
    decodeFrom pos (a :: b :: rest) =
      (decodeFrom (pos + 2) rest).map (assemble 0x20 a [b] :: ·) := by
  rw [decodeFrom.eq_def]
  simp [h, hb]

/-- A character of three bytes is decoded. -/
theorem decodeFrom_three (h : width a = 3) (hb : isSecond a b = true) (hc : isTail c = true) :
    decodeFrom pos (a :: b :: c :: rest) =
      (decodeFrom (pos + 3) rest).map (assemble 0x10 a [b, c] :: ·) := by
  rw [decodeFrom.eq_def]
  simp [h, hb, hc]

/-- A character of four bytes is decoded. -/
theorem decodeFrom_four (h : width a = 4) (hb : isSecond a b = true) (hc : isTail c = true)
    (hd : isTail d = true) :
    decodeFrom pos (a :: b :: c :: d :: rest) =
      (decodeFrom (pos + 4) rest).map (assemble 0x08 a [b, c, d] :: ·) := by
  rw [decodeFrom.eq_def]
  simp [h, hb, hc, hd]

/-- The decoder takes exactly the bytes of one character. -/
theorem decodeFrom_utf8EncodeChar (ch : Char) :
    decodeFrom pos (String.utf8EncodeChar ch ++ rest) =
      (decodeFrom (pos + (String.utf8EncodeChar ch).length) rest).map (ch :: ·) := by
  have valid : ch.toNat < 0xD800 ∨ 0xDFFF < ch.toNat ∧ ch.toNat < 0x110000 := ch.valid
  have hv : ch.val.toNat = ch.toNat := rfl
  have tail (n : Nat) : (UInt8.ofNat (n % 0x40 + 0x80)).toNat = n % 0x40 + 0x80 :=
    Bytes.toNat_byte (by omega)
  have spells {size : Nat} {lead : UInt8} {tails : Bytes}
      (h : tails.foldl (fun n b => n * 64 + b.toNat % 64) (lead.toNat % size) = ch.toNat) :
      assemble size lead tails = ch := by rw [assemble, h, Char.ofNat_toNat]
  simp only [String.utf8EncodeChar, hv]
  split
  case isTrue h₁ =>
    have ha : (UInt8.ofNat ch.toNat).toNat = ch.toNat := Bytes.toNat_byte (by omega)
    rw [List.singleton_append, decodeFrom_one, spells]
    · rfl
    · simp only [List.foldl_nil, ha]
      omega
    · rw [width_eq, ha, if_pos (by omega)]
  split
  case isTrue h₁ h₂ =>
    have ha : (UInt8.ofNat (ch.toNat / 64 % 0x20 + 0xC0)).toNat = ch.toNat / 64 % 0x20 + 0xC0 :=
      Bytes.toNat_byte (by omega)
    rw [List.cons_append, List.singleton_append, decodeFrom_two, spells]
    · rfl
    · simp only [List.foldl_cons, List.foldl_nil, ha, tail]
      omega
    · rw [width_eq, ha, if_neg (by omega), if_pos (by omega)]
    · rw [isSecond_iff, ha, tail]
      omega
  split
  case isTrue h₁ h₂ h₃ =>
    have ha : (UInt8.ofNat (ch.toNat / 4096 % 0x10 + 0xE0)).toNat =
        ch.toNat / 4096 % 0x10 + 0xE0 := Bytes.toNat_byte (by omega)
    rw [List.cons_append, List.cons_append, List.singleton_append, decodeFrom_three, spells]
    · rfl
    · simp only [List.foldl_cons, List.foldl_nil, ha, tail]
      omega
    · rw [width_eq, ha, if_neg (by omega), if_neg (by omega), if_pos (by omega)]
    · rw [isSecond_iff, ha, tail]
      omega
    · rw [isTail_iff, tail]
      omega
  case isFalse h₁ h₂ h₃ =>
    have ha : (UInt8.ofNat (ch.toNat / 262144 % 0x08 + 0xF0)).toNat =
        ch.toNat / 262144 % 0x08 + 0xF0 := Bytes.toNat_byte (by omega)
    rw [List.cons_append, List.cons_append, List.cons_append, List.singleton_append,
      decodeFrom_four, spells]
    · rfl
    · simp only [List.foldl_cons, List.foldl_nil, ha, tail]
      omega
    · rw [width_eq, ha, if_neg (by omega), if_neg (by omega), if_neg (by omega),
        if_pos (by omega)]
    · rw [isSecond_iff, ha, tail]
      omega
    · rw [isTail_iff, tail]
      omega
    · rw [isTail_iff, tail]
      omega

/-! ## Texts -/

/-- A text is decoded from its bytes, wherever they stand. -/
theorem decodeFrom_encode (pos : Nat) (cs : List Char) : decodeFrom pos (encode cs) = .ok cs := by
  induction cs generalizing pos with
  | nil => rfl
  | cons ch cs ih =>
    rw [encode_cons, decodeFrom_utf8EncodeChar, ih]
    rfl

/-- Decoding gives back every text that was encoded. -/
@[simp] theorem decode_encode (cs : List Char) : decode (encode cs) = .ok cs :=
  decodeFrom_encode 0 cs

/-- Pieces with separators are encoded piece by piece. -/
theorem encode_intercalate (sep : List Char) (ls : List (List Char)) :
    encode (sep.intercalate ls) = (encode sep).intercalate (ls.map encode) := by
  induction ls with
  | nil => rfl
  | cons l ls ih =>
    cases ls with
    | nil => simp only [List.map_cons, List.map_nil, List.intercalate_singleton]
    | cons l' ls =>
      rw [List.intercalate_cons_cons, encode_append, encode_append, ih]
      simp only [List.map_cons, List.intercalate_cons_cons]

/-- The bytes tell the text. -/
theorem encode_injective {as bs : List Char} (h : encode as = encode bs) : as = bs := by
  have h := congrArg decode h
  rw [decode_encode, decode_encode] at h
  exact Except.ok.inj h

/-- A string is read back from its bytes. -/
@[simp] theorem string?_ofString (s : String) : string? (ofString s) = some s := by
  rw [string?, ofString, decode_encode]
  exact congrArg some String.ofList_toList

/-- Strings are encoded one after the other. -/
theorem ofString_append (s t : String) : ofString (s ++ t) = ofString s ++ ofString t := by
  rw [ofString, String.toList_append, encode, List.flatMap_append]
  rfl

/-- The bytes of a string tell it. -/
theorem ofString_injective {s t : String} (h : ofString s = ofString t) : s = t :=
  String.toList_injective (encode_injective h)

/-! ## Only encoded texts are decoded -/

/-- A character is put together from the bits of its bytes, if they make one. -/
theorem toNat_assemble {size n : Nat} {lead : UInt8} {tails : Bytes}
    (h : tails.foldl (fun n b => n * 64 + b.toNat % 64) (lead.toNat % size) = n)
    (valid : n < 0xD800 ∨ 0xDFFF < n ∧ n < 0x110000) : (assemble size lead tails).toNat = n := by
  rw [assemble, h, Char.ofNat, dif_pos valid]
  rfl

section

variable {a b c d : UInt8}

/-- The ranges of lead bytes. -/
theorem lead_range (a : UInt8) :
    (width a = 1 → a.toNat < 0x80) ∧ (width a = 2 → 0xC2 ≤ a.toNat ∧ a.toNat ≤ 0xDF) ∧
      (width a = 3 → 0xE0 ≤ a.toNat ∧ a.toNat ≤ 0xEF) ∧
      (width a = 4 → 0xF0 ≤ a.toNat ∧ a.toNat ≤ 0xF4) ∧ width a ≤ 4 := by
  rw [width_eq]
  repeat' split
  all_goals omega

/-- The character of one byte has that byte. -/
theorem utf8EncodeChar_assemble_one (h : width a = 1) :
    String.utf8EncodeChar (assemble 0x80 a []) = [a] := by
  have ha : a.toNat < 0x80 := (lead_range a).1 h
  have value : (assemble 0x80 a []).val.toNat = a.toNat := by
    apply toNat_assemble
    · simp only [List.foldl_nil]
      omega
    · omega
  simp only [String.utf8EncodeChar, value]
  rw [if_pos (by omega), UInt8.ofNat_toNat]

/-- The character of two bytes has those bytes. -/
theorem utf8EncodeChar_assemble_two (h : width a = 2) (hb : isSecond a b = true) :
    String.utf8EncodeChar (assemble 0x20 a [b]) = [a, b] := by
  obtain ⟨low, high⟩ := (lead_range a).2.1 h
  rw [isSecond_iff] at hb
  have value : (assemble 0x20 a [b]).val.toNat = (a.toNat - 0xC0) * 64 + (b.toNat - 0x80) := by
    apply toNat_assemble
    · simp only [List.foldl_cons, List.foldl_nil]
      omega
    · omega
  simp only [String.utf8EncodeChar, value]
  rw [if_neg (by omega), if_pos (by omega), Bytes.ofNat_eq (b := a) (by omega),
    Bytes.ofNat_eq (b := b) (by omega)]

/-- The character of three bytes has those bytes. -/
theorem utf8EncodeChar_assemble_three (h : width a = 3) (hb : isSecond a b = true)
    (hc : isTail c = true) : String.utf8EncodeChar (assemble 0x10 a [b, c]) = [a, b, c] := by
  obtain ⟨low, high⟩ := (lead_range a).2.2.1 h
  rw [isSecond_iff] at hb
  rw [isTail_iff] at hc
  have value : (assemble 0x10 a [b, c]).val.toNat =
      ((a.toNat - 0xE0) * 64 + (b.toNat - 0x80)) * 64 + (c.toNat - 0x80) := by
    apply toNat_assemble
    · simp only [List.foldl_cons, List.foldl_nil]
      omega
    · omega
  simp only [String.utf8EncodeChar, value]
  rw [if_neg (by omega), if_neg (by omega), if_pos (by omega), Bytes.ofNat_eq (b := a) (by omega),
    Bytes.ofNat_eq (b := b) (by omega), Bytes.ofNat_eq (b := c) (by omega)]

/-- The character of four bytes has those bytes. -/
theorem utf8EncodeChar_assemble_four (h : width a = 4) (hb : isSecond a b = true)
    (hc : isTail c = true) (hd : isTail d = true) :
    String.utf8EncodeChar (assemble 0x08 a [b, c, d]) = [a, b, c, d] := by
  obtain ⟨low, high⟩ := (lead_range a).2.2.2.1 h
  rw [isSecond_iff] at hb
  rw [isTail_iff] at hc hd
  have value : (assemble 0x08 a [b, c, d]).val.toNat =
      (((a.toNat - 0xF0) * 64 + (b.toNat - 0x80)) * 64 + (c.toNat - 0x80)) * 64 +
        (d.toNat - 0x80) := by
    apply toNat_assemble
    · simp only [List.foldl_cons, List.foldl_nil]
      omega
    · omega
  simp only [String.utf8EncodeChar, value]
  rw [if_neg (by omega), if_neg (by omega), if_neg (by omega), Bytes.ofNat_eq (b := a) (by omega),
    Bytes.ofNat_eq (b := b) (by omega), Bytes.ofNat_eq (b := c) (by omega),
    Bytes.ofNat_eq (b := d) (by omega)]

end

/-- A byte string that is decoded is the encoded form of the text that it is decoded to. -/
theorem eq_encode_of_decodeFrom {pos : Nat} {bs : Bytes} {cs : List Char}
    (h : decodeFrom pos bs = .ok cs) : bs = encode cs := by
  have passed {b : Bool} (h : ¬ (!b) = true) : b = true := by simpa using h
  fun_induction decodeFrom pos bs generalizing cs with
  | case1 =>
    cases h
    rfl
  | case2 pos a rest one ih =>
    obtain ⟨cs, hrest, rfl⟩ := map_eq_ok_iff.1 h
    rw [encode_cons, utf8EncodeChar_assemble_one one, ← ih hrest]
    rfl
  | case3 | case4 | case5 | case7 | case8 | case10 | case11 => cases h
  | case6 pos a _ _ b rest hb two ih =>
    obtain ⟨cs, hrest, rfl⟩ := map_eq_ok_iff.1 h
    rw [encode_cons, utf8EncodeChar_assemble_two two (passed hb), ← ih hrest]
    rfl
  | case9 pos a _ _ b hb _ c rest hc three ih =>
    obtain ⟨cs, hrest, rfl⟩ := map_eq_ok_iff.1 h
    rw [encode_cons, utf8EncodeChar_assemble_three three (passed hb) (passed hc), ← ih hrest]
    rfl
  | case12 pos a _ _ b hb _ c hc _ d rest hd ih =>
    obtain ⟨cs, hrest, rfl⟩ := map_eq_ok_iff.1 h
    have four : width a = 4 := by
      have := (lead_range a).2.2.2.2
      omega
    rw [encode_cons, utf8EncodeChar_assemble_four four (passed hb) (passed hc) (passed hd),
      ← ih hrest]
    rfl

/-- A byte string is decoded to a text if it is the encoded form of it. -/
theorem decode_eq_ok_iff {bs : Bytes} {cs : List Char} : decode bs = .ok cs ↔ bs = encode cs := by
  constructor
  · exact eq_encode_of_decodeFrom
  · rintro rfl
    exact decode_encode cs

/-- The first character of a text is known by its bytes. -/
theorem encodeChar_append_inj {ch ch' : Char} {bs : Bytes} {cs : List Char}
    (h : String.utf8EncodeChar ch ++ bs = String.utf8EncodeChar ch' ++ encode cs) :
    ch = ch' ∧ bs = encode cs := by
  have decoded := decode_encode (ch' :: cs)
  rw [encode_cons, ← h, decode, decodeFrom_utf8EncodeChar] at decoded
  obtain ⟨cs', hcs', heq⟩ := map_eq_ok_iff.1 decoded
  obtain ⟨rfl, rfl⟩ := List.cons.inj heq
  exact ⟨rfl, eq_encode_of_decodeFrom hcs'⟩

/-- Bytes are read as a string just if they are its bytes. -/
theorem string?_eq_some_iff {bs : Bytes} {s : String} : string? bs = some s ↔ bs = ofString s := by
  constructor
  · intro h
    obtain ⟨cs, hcs, rfl⟩ := Option.map_eq_some_iff.1 h
    rcases decoded : decode bs with fault | cs'
    · rw [decoded] at hcs
      cases hcs
    · rw [decoded] at hcs
      obtain rfl := Option.some.inj hcs
      rw [ofString, String.toList_ofList]
      exact decode_eq_ok_iff.1 decoded
  · rintro rfl
    exact string?_ofString s

/-! ## Places between characters -/

/-- A character is a byte that is no tail, and tails behind it. -/
theorem exists_utf8EncodeChar_eq (ch : Char) : ∃ lead tails,
    String.utf8EncodeChar ch = lead :: tails ∧ isTail lead = false ∧
      ∀ b ∈ tails, isTail b = true := by
  have hv : ch.val.toNat = ch.toNat := rfl
  have noTail {n : Nat} (h : n < 0x80 ∨ 0xBF < n) (h' : n < 256) :
      isTail (UInt8.ofNat n) = false := by
    rw [Bool.eq_false_iff, ne_eq, isTail_iff, Bytes.toNat_byte h']
    omega
  have tail (n : Nat) : isTail (UInt8.ofNat (n % 0x40 + 0x80)) = true := by
    rw [isTail_iff, Bytes.toNat_byte (by omega)]
    omega
  simp only [String.utf8EncodeChar, hv]
  repeat' split
  all_goals
    refine ⟨_, _, rfl, noTail (by omega) (by omega), ?_⟩
    simp only [List.forall_mem_cons, List.not_mem_nil, false_imp_iff, implies_true, tail,
      and_self]

/-- No text begins with a tail. -/
theorem head?_encode_any_isTail (cs : List Char) : (encode cs).head?.any isTail = false := by
  rcases cs with _ | ⟨ch, cs⟩
  · rfl
  · obtain ⟨lead, tails, heq, noTail, -⟩ := exists_utf8EncodeChar_eq ch
    rw [encode_cons, heq]
    exact noTail

/-- Between two bytes of a text there is a place between two of its characters, unless a tail
follows. -/
theorem encode_eq_append_iff {cs : List Char} {before after : Bytes} :
    encode cs = before ++ after ∧ after.head?.any isTail = false ↔
      ∃ left right, cs = left ++ right ∧ encode left = before ∧ encode right = after := by
  constructor
  · rintro ⟨heq, noTail⟩
    induction cs generalizing before with
    | nil =>
      obtain ⟨rfl, rfl⟩ := List.append_eq_nil_iff.1 heq.symm
      exact ⟨[], [], rfl, rfl, rfl⟩
    | cons ch cs ih =>
      rcases before with _ | ⟨b, before⟩
      · exact ⟨[], ch :: cs, rfl, rfl, heq⟩
      rw [encode_cons] at heq
      rcases List.append_eq_append_iff.1 heq with ⟨rest, hbefore, hcs⟩ | ⟨rest, hch, hafter⟩
      · obtain ⟨left, right, rfl, rfl, rfl⟩ := ih hcs
        exact ⟨ch :: left, right, rfl, hbefore.symm, rfl⟩
      · -- what is left of a character begins with a tail
        obtain ⟨lead, tails, hlead, -, tail⟩ := exists_utf8EncodeChar_eq ch
        rw [hlead, List.cons_append, List.cons.injEq] at hch
        rcases rest with _ | ⟨t, rest⟩
        · refine ⟨[ch], cs, rfl, ?_, hafter.symm⟩
          rw [encode_cons, encode_nil, hlead, hch.1, hch.2, List.append_nil, List.append_nil]
        · rw [hafter, List.cons_append, List.head?_cons, Option.any_some,
            tail t (by simp [hch.2])] at noTail
          cases noTail
  · rintro ⟨left, right, rfl, rfl, rfl⟩
    exact ⟨encode_append left right, head?_encode_any_isTail right⟩

/-! ## ASCII -/

/-- An ASCII character is its own byte. -/
theorem utf8EncodeChar_of_ascii {ch : Char} (h : ch.toNat < 0x80) :
    String.utf8EncodeChar ch = [UInt8.ofNat ch.toNat] := if_pos (Nat.le_of_lt_succ h)

/-- A character outside ASCII has no byte in ASCII. -/
theorem le_of_mem_utf8EncodeChar {ch : Char} {b : UInt8} (h : 0x80 ≤ ch.toNat)
    (hb : b ∈ String.utf8EncodeChar ch) : 0x80 ≤ b.toNat := by
  have large {n : Nat} (h : 0x80 ≤ n) (h' : n < 256) : 0x80 ≤ (UInt8.ofNat n).toNat := by
    rwa [Bytes.toNat_byte h']
  have hv : ch.val.toNat = ch.toNat := rfl
  simp only [String.utf8EncodeChar, hv] at hb
  rw [if_neg (by omega)] at hb
  repeat' split at hb
  all_goals simp only [List.mem_cons, List.not_mem_nil, or_false] at hb
  · rcases hb with rfl | rfl <;> exact large (by omega) (by omega)
  · rcases hb with rfl | rfl | rfl <;> exact large (by omega) (by omega)
  · rcases hb with rfl | rfl | rfl | rfl <;> exact large (by omega) (by omega)

/-- Every ASCII byte of an encoded text is a character of the text. -/
theorem exists_char_of_mem_encode {cs : List Char} {b : UInt8} (hb : b ∈ encode cs)
    (h : b.toNat < 0x80) : ∃ ch ∈ cs, ch.toNat = b.toNat := by
  obtain ⟨ch, hch, hmem⟩ := List.mem_flatMap.1 hb
  refine ⟨ch, hch, ?_⟩
  by_cases hlow : ch.toNat < 0x80
  · rw [utf8EncodeChar_of_ascii hlow, List.mem_singleton] at hmem
    rw [hmem, Bytes.toNat_byte (by omega)]
  · have := le_of_mem_utf8EncodeChar (by omega) hmem
    omega

/-- An ASCII character whose byte is in the encoding of a text is in the text. -/
theorem mem_of_mem_encode {cs : List Char} {ch : Char} (ascii : ch.toNat < 0x80)
    (h : UInt8.ofNat ch.toNat ∈ encode cs) : ch ∈ cs := by
  have value : (UInt8.ofNat ch.toNat).toNat = ch.toNat := Bytes.toNat_byte (by omega)
  obtain ⟨ch', hch', heq⟩ := exists_char_of_mem_encode h (by omega)
  rwa [Char.toNat_inj.1 (heq.trans value)] at hch'

/-- An ASCII byte of a string is one of its characters. -/
theorem mem_of_mem_ofString {s : String} {ch : Char} (ascii : ch.toNat < 0x80)
    (h : UInt8.ofNat ch.toNat ∈ ofString s) : ch ∈ s.toList := mem_of_mem_encode ascii h

/-- A text of ASCII characters has one byte for each. -/
theorem encode_of_ascii {cs : List Char} (h : ∀ ch ∈ cs, ch.toNat < 0x80) :
    encode cs = cs.map fun ch => UInt8.ofNat ch.toNat := by
  induction cs with
  | nil => rfl
  | cons ch cs ih =>
    rw [encode_cons, ih fun c hc => h c (List.mem_cons_of_mem _ hc),
      utf8EncodeChar_of_ascii (h ch List.mem_cons_self)]
    rfl

/-- Below the surrogates every number is the code of a character. -/
theorem toNat_ofNat_char {n : Nat} (h : n < 0xD800) : (Char.ofNat n).toNat = n := by
  rw [Char.ofNat, dif_pos (Or.inl h)]
  rfl

/-- The string of ASCII bytes encodes to these bytes. -/
theorem ofString_chars {bs : Bytes} (h : ∀ b ∈ bs, b.toNat < 0x80) :
    ofString (String.ofList bs.chars) = bs := by
  have value (b : UInt8) : (Char.ofNat b.toNat).toNat = b.toNat :=
    toNat_ofNat_char (Nat.lt_trans b.toNat_lt (by decide))
  rw [ofString, String.toList_ofList, encode_of_ascii]
  · simp only [Bytes.chars, List.map_map, Function.comp_def, value, UInt8.ofNat_toNat,
      List.map_id']
  · intro ch hch
    obtain ⟨b, hb, rfl⟩ := List.mem_map.1 hch
    rw [value]
    exact h b hb

end Credentials.Utf8
