import Credentials.Text.Hex

/-!
# Decoding hexadecimal text

* `decode_encode` — decoding gives back every byte string that was encoded.
* `decode_eq_some_iff` — a text decodes to bytes if and only if it is their encoded form but for the
  case of its letters, and `exists_decode_iff`: it decodes at all if and only if it is an even
  number of digits (`IsDigit`).
* `length_of_decode` — a text that decodes has two characters for each byte.
-/

namespace Credentials.Hex

/-! ## Digits -/

/-- An ASCII hexadecimal digit of either case. -/
def IsDigit (c : Char) : Prop :=
  '0' ≤ c ∧ c ≤ '9' ∨ 'a' ≤ c ∧ c ≤ 'f' ∨ 'A' ≤ c ∧ c ≤ 'F'

instance (c : Char) : Decidable (IsDigit c) := inferInstanceAs (Decidable (_ ∨ _ ∨ _))

/-- The three ranges of hexadecimal digits. -/
theorem isDigit_iff {c : Char} : IsDigit c ↔ 0x30 ≤ c.toNat ∧ c.toNat ≤ 0x39 ∨
    0x61 ≤ c.toNat ∧ c.toNat ≤ 0x66 ∨ 0x41 ≤ c.toNat ∧ c.toNat ≤ 0x46 := Iff.rfl

/-- Only ASCII capitals have another lower case here. -/
theorem toNat_toLower (c : Char) :
    c.toLower.toNat = if 0x41 ≤ c.toNat ∧ c.toNat ≤ 0x5A then c.toNat + 0x20 else c.toNat := by
  have upper : c.val ≥ 'A'.val ∧ c.val ≤ 'Z'.val ↔ 0x41 ≤ c.toNat ∧ c.toNat ≤ 0x5A := Iff.rfl
  unfold Char.toLower
  by_cases h : 0x41 ≤ c.toNat ∧ c.toNat ≤ 0x5A
  · have value : (c.val + 0x20).toNat = (c.toNat + 0x20) % 4294967296 := UInt32.toNat_add ..
    rw [dif_pos (upper.2 h), if_pos h]
    exact value.trans (Nat.mod_eq_of_lt (by omega))
  · rw [dif_neg (mt upper.1 h), if_neg h]

/-- The codes of the digits in lower case. -/
theorem toNat_digitChar :
    ∀ d < 16, (digitChar d).toNat = if d < 10 then 0x30 + d else 0x57 + d := by
  decide

/-- The value of a digit is the number that it is the digit of in lower case. -/
theorem digit?_eq_some_iff {c : Char} {d : Nat} :
    digit? c = some d ↔ d < 16 ∧ c.toLower = digitChar d := by
  have spelled : d < 16 → (c.toLower = digitChar d ↔
      (if 0x41 ≤ c.toNat ∧ c.toNat ≤ 0x5A then c.toNat + 0x20 else c.toNat) =
        if d < 10 then 0x30 + d else 0x57 + d) := by
    intro below
    rw [← Char.toNat_inj, toNat_toLower, toNat_digitChar d below]
  have value : digit? c = some d ↔
      0x30 ≤ c.toNat ∧ c.toNat ≤ 0x39 ∧ d = c.toNat - 0x30 ∨
      0x61 ≤ c.toNat ∧ c.toNat ≤ 0x66 ∧ d = c.toNat - 0x57 ∨
      0x41 ≤ c.toNat ∧ c.toNat ≤ 0x46 ∧ d = c.toNat - 0x37 := by
    simp only [digit?]
    repeat' split
    all_goals simp only [Option.some.injEq, reduceCtorEq, false_iff]
    all_goals omega
  rw [value, and_congr_right spelled]
  split <;> split <;> omega

/-- A character has a value as a digit just if it is one. -/
theorem exists_digit?_iff {c : Char} : (∃ d, digit? c = some d) ↔ IsDigit c := by
  simp only [isDigit_iff, digit?]
  repeat' split
  all_goals
    simp only [Option.some.injEq, exists_eq', reduceCtorEq, exists_false, true_iff, false_iff]
  all_goals omega

/-- The character of a digit has its value. -/
theorem digit?_digitChar : ∀ d < 16, digit? (digitChar d) = some d := by decide

/-! ## Bytes -/

/-- The two digits of a byte spell that byte. -/
theorem byte?_digits (b : UInt8) :
    byte? (digitChar (b.toNat / 16)) (digitChar (b.toNat % 16)) = some b := by
  have hb : b.toNat < 256 := b.toNat_lt
  rw [byte?, digit?_digitChar _ (by omega), digit?_digitChar _ (by omega)]
  have value : b.toNat / 16 * 16 + b.toNat % 16 = b.toNat := by omega
  show some (UInt8.ofNat (b.toNat / 16 * 16 + b.toNat % 16)) = some b
  rw [value, UInt8.ofNat_toNat]

/-- Two characters are a byte just if, in lower case, they are its two digits. -/
theorem byte?_eq_some_iff {hi lo : Char} {b : UInt8} :
    byte? hi lo = some b ↔
      hi.toLower = digitChar (b.toNat / 16) ∧ lo.toLower = digitChar (b.toNat % 16) := by
  have hb : b.toNat < 256 := b.toNat_lt
  simp only [byte?, Option.bind_eq_bind, Option.bind_eq_some_iff, Option.pure_def,
    Option.some.injEq, digit?_eq_some_iff]
  constructor
  · rintro ⟨h, ⟨hh, high⟩, l, ⟨hl, low⟩, rfl⟩
    have value : (UInt8.ofNat (h * 16 + l)).toNat = h * 16 + l := Bytes.toNat_byte (by omega)
    have first : (h * 16 + l) / 16 = h := by omega
    have second : (h * 16 + l) % 16 = l := by omega
    rw [value, first, second]
    exact ⟨high, low⟩
  · rintro ⟨high, low⟩
    refine ⟨b.toNat / 16, ⟨by omega, high⟩, b.toNat % 16, ⟨by omega, low⟩, ?_⟩
    have value : b.toNat / 16 * 16 + b.toNat % 16 = b.toNat := by omega
    rw [value, UInt8.ofNat_toNat]

/-- Two characters are some byte just if both are digits. -/
theorem exists_byte?_iff {hi lo : Char} :
    (∃ b, byte? hi lo = some b) ↔ IsDigit hi ∧ IsDigit lo := by
  simp only [byte?, Option.bind_eq_bind, Option.bind_eq_some_iff, Option.pure_def,
    Option.some.injEq, ← exists_digit?_iff]
  constructor
  · rintro ⟨_, h, high, l, low, -⟩
    exact ⟨⟨h, high⟩, l, low⟩
  · rintro ⟨⟨h, high⟩, l, low⟩
    exact ⟨_, h, high, l, low, rfl⟩

/-! ## Texts -/

/-- Bytes are read back from their digits. -/
@[simp] theorem decode_encode (bs : Bytes) : decode (encode bs) = some bs := by
  induction bs with
  | nil => rfl
  | cons b bs ih =>
    show decode (digitChar (b.toNat / 16) :: digitChar (b.toNat % 16) :: encode bs) = _
    rw [decode, byte?_digits, ih]
    rfl

/-- There are two digits to a byte. -/
@[simp] theorem length_encode (bs : Bytes) : (encode bs).length = 2 * bs.length := by
  induction bs with
  | nil => rfl
  | cons b bs ih =>
    show (encode bs).length + 1 + 1 = 2 * (bs.length + 1)
    omega

/-- A text that decodes has two characters for each byte. -/
theorem length_of_decode {cs : List Char} {bs : Bytes} (h : decode cs = some bs) :
    cs.length = 2 * bs.length := by
  fun_induction decode cs generalizing bs with
  | case1 =>
    cases h
    rfl
  | case2 => cases h
  | case3 hi lo rest ih =>
    simp only [Option.bind_eq_bind, Option.bind_eq_some_iff, Option.pure_def,
      Option.some.injEq] at h
    obtain ⟨b, -, tail, htail, rfl⟩ := h
    have := ih htail
    simp only [List.length_cons]
    omega

/-- The digits of the first byte come first, the high one before the low one. -/
theorem encode_cons (b : UInt8) (bs : Bytes) :
    encode (b :: bs) = digitChar (b.toNat / 16) :: digitChar (b.toNat % 16) :: encode bs := rfl

/-- A text decodes to bytes if and only if it is their encoded form, but for the case of its
letters. -/
theorem decode_eq_some_iff {cs : List Char} {bs : Bytes} :
    decode cs = some bs ↔ cs.map Char.toLower = encode bs := by
  fun_induction decode cs generalizing bs with
  | case1 =>
    rcases bs with _ | ⟨b, bs⟩
    · exact iff_of_true rfl rfl
    · simp [encode_cons]
  | case2 c =>
    rcases bs with _ | ⟨b, bs⟩
    · simp [encode]
    · simp [encode_cons]
  | case3 hi lo rest ih =>
    simp only [Option.bind_eq_bind, Option.bind_eq_some_iff, Option.pure_def, Option.some.injEq,
      byte?_eq_some_iff, ih]
    constructor
    · rintro ⟨b, ⟨high, low⟩, bs, spelled, rfl⟩
      rw [List.map_cons, List.map_cons, high, low, spelled, encode_cons]
    · intro spelled
      rcases bs with _ | ⟨b, bs⟩
      · simp [encode] at spelled
      · simp only [List.map_cons, encode_cons, List.cons.injEq] at spelled
        exact ⟨b, ⟨spelled.1, spelled.2.1⟩, bs, spelled.2.2, rfl⟩

/-- Digits tell their bytes. -/
theorem encode_injective {as bs : Bytes} (h : encode as = encode bs) : as = bs := by
  have read := congrArg decode h
  rw [decode_encode, decode_encode] at read
  exact Option.some.inj read

/-- An encoded form is in lower case. -/
theorem map_toLower_encode (bs : Bytes) : (encode bs).map Char.toLower = encode bs :=
  decode_eq_some_iff.1 (decode_encode bs)

/-- A text decodes if and only if it is an even number of digits. -/
theorem exists_decode_iff {cs : List Char} :
    (∃ bs, decode cs = some bs) ↔ cs.length % 2 = 0 ∧ ∀ c ∈ cs, IsDigit c := by
  fun_induction decode cs with
  | case1 => simp
  | case2 c => simp
  | case3 hi lo rest ih =>
    simp only [Option.bind_eq_bind, Option.bind_eq_some_iff, Option.pure_def, Option.some.injEq]
    constructor
    · rintro ⟨_, b, first, bs, others, -⟩
      obtain ⟨high, low⟩ := exists_byte?_iff.1 ⟨b, first⟩
      obtain ⟨even, digits⟩ := ih.1 ⟨bs, others⟩
      refine ⟨?_, List.forall_mem_cons.2 ⟨high, List.forall_mem_cons.2 ⟨low, digits⟩⟩⟩
      rw [List.length_cons, List.length_cons]
      omega
    · rintro ⟨even, digits⟩
      obtain ⟨high, digits⟩ := List.forall_mem_cons.1 digits
      obtain ⟨low, digits⟩ := List.forall_mem_cons.1 digits
      rw [List.length_cons, List.length_cons] at even
      obtain ⟨b, first⟩ := exists_byte?_iff.2 ⟨high, low⟩
      obtain ⟨bs, others⟩ := ih.2 ⟨by omega, digits⟩
      exact ⟨_, b, first, bs, others, rfl⟩

/-- Bytes are written with digits only. -/
theorem isDigit_of_mem_encode {bs : Bytes} {c : Char} (h : c ∈ encode bs) : IsDigit c :=
  (exists_decode_iff.1 ⟨bs, decode_encode bs⟩).2 c h

end Credentials.Hex
