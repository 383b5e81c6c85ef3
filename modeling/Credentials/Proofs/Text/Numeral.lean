import Mathlib.Data.Nat.Digits.Defs
import Credentials.Proofs.Text.Decimal
import Credentials.Proofs.Text.Utf8
import Credentials.Text.Blank
import Credentials.Text.Decimal

/-!
# Numerals

A numeral is an optional sign and at least one ASCII digit (`Numeral`). There may be any number of
zeros in front, and there is no bound on the number that it denotes.

* `digits?_eq_some_iff` — what a row of digits spells.
* `exists_digits_padded`, `length_padded` — a number that is filled up with zeros, and its width.
* `int?_eq_some_iff` — **a text is read as an integer if and only if it is a numeral for it**.
-/

namespace Credentials.Decimal

/-! ## Rows of digits -/

/-- At least one decimal digit, and nothing else. -/
structure IsDigits (ds : List Nat) : Prop where
  /-- There is one. -/
  ne_nil : ds ≠ []
  /-- They are below ten. -/
  lt_ten : ∀ d ∈ ds, d < 10

/-- The number that a row of digits spells, the most significant first. -/
def value (ds : List Nat) : Nat := Nat.ofDigits 10 ds.reverse

/-- The value of digits, as it is added up from the left. -/
theorem value_eq_foldl (ds : List Nat) : value ds = ds.foldl (fun n d => n * 10 + d) 0 := by
  rw [value, Nat.ofDigits_eq_foldr, List.foldr_reverse]
  simp only [Nat.cast_id, Nat.add_comm, Nat.mul_comm]

/-- The code of a digit character. -/
theorem toNat_digitChar {d : Nat} (h : d < 10) : (digitChar d).toNat = 0x30 + d :=
  Utf8.toNat_ofNat_char (by omega)

/-- A character is read as a digit just if it is that digit's. -/
theorem digit?_eq_some_iff {c : Char} {d : Nat} : digit? c = some d ↔ d < 10 ∧ c = digitChar d := by
  rw [digit?]
  constructor
  · intro h
    split at h
    case isTrue range =>
      obtain rfl := Option.some.inj h
      have code : 0x30 + (c.toNat - 0x30) = c.toNat := by omega
      rw [digitChar, code, Char.ofNat_toNat]
      exact ⟨by omega, rfl⟩
    case isFalse => cases h
  · rintro ⟨lt, rfl⟩
    rw [toNat_digitChar lt, if_pos (by omega), Nat.add_sub_cancel_left]

/-- What digits add to a number that was read before them. -/
theorem foldlM_digit?_eq_some_iff {cs : List Char} {m n : Nat} :
    cs.foldlM (fun n c => (digit? c).map (n * 10 + ·)) m = some n ↔
      ∃ ds : List Nat, (∀ d ∈ ds, d < 10) ∧ cs = ds.map digitChar ∧
        n = ds.foldl (fun n d => n * 10 + d) m := by
  induction cs generalizing m with
  | nil =>
    constructor
    · rintro ⟨⟩
      exact ⟨[], by simp, rfl, rfl⟩
    · rintro ⟨ds, -, empty, rfl⟩
      obtain rfl := List.map_eq_nil_iff.1 empty.symm
      rfl
  | cons c cs ih =>
    rw [List.foldlM_cons, Option.bind_eq_bind, Option.bind_eq_some_iff]
    constructor
    · rintro ⟨_, first, rest⟩
      obtain ⟨d, digit, rfl⟩ := Option.map_eq_some_iff.1 first
      obtain ⟨lt, rfl⟩ := digit?_eq_some_iff.1 digit
      obtain ⟨ds, hds, rfl, rfl⟩ := ih.1 rest
      exact ⟨d :: ds, List.forall_mem_cons.2 ⟨lt, hds⟩, rfl, rfl⟩
    · rintro ⟨ds, hds, spelled, rfl⟩
      obtain ⟨d, ds, rfl, rfl, rfl⟩ := List.map_eq_cons_iff.1 spelled.symm
      obtain ⟨lt, hds⟩ := List.forall_mem_cons.1 hds
      refine ⟨m * 10 + d, ?_, ih.2 ⟨ds, hds, rfl, rfl⟩⟩
      rw [digit?_eq_some_iff.2 ⟨lt, rfl⟩]
      rfl

/-- A text is read as a number just if it is a row of digits for it. -/
theorem digits?_eq_some_iff {cs : List Char} {n : Nat} :
    digits? cs = some n ↔ ∃ ds, IsDigits ds ∧ cs = ds.map digitChar ∧ n = value ds := by
  rw [digits?]
  constructor
  · intro h
    split at h
    case isTrue => cases h
    case isFalse nonempty =>
      obtain ⟨ds, hds, rfl, rfl⟩ := foldlM_digit?_eq_some_iff.1 h
      refine ⟨ds, ⟨?_, hds⟩, rfl, (value_eq_foldl ds).symm⟩
      rintro rfl
      exact nonempty rfl
  · rintro ⟨ds, isDigits, rfl, rfl⟩
    rw [if_neg (mt List.map_eq_nil_iff.1 isDigits.ne_nil), foldlM_digit?_eq_some_iff]
    exact ⟨ds, isDigits.lt_ten, rfl, value_eq_foldl ds⟩

/-! ## Leading zeros -/

/-- The digits of a number are digits, and there is at least one. -/
theorem isDigits_digits (n : Nat) : IsDigits (digits n) := by
  refine ⟨?_, fun d hd => lt_of_mem_digits hd⟩
  rcases digits_head n with ⟨-, h⟩ | ⟨d, ds, -, h⟩
  · rw [h]
    exact List.cons_ne_nil _ _
  · rw [h]
    exact List.cons_ne_nil _ _

/-- A padded number is zeros and then its digits. -/
theorem padded_eq_map (width n : Nat) :
    padded width n =
      (List.replicate (width - (digits n).length) 0 ++ digits n).map digitChar := by
  rw [padded, ofNat_eq_map_digits, List.length_map, List.map_append, List.map_replicate]
  rfl

/-- Leading zeros are digits, and do not change the number. -/
theorem exists_digits_padded (width n : Nat) :
    ∃ ds, IsDigits ds ∧ padded width n = ds.map digitChar ∧ n = value ds := by
  refine ⟨_, ⟨?_, ?_⟩, padded_eq_map width n, ?_⟩
  · exact List.append_ne_nil_of_right_ne_nil _ (isDigits_digits n).ne_nil
  · intro d hd
    rcases List.mem_append.1 hd with zero | digit
    · rw [List.eq_of_mem_replicate zero]
      decide
    · exact lt_of_mem_digits digit
  · have zeros (k : Nat) : (List.replicate k 0).foldl (fun n d => n * 10 + d) 0 = 0 := by
      induction k with
      | zero => rfl
      | succ k ih => exact ih
    rw [value_eq_foldl, List.foldl_append, zeros, foldl_digits]

/-- A padded number is read back. -/
theorem digits?_padded (width n : Nat) : digits? (padded width n) = some n :=
  digits?_eq_some_iff.2 (exists_digits_padded width n)

/-- A number below a power of ten has as many digits at most. -/
theorem length_digits_le {width n : Nat} (pos : 0 < width) (h : n < 10 ^ width) :
    (digits n).length ≤ width := by
  fun_induction digits n generalizing width with
  | case1 => exact pos
  | case2 n large ih =>
    obtain ⟨width, rfl⟩ : ∃ k, width = k + 1 := ⟨width - 1, by omega⟩
    rw [Nat.pow_succ] at h
    have positive : 0 < width := by
      rcases Nat.eq_zero_or_pos width with rfl | positive
      · omega
      · exact positive
    rw [List.length_append, List.length_singleton]
    exact Nat.succ_le_succ (ih positive (Nat.div_lt_of_lt_mul (by omega)))

/-- A number with fewer digits than the width has exactly so many when it is filled up. -/
theorem length_padded {width n : Nat} (pos : 0 < width) (h : n < 10 ^ width) :
    (padded width n).length = width := by
  have := length_digits_le pos h
  rw [padded_eq_map, List.length_map, List.length_append, List.length_replicate]
  omega

/-- A padded number is never shorter than its width. -/
theorem le_length_padded (width n : Nat) : width ≤ (padded width n).length := by
  rw [padded_eq_map, List.length_map, List.length_append, List.length_replicate]
  omega

/-! ## Signs -/

/-- A text that is an optional sign and at least one digit, and the integer that it denotes. -/
inductive Numeral : List Char → Int → Prop where
  | plain {ds : List Nat} : IsDigits ds → Numeral (ds.map digitChar) (value ds)
  | plus {ds : List Nat} : IsDigits ds → Numeral ('+' :: ds.map digitChar) (value ds)
  | minus {ds : List Nat} : IsDigits ds → Numeral ('-' :: ds.map digitChar) (-value ds)

/-- No digit is below zero in the order of characters, as the signs are. -/
theorem IsDigits.not_mem_map {ds : List Nat} (h : IsDigits ds) {c : Char} (sign : c.toNat < 0x30) :
    c ∉ ds.map digitChar := by
  intro mem
  obtain ⟨d, hd, rfl⟩ := List.mem_map.1 mem
  rw [toNat_digitChar (h.lt_ten d hd)] at sign
  omega

/-- No row of digits begins with a sign. -/
theorem IsDigits.map_ne_cons {ds : List Nat} (h : IsDigits ds) {c : Char} (sign : c.toNat < 0x30)
    (cs : List Char) : ds.map digitChar ≠ c :: cs := by
  intro spelled
  apply h.not_mem_map sign
  rw [spelled]
  exact List.mem_cons_self

/-- A natural number is read just from digits for it, maybe behind a plus sign. -/
theorem nat?_eq_some_iff {cs : List Char} {n : Nat} :
    nat? cs = some n ↔ ∃ ds, IsDigits ds ∧ n = value ds ∧
      (cs = ds.map digitChar ∨ cs = '+' :: ds.map digitChar) := by
  constructor
  · intro h
    unfold nat? at h
    split at h
    all_goals obtain ⟨ds, isDigits, rfl, rfl⟩ := digits?_eq_some_iff.1 h
    · exact ⟨ds, isDigits, rfl, .inr rfl⟩
    · exact ⟨ds, isDigits, rfl, .inl rfl⟩
  · rintro ⟨ds, isDigits, rfl, rfl | rfl⟩
    · have spelled : digits? (ds.map digitChar) = some (value ds) :=
        digits?_eq_some_iff.2 ⟨ds, isDigits, rfl, rfl⟩
      unfold nat?
      split
      case h_1 signed => exact absurd signed (isDigits.map_ne_cons (by decide) _)
      case h_2 => exact spelled
    · exact digits?_eq_some_iff.2 ⟨ds, isDigits, rfl, rfl⟩

/-- A padded number is read back as a natural number. -/
theorem nat?_padded (width n : Nat) : nat? (padded width n) = some n := by
  obtain ⟨ds, isDigits, spelled, value⟩ := exists_digits_padded width n
  exact nat?_eq_some_iff.2 ⟨ds, isDigits, value, .inl spelled⟩

/-- What is read of a natural number that was read first. -/
theorem map_cast_eq_some_iff {x : Option Nat} {f : Int → Int} {i : Int} :
    (x >>= fun n => pure (n : Int)).map f = some i ↔ ∃ n : Nat, x = some n ∧ f n = i := by
  rcases x with _ | n <;> simp

/-- A text is read as an integer if and only if it is a numeral for it. -/
theorem int?_eq_some_iff {cs : List Char} {i : Int} : int? cs = some i ↔ Numeral cs i := by
  constructor
  · intro h
    unfold int? at h
    split at h
    all_goals obtain ⟨n, read, rfl⟩ := map_cast_eq_some_iff.1 h
    · obtain ⟨ds, isDigits, rfl, rfl⟩ := digits?_eq_some_iff.1 read
      exact .minus isDigits
    · obtain ⟨ds, isDigits, rfl, rfl | rfl⟩ := nat?_eq_some_iff.1 read
      · exact .plain isDigits
      · exact .plus isDigits
  · rintro (isDigits | isDigits | isDigits)
    case plain ds =>
      have read : nat? (ds.map digitChar) = some (value ds) :=
        nat?_eq_some_iff.2 ⟨ds, isDigits, rfl, .inl rfl⟩
      unfold int?
      split
      case h_1 signed => exact absurd signed (isDigits.map_ne_cons (by decide) _)
      case h_2 => exact map_cast_eq_some_iff.2 ⟨_, read, rfl⟩
    case plus ds =>
      have read : nat? ('+' :: ds.map digitChar) = some (value ds) :=
        nat?_eq_some_iff.2 ⟨ds, isDigits, rfl, .inr rfl⟩
      exact map_cast_eq_some_iff.2 ⟨_, read, rfl⟩
    case minus ds =>
      have read : digits? (ds.map digitChar) = some (value ds) :=
        digits?_eq_some_iff.2 ⟨ds, isDigits, rfl, rfl⟩
      exact map_cast_eq_some_iff.2 ⟨_, read, rfl⟩

/-- A numeral denotes one integer. -/
theorem Numeral.unique {cs : List Char} {i j : Int} (hi : Numeral cs i) (hj : Numeral cs j) :
    i = j :=
  Option.some.inj ((int?_eq_some_iff.2 hi).symm.trans (int?_eq_some_iff.2 hj))

/-- There is no blank in a numeral. -/
theorem Numeral.not_blank {cs : List Char} {i : Int} (h : Numeral cs i) :
    ∀ c ∈ cs, Text.isBlank c = false := by
  have digit {ds : List Nat} (h : IsDigits ds) : ∀ c ∈ ds.map digitChar, Text.isBlank c = false := by
    have all : ∀ d < 10, Text.isBlank (digitChar d) = false := by decide
    intro c hc
    obtain ⟨d, hd, rfl⟩ := List.mem_map.1 hc
    exact all d (h.lt_ten d hd)
  rcases h with isDigits | isDigits | isDigits
  · exact digit isDigits
  · exact List.forall_mem_cons.2 ⟨rfl, digit isDigits⟩
  · exact List.forall_mem_cons.2 ⟨rfl, digit isDigits⟩

-- any number of zeros in front
example : Numeral "+007".toList 7 := int?_eq_some_iff.1 (by decide)

end Credentials.Decimal
