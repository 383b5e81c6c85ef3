import Credentials.Proofs.Text.Utf8

/-!
# Ill-formed UTF-8

What a byte string is refused with, said without the decoder. A byte string is `WellFormed` if it is
the encoded form of some text, and it `Begins` a character if it is the encoded form of that
character with at least one byte cut off its end.

* `Stuck` — the seven ways in which the decoder gets stuck at the front of a byte string.
* `exists_stuck`, `decodeFrom_of_stuck` — decoding fails if and only if it gets stuck behind some
  well-formed beginning.
* `Stuck.front` and the lemmas after it — what being stuck says about characters.
* `decode_eq_error_iff` — **a byte string is refused with the one fault that locates where it is
  ill-formed**: behind its longest well-formed beginning. The fault has no length if and only if all
  that follows begins a character; else it takes as many bytes as do, and at least one.
-/

namespace Credentials.Utf8

/-- The byte string is the encoded form of some text. -/
def WellFormed (bs : Bytes) : Prop := ∃ cs, bs = encode cs

/-- The byte string begins a character and does not end it. -/
def Begins (bs : Bytes) : Prop :=
  ∃ ch more, more ≠ [] ∧ String.utf8EncodeChar ch = bs ++ more

/-- What begins a character does so too when it is cut shorter. -/
theorem Begins.take {bs : Bytes} (h : Begins bs) (n : Nat) : Begins (bs.take n) := by
  obtain ⟨ch, more, hmore, heq⟩ := h
  refine ⟨ch, bs.drop n ++ more, List.append_ne_nil_of_right_ne_nil _ hmore, ?_⟩
  rw [heq, ← List.append_assoc, List.take_append_drop]

/-! ## Where the decoder gets stuck -/

/-- No character stands at the front of the byte string: its lead byte leads none, the bytes end
inside it, or a later byte does not continue it. The number is the length of the ill-formed part,
if the bytes do not end inside it. -/
inductive Stuck : Bytes → Option Nat → Prop where
  | lead {a : UInt8} {rest : Bytes} (ha : width a = 0) : Stuck (a :: rest) (some 1)
  | endOne {a : UInt8} (ha : 2 ≤ width a) : Stuck [a] none
  | second {a b : UInt8} {rest : Bytes} (ha : 2 ≤ width a) (hb : isSecond a b = false) :
      Stuck (a :: b :: rest) (some 1)
  | endTwo {a b : UInt8} (ha : 3 ≤ width a) (hb : isSecond a b = true) : Stuck [a, b] none
  | third {a b c : UInt8} {rest : Bytes} (ha : 3 ≤ width a) (hb : isSecond a b = true)
      (hc : isTail c = false) : Stuck (a :: b :: c :: rest) (some 2)
  | endThree {a b c : UInt8} (ha : 4 ≤ width a) (hb : isSecond a b = true)
      (hc : isTail c = true) : Stuck [a, b, c] none
  | fourth {a b c d : UInt8} {rest : Bytes} (ha : 4 ≤ width a) (hb : isSecond a b = true)
      (hc : isTail c = true) (hd : isTail d = false) : Stuck (a :: b :: c :: d :: rest) (some 3)

variable {bs : Bytes} {size : Option Nat} {k : Nat}

/-- Where no character stands, decoding fails at that place. -/
theorem decodeFrom_of_stuck (pos : Nat) (h : Stuck bs size) :
    decodeFrom pos bs = .error ⟨pos, size⟩ := by
  rw [decodeFrom.eq_def]
  cases h with
  | lead ha => simp [ha]
  | endOne ha => simp (disch := omega) only [if_neg]
  | second ha hb => simp (disch := omega) [if_neg, hb]
  | endTwo ha hb => simp (disch := omega) [if_neg, hb]
  | third ha hb hc => simp (disch := omega) [if_neg, hb, hc]
  | endThree ha hb hc => simp (disch := omega) [if_neg, hb, hc]
  | fourth ha hb hc hd => simp (disch := omega) [if_neg, hb, hc, hd]

/-- Decoding fails behind some well-formed beginning, where it gets stuck. -/
theorem exists_stuck {pos : Nat} {fault : Fault} (h : decodeFrom pos bs = .error fault) :
    ∃ cs rest, bs = encode cs ++ rest ∧ fault.validUpTo = pos + (encode cs).length ∧
      Stuck rest fault.errorLen := by
  have passed {b : Bool} (h : ¬ (!b) = true) : b = true := by simpa using h
  have failed {b : Bool} (h : (!b) = true) : b = false := by simpa using h
  -- a character that was taken stands in front of the place where decoding gets stuck
  have behind {pos : Nat} {ch : Char} {taken rest : Bytes} (hch : String.utf8EncodeChar ch = taken)
      (h : ∃ cs rest', rest = encode cs ++ rest' ∧
        fault.validUpTo = pos + taken.length + (encode cs).length ∧ Stuck rest' fault.errorLen) :
      ∃ cs rest', taken ++ rest = encode cs ++ rest' ∧
        fault.validUpTo = pos + (encode cs).length ∧ Stuck rest' fault.errorLen := by
    obtain ⟨cs, rest', rfl, place, stuck⟩ := h
    refine ⟨ch :: cs, rest', ?_, ?_, stuck⟩
    · rw [encode_cons, hch, List.append_assoc]
    · rw [place, encode_cons, hch, List.length_append, Nat.add_assoc]
  fun_induction decodeFrom pos bs with
  | case1 => cases h
  | case2 pos a rest one ih =>
    exact behind (utf8EncodeChar_assemble_one one) (ih (map_eq_error_iff.1 h))
  | case3 pos a rest _ none =>
    cases h
    exact ⟨[], _, rfl, rfl, .lead none⟩
  | case4 pos a one none =>
    cases h
    exact ⟨[], _, rfl, rfl, .endOne (by omega)⟩
  | case5 pos a one none b rest hb =>
    cases h
    exact ⟨[], _, rfl, rfl, .second (by omega) (failed hb)⟩
  | case6 pos a one none b rest hb two ih =>
    exact behind (utf8EncodeChar_assemble_two two (passed hb)) (ih (map_eq_error_iff.1 h))
  | case7 pos a one none b hb two =>
    cases h
    exact ⟨[], _, rfl, rfl, .endTwo (by omega) (passed hb)⟩
  | case8 pos a one none b hb two c rest hc =>
    cases h
    exact ⟨[], _, rfl, rfl, .third (by omega) (passed hb) (failed hc)⟩
  | case9 pos a one none b hb two c rest hc three ih =>
    exact behind (utf8EncodeChar_assemble_three three (passed hb) (passed hc))
      (ih (map_eq_error_iff.1 h))
  | case10 pos a one none b hb two c hc three =>
    cases h
    exact ⟨[], _, rfl, rfl, .endThree (by omega) (passed hb) (passed hc)⟩
  | case11 pos a one none b hb two c hc three d rest hd =>
    cases h
    exact ⟨[], _, rfl, rfl, .fourth (by omega) (passed hb) (passed hc) (failed hd)⟩
  | case12 pos a one none b hb two c hc three d rest hd ih =>
    have four : width a = 4 := by
      have := (lead_range a).2.2.2.2
      omega
    exact behind (utf8EncodeChar_assemble_four four (passed hb) (passed hc) (passed hd))
      (ih (map_eq_error_iff.1 h))

/-! ## Characters where the decoder is stuck -/

/-- Each character has at least one byte. -/
theorem utf8EncodeChar_ne_nil (ch : Char) : String.utf8EncodeChar ch ≠ [] := by
  obtain ⟨lead, tails, heq, -, -⟩ := exists_utf8EncodeChar_eq ch
  rw [heq]
  exact List.cons_ne_nil _ _

/-- No character stands where the decoder is stuck. -/
theorem Stuck.front (h : Stuck bs size) (ch : Char) (rest : Bytes) :
    bs ≠ String.utf8EncodeChar ch ++ rest := by
  rintro rfl
  have failed := decodeFrom_of_stuck 0 h
  rw [decodeFrom_utf8EncodeChar, map_eq_error_iff] at failed
  obtain ⟨cs, rest, -, place, -⟩ := exists_stuck failed
  have length := List.length_pos_iff.2 (utf8EncodeChar_ne_nil ch)
  simp only at place
  omega

/-- Where the decoder is stuck there are bytes left. -/
theorem Stuck.ne_nil (h : Stuck bs size) : bs ≠ [] := by
  cases h <;> exact List.cons_ne_nil _ _

/-- Further bytes do not help, unless the bytes have ended inside a character. -/
theorem Stuck.append (h : Stuck bs (some k)) (more : Bytes) : Stuck (bs ++ more) (some k) := by
  cases h with
  | lead ha => exact .lead ha
  | second ha hb => exact .second ha hb
  | third ha hb hc => exact .third ha hb hc
  | fourth ha hb hc hd => exact .fourth ha hb hc hd

/-- Bytes that go wrong do not begin a character. -/
theorem Stuck.not_begins (h : Stuck bs (some k)) : ¬ Begins bs := by
  rintro ⟨ch, more, -, heq⟩
  apply (h.append more).front ch []
  rw [heq, List.append_nil]

/-- Every lead byte of a longer character has a byte that may stand second after it. -/
theorem exists_isSecond (a : UInt8) : ∃ b, isSecond a b = true := by
  by_cases narrow : a.toNat = 0xED ∨ a.toNat = 0xF4
  · refine ⟨0x80, ?_⟩
    simp only [isSecond_iff, UInt8.reduceToNat]
    omega
  · refine ⟨0xBF, ?_⟩
    simp only [isSecond_iff, UInt8.reduceToNat]
    omega

/-- If the bytes have ended inside a character, they begin one. -/
theorem Stuck.begins (h : Stuck bs none) : Begins bs := by
  have tail : isTail 0x80 = true := rfl
  -- what is missing is filled up with tails, after a second byte that the lead allows
  have fill {a b : UInt8} (ha : 2 ≤ width a) (hb : isSecond a b = true) :
      ∃ ch more, String.utf8EncodeChar ch = a :: b :: more ∧ more.length + 2 = width a := by
    have le := (lead_range a).2.2.2.2
    obtain two | three | four : width a = 2 ∨ width a = 3 ∨ width a = 4 := by omega
    · exact ⟨_, [], utf8EncodeChar_assemble_two two hb, two.symm⟩
    · exact ⟨_, [0x80], utf8EncodeChar_assemble_three three hb tail, three.symm⟩
    · exact ⟨_, [0x80, 0x80], utf8EncodeChar_assemble_four four hb tail tail, four.symm⟩
  cases h with
  | @endOne a ha =>
    obtain ⟨b, hb⟩ := exists_isSecond a
    obtain ⟨ch, more, heq, -⟩ := fill ha hb
    exact ⟨ch, b :: more, List.cons_ne_nil _ _, heq⟩
  | endTwo ha hb =>
    obtain ⟨ch, more, heq, length⟩ := fill (Nat.le_of_succ_le ha) hb
    refine ⟨ch, more, ?_, heq⟩
    rintro rfl
    simp only [List.length_nil] at length
    omega
  | @endThree a b c ha hb hc =>
    have four : width a = 4 := by
      have := (lead_range a).2.2.2.2
      omega
    exact ⟨_, [0x80], List.cons_ne_nil _ _, utf8EncodeChar_assemble_four four hb hc tail⟩

/-- The byte behind the ill-formed part is the last one that counts. -/
theorem Stuck.take_succ (h : Stuck bs (some k)) : Stuck (bs.take (k + 1)) (some k) := by
  cases h with
  | lead ha => exact .lead ha
  | second ha hb => exact .second ha hb
  | third ha hb hc => exact .third ha hb hc
  | fourth ha hb hc hd => exact .fourth ha hb hc hd

/-- Cut behind an ill-formed part of more than one byte, the bytes end inside a character. -/
theorem Stuck.take_of_lt (h : Stuck bs (some k)) (hk : 1 < k) : Stuck (bs.take k) none := by
  cases h with
  | lead | second => exact absurd hk (Nat.lt_irrefl 1)
  | third ha hb => exact .endTwo ha hb
  | fourth ha hb hc => exact .endThree ha hb hc

/-- The ill-formed part takes as many bytes as begin a character, or one. -/
theorem Stuck.begins_take_iff (h : Stuck bs (some k)) {n : Nat} (hn : 1 < n) :
    Begins (bs.take n) ↔ n ≤ k := by
  constructor
  · intro begins
    apply Nat.le_of_not_lt
    intro longer
    apply h.take_succ.not_begins
    have shorter := begins.take (k + 1)
    rwa [List.take_take, Nat.min_eq_left (by omega)] at shorter
  · intro le
    have begins := (h.take_of_lt (by omega)).begins.take n
    rwa [List.take_take, Nat.min_eq_left le] at begins

/-- An ill-formed part has at least one byte. -/
theorem Stuck.size_pos (h : Stuck bs (some k)) : 0 < k := by
  cases h <;> decide

/-! ## The place of a fault -/

/-- The fault says where the byte string stops being well formed. -/
structure Fault.Locates (fault : Fault) (bs : Bytes) : Prop where
  /-- There is more behind the place, -/
  lt_length : fault.validUpTo < bs.length
  /-- what stands before it is well formed, -/
  wellFormed : WellFormed (bs.take fault.validUpTo)
  /-- and no longer beginning is. -/
  longest : ∀ n ≤ bs.length, WellFormed (bs.take n) → n ≤ fault.validUpTo
  /-- The fault has no length if and only if all that follows begins a character. -/
  cut : fault.errorLen = none ↔ Begins (bs.drop fault.validUpTo)
  /-- Its length is at least one, -/
  pos : ∀ k, fault.errorLen = some k → 0 < k
  /-- and above that the number of bytes that begin a character. -/
  size : ∀ k, fault.errorLen = some k →
    ∀ n, 1 < n → (Begins ((bs.drop fault.validUpTo).take n) ↔ n ≤ k)

/-- Only one fault says where a byte string stops being well formed. -/
theorem Fault.Locates.unique {fault fault' : Fault} (h : fault.Locates bs)
    (h' : fault'.Locates bs) : fault = fault' := by
  obtain ⟨place, length⟩ := fault
  obtain ⟨place', length'⟩ := fault'
  have le := h'.longest _ (Nat.le_of_lt h.lt_length) h.wellFormed
  have ge := h.longest _ (Nat.le_of_lt h'.lt_length) h'.wellFormed
  obtain rfl : place = place' := Nat.le_antisymm le ge
  have cut : length = none ↔ length' = none := h.cut.trans h'.cut.symm
  rcases length with _ | k
  · rw [cut.1 rfl]
  rcases length' with _ | k'
  · exact absurd (cut.2 rfl) (Option.some_ne_none k)
  -- above one, each of the two lengths begins a character, and so is not longer than the other
  have size (n : Nat) (hn : 1 < n) : n ≤ k ↔ n ≤ k' :=
    (h.size k rfl n hn).symm.trans (h'.size k' rfl n hn)
  have pos := h.pos k rfl
  have pos' := h'.pos k' rfl
  have below := size k
  have above := size k'
  obtain rfl : k = k' := by omega
  rfl

/-- What follows a text in a text is a text. -/
theorem exists_encode_of_append {cs cs' : List Char} {rest : Bytes}
    (h : encode cs ++ rest = encode cs') : ∃ cs'', rest = encode cs'' := by
  induction cs generalizing cs' with
  | nil => exact ⟨cs', h⟩
  | cons ch cs ih =>
    rw [encode_cons, List.append_assoc] at h
    rcases cs' with _ | ⟨ch', cs'⟩
    · exact absurd (List.append_eq_nil_iff.1 h).1 (utf8EncodeChar_ne_nil ch)
    · exact ih (encodeChar_append_inj h).2

/-- Of a text and the bytes behind it where the decoder is stuck, no more than the text is well
formed. -/
theorem Stuck.le_length {cs : List Char} {rest : Bytes} (stuck : Stuck rest size) {n : Nat}
    (hn : n ≤ (encode cs ++ rest).length) (h : WellFormed ((encode cs ++ rest).take n)) :
    n ≤ (encode cs).length := by
  apply Nat.le_of_not_lt
  intro longer
  obtain ⟨cs', hcs'⟩ := h
  rw [List.take_append, List.take_of_length_le (Nat.le_of_lt longer)] at hcs'
  obtain ⟨cs'', hcs''⟩ := exists_encode_of_append hcs'
  -- the bytes behind the text would begin with a character
  rcases cs'' with _ | ⟨ch, cs''⟩
  · have none := congrArg List.length hcs''
    rw [List.length_take] at none
    rw [List.length_append] at hn
    simp only [encode_nil, List.length_nil] at none
    omega
  · apply stuck.front ch (encode cs'' ++ rest.drop (n - (encode cs).length))
    rw [← List.append_assoc, ← encode_cons, ← hcs'', List.take_append_drop]

/-- A fault locates the place where the decoder is stuck. -/
theorem Stuck.locates {fault : Fault} {cs : List Char} {rest : Bytes}
    (stuck : Stuck rest fault.errorLen) (place : fault.validUpTo = (encode cs).length) :
    fault.Locates (encode cs ++ rest) := by
  obtain ⟨_, size⟩ := fault
  obtain rfl := place
  have behind : (encode cs ++ rest).drop (encode cs).length = rest := List.drop_left
  refine ⟨?_, ⟨cs, List.take_left⟩, fun n => stuck.le_length, ?_, ?_, ?_⟩
  · have length := List.length_pos_iff.2 stuck.ne_nil
    rw [List.length_append]
    simp only
    omega
  · simp only [behind]
    constructor
    · rintro rfl
      exact stuck.begins
    · intro begins
      rcases size with _ | k
      · rfl
      · exact absurd begins stuck.not_begins
  · rintro k rfl
    exact stuck.size_pos
  · rintro k rfl n hn
    simp only [behind]
    exact stuck.begins_take_iff hn

/-- **A byte string is refused with the one fault that says where it stops being well formed.** -/
theorem decode_eq_error_iff {fault : Fault} : decode bs = .error fault ↔ fault.Locates bs := by
  have locates {fault : Fault} (h : decode bs = .error fault) : fault.Locates bs := by
    obtain ⟨cs, rest, rfl, place, stuck⟩ := exists_stuck h
    exact stuck.locates (place.trans (Nat.zero_add _))
  constructor
  · exact locates
  · intro h
    cases decoded : decode bs with
    | error fault' => rw [(locates decoded).unique h]
    | ok cs =>
      have whole : WellFormed (bs.take bs.length) := by
        rw [List.take_length]
        exact ⟨cs, decode_eq_ok_iff.1 decoded⟩
      exact absurd (h.longest _ (Nat.le_refl _) whole) (Nat.not_le_of_lt h.lt_length)

/-- A byte string is refused if it is not well formed, and only then. -/
theorem exists_decode_eq_error_iff : (∃ fault, decode bs = .error fault) ↔ ¬ WellFormed bs := by
  unfold WellFormed
  simp only [← decode_eq_ok_iff]
  cases decode bs <;> simp

-- a letter and an overlong form, a surrogate cut off behind its second byte, a character cut off
example : decode [0x61, 0xC0, 0x80] = .error ⟨1, some 1⟩ := rfl
example : decode [0xED, 0xA0] = .error ⟨0, some 1⟩ := rfl
example : decode [0xE2, 0x82] = .error ⟨0, none⟩ := rfl

end Credentials.Utf8
