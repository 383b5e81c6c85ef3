import Credentials.Json.Lexeme

/-!
# The texts of lexemes

Which byte strings spell which lexemes, said without the scanner:

* `NumberText`, `StringText`, `LexemeText` — the texts of a number, of the pieces of a string, and
  of a lexeme.
* `RowText` — the texts of a row of lexemes, with blanks before each and at the end.

The main statement is `lex_of_rowText`: the scanner cuts every text of a row into that row. The one
thing that a text has to see to is that nothing after a number can be taken for more of it
(`Stops`).
-/

namespace Credentials.Json

namespace Lexeme

/-! ## Numbers -/

/-- The decimal digits of a number, as numbers below ten. -/
def AreDigits (ds : List Nat) : Prop := ∀ d ∈ ds, d < 10

/-- Digits as ASCII bytes. -/
def digitBytes (ds : List Nat) : Bytes := ds.map fun d => UInt8.ofNat (0x30 + d)

/-- The digits before the point: a zero alone, or digits that do not begin with zero. -/
inductive WholeText : List Nat → Bytes → Prop where
  | zero : WholeText [0] [0x30]
  | digits {d : Nat} {ds : List Nat} (pos : 0 < d) (h : AreDigits (d :: ds)) :
    WholeText (d :: ds) (digitBytes (d :: ds))

/-- The digits after the point, with the point. -/
inductive FractionText : List Nat → Bytes → Prop where
  | none : FractionText [] []
  | digits {d : Nat} {ds : List Nat} (h : AreDigits (d :: ds)) :
    FractionText (d :: ds) (0x2E :: digitBytes (d :: ds))

/-- The sign of an exponent. -/
inductive SignText : Bool → Bytes → Prop where
  | none : SignText false []
  | plus : SignText false [0x2B]
  | minus : SignText true [0x2D]

/-- The exponent, with its mark in either case. -/
inductive ExponentText : Option Exponent → Bytes → Prop where
  | none : ExponentText none []
  | some {mark : UInt8} {negative : Bool} {sign : Bytes} {d : Nat} {ds : List Nat}
    (hm : mark = 0x65 ∨ mark = 0x45) (hs : SignText negative sign) (h : AreDigits (d :: ds)) :
    ExponentText (some ⟨negative, d :: ds⟩) (mark :: sign ++ digitBytes (d :: ds))

/-- A number without its sign. -/
inductive MagnitudeText : Number → Bytes → Prop where
  | mk {negative : Bool} {whole fraction : List Nat} {exponent : Option Exponent} {w f e : Bytes}
    (hw : WholeText whole w) (hf : FractionText fraction f) (he : ExponentText exponent e) :
    MagnitudeText ⟨negative, whole, fraction, exponent⟩ (w ++ f ++ e)

/-- A number. -/
inductive NumberText : Number → Bytes → Prop where
  | positive {n : Number} {s : Bytes} (hn : n.negative = false) (h : MagnitudeText n s) :
    NumberText n s
  | negative {n : Number} {s : Bytes} (hn : n.negative = true) (h : MagnitudeText n s) :
    NumberText n (0x2D :: s)

/-! ## Strings -/

/-- The pieces of a string, between its quotes. -/
inductive StringText : List Piece → Bytes → Prop where
  | nil : StringText [] []
  /-- A byte that stands for itself. -/
  | byte {b : UInt8} {ps : List Piece} {s : Bytes} (hq : b ≠ 0x22) (hb : b ≠ 0x5C)
    (hc : 0x20 ≤ b) (h : StringText ps s) : StringText (.byte b :: ps) (b :: s)
  /-- A short escape. -/
  | short {e b : UInt8} {ps : List Piece} {s : Bytes} (he : short? e = some b)
    (h : StringText ps s) : StringText (.byte b :: ps) (0x5C :: e :: s)
  /-- An escape of four hexadecimal digits. -/
  | unit {w x y z : UInt8} {u : UInt16} {ps : List Piece} {s : Bytes}
    (hu : unit? w x y z = some u) (h : StringText ps s) :
    StringText (.unit u :: ps) (0x5C :: 0x75 :: w :: x :: y :: z :: s)

/-! ## Lexemes and rows of them -/

/-- A lexeme. -/
inductive LexemeText : Lexeme → Bytes → Prop where
  | mark {l : Lexeme} {b : UInt8} (h : mark? b = some l) : LexemeText l [b]
  | name {l : Lexeme} {s : Bytes} (h : (s, l) ∈ names) : LexemeText l s
  | number {n : Number} {s : Bytes} (h : NumberText n s) : LexemeText (.number n) s
  | string {ps : List Piece} {s : Bytes} (h : StringText ps s) :
    LexemeText (.string ps) (0x22 :: s ++ [0x22])

/-- A byte that may stand in a number behind its first digit. -/
def goesOn (b : UInt8) : Bool := isDigit b || b = 0x2E || b = 0x65 || b = 0x45

/-- No number can be prolonged by what follows. -/
def Stops (s : Bytes) : Prop := ∀ b ∈ s.head?, goesOn b = false

/-- Blanks only. -/
def AreBlank (s : Bytes) : Prop := ∀ b ∈ s, isSpace b = true

/-- A row of lexemes with blanks before each and at the end. -/
inductive RowText : List Lexeme → Bytes → Prop where
  | blank {s : Bytes} (h : AreBlank s) : RowText [] s
  | cons {blanks t s : Bytes} {l : Lexeme} {ls : List Lexeme} (hb : AreBlank blanks)
    (ht : LexemeText l t) (ends : (∃ n, l = .number n) → Stops s) (h : RowText ls s) :
    RowText (l :: ls) (blanks ++ t ++ s)

/-! ## Scanning a number -/

/-- The byte of a digit is a digit. -/
theorem digitBytes_isDigit {d : Nat} (h : d < 10) : isDigit (UInt8.ofNat (0x30 + d)) = true := by
  simp only [isDigit, Bool.and_eq_true, decide_eq_true_eq, UInt8.le_iff_toNat_le,
    Bytes.toNat_byte (show 0x30 + d < 256 by omega), UInt8.reduceToNat]
  omega

/-- The byte of a digit is no byte of another kind. -/
theorem digitByte_ne {d : Nat} {b : UInt8} (h : d < 10) (hb : isDigit b = false) :
    UInt8.ofNat (0x30 + d) ≠ b := by
  rintro rfl
  rw [digitBytes_isDigit h] at hb
  cases hb

/-- The byte of a digit has its value. -/
theorem digit_ofNat {d : Nat} (h : d < 10) : digit (UInt8.ofNat (0x30 + d)) = d := by
  rw [digit, Bytes.toNat_byte (by omega)]
  omega

/-- Digits are read to the last one if none follows. -/
theorem scanDigits_digitBytes {ds : List Nat} {s : Bytes} (h : AreDigits ds)
    (stop : ∀ b ∈ s.head?, isDigit b = false) : scanDigits (digitBytes ds ++ s) = (ds, s) := by
  induction ds with
  | nil =>
    cases s with
    | nil => rfl
    | cons b s =>
      have hb : isDigit b = false := stop b rfl
      simp [scanDigits, digitBytes, hb]
  | cons d ds ih =>
    have hd : d < 10 := h d List.mem_cons_self
    have ih := ih fun x hx => h x (List.mem_cons_of_mem _ hx)
    simp only [scanDigits, Prod.mk.injEq] at ih
    simp only [scanDigits, digitBytes, List.map_cons, List.cons_append, List.takeWhile_cons,
      List.dropWhile_cons, digitBytes_isDigit hd, if_true, digit_ofNat hd, Prod.mk.injEq,
      List.cons.injEq, true_and]
    exact ih

/-- What ends a number is no digit. -/
theorem Stops.not_digit {s : Bytes} (h : Stops s) : ∀ b ∈ s.head?, isDigit b = false := by
  intro b hb
  have hb := h b hb
  simp only [goesOn, Bool.or_eq_false_iff] at hb
  exact hb.1.1.1

/-- The digits before the point are read back. -/
theorem scanWhole_of_text {ds : List Nat} {w s : Bytes} (h : WholeText ds w)
    (stop : ∀ b ∈ s.head?, isDigit b = false) : scanWhole (w ++ s) = some (ds, s) := by
  cases h with
  | zero => rfl
  | @digits d ds pos h =>
    have hd : d < 10 := h d List.mem_cons_self
    have hne : UInt8.ofNat (0x30 + d) ≠ 0x30 := by
      intro h
      have h : d = 0 := (digit_ofNat hd).symm.trans (congrArg digit h)
      omega
    have scan := scanDigits_digitBytes h stop
    simp only [digitBytes, List.map_cons, List.cons_append] at scan ⊢
    rw [scanWhole, if_neg hne, if_pos (digitBytes_isDigit hd), scan]

/-- A fraction is read back, if neither digit nor point follows. -/
theorem scanFraction_of_text {ds : List Nat} {f s : Bytes} (h : FractionText ds f)
    (stop : ∀ b ∈ s.head?, isDigit b = false ∧ b ≠ 0x2E) :
    scanFraction (f ++ s) = some (ds, s) := by
  cases h with
  | none =>
    cases s with
    | nil => rfl
    | cons b s => exact if_neg (stop b rfl).2
  | digits h =>
    rw [List.cons_append, scanFraction, if_pos rfl,
      scanDigits_digitBytes h fun b hb => (stop b hb).1]

/-- The sign of an exponent is read back. -/
theorem scanSign_of_text {negative : Bool} {t : Bytes} {d : Nat} {s : Bytes}
    (h : SignText negative t) (hd : d < 10) :
    scanSign (t ++ UInt8.ofNat (0x30 + d) :: s) = (negative, UInt8.ofNat (0x30 + d) :: s) := by
  cases h with
  | none =>
    rw [List.nil_append, scanSign, if_neg (digitByte_ne hd rfl), if_neg (digitByte_ne hd rfl)]
  | plus => rfl
  | minus => rfl

/-- An exponent is read back, if nothing follows that goes on with a number. -/
theorem scanExponent_of_text {e : Option Exponent} {t s : Bytes} (h : ExponentText e t)
    (stop : Stops s) : scanExponent (t ++ s) = some (e, s) := by
  cases h with
  | none =>
    cases s with
    | nil => rfl
    | cons b s =>
      have hb := stop b rfl
      simp only [goesOn, Bool.or_eq_false_iff, decide_eq_false_iff_not] at hb
      rw [List.nil_append, scanExponent, if_neg (by simp [hb])]
  | @some mark negative sign d ds hm hs h =>
    have hd : d < 10 := h d List.mem_cons_self
    have scan := scanDigits_digitBytes h stop.not_digit
    have hm : (decide (mark = 0x65) || decide (mark = 0x45)) = true := by simpa using hm
    simp only [digitBytes, List.map_cons, List.cons_append, List.append_assoc] at scan ⊢
    rw [scanExponent, if_pos hm, scanSign_of_text hs hd, scan]

/-- Neither digit nor point stands where an exponent may. -/
theorem ExponentText.head {e : Option Exponent} {t s : Bytes} (h : ExponentText e t)
    (stop : Stops s) : ∀ b ∈ (t ++ s).head?, isDigit b = false ∧ b ≠ 0x2E := by
  cases h with
  | none =>
    intro b hb
    have hb := stop b hb
    simp only [goesOn, Bool.or_eq_false_iff, decide_eq_false_iff_not] at hb
    exact ⟨hb.1.1.1, hb.1.1.2⟩
  | some hm =>
    rintro b ⟨⟩
    rcases hm with rfl | rfl <;> decide

/-- No digit stands where a fraction may. -/
theorem FractionText.head {ds : List Nat} {f s : Bytes} (h : FractionText ds f)
    (stop : ∀ b ∈ s.head?, isDigit b = false) : ∀ b ∈ (f ++ s).head?, isDigit b = false := by
  cases h with
  | none => exact stop
  | digits =>
    rintro b ⟨⟩
    decide

/-- A number without its sign is read back. -/
theorem scanMagnitude_of_text {n : Number} {t s : Bytes} (h : MagnitudeText n t)
    (stop : Stops s) : scanMagnitude n.negative (t ++ s) = some (n, s) := by
  cases h with
  | mk hw hf he =>
    have he' := he.head stop
    rw [List.append_assoc, List.append_assoc, scanMagnitude,
      scanWhole_of_text hw (hf.head fun b hb => (he' b hb).1)]
    simp only [Option.bind_eq_bind, Option.bind_some, scanFraction_of_text hf he',
      scanExponent_of_text he stop, Option.pure_def]

/-! ## Scanning a string -/

/-- The pieces of a string are read back, up to the closing quote. -/
theorem scanString_of_text {ps : List Piece} {t : Bytes} (h : StringText ps t) (s : Bytes) :
    scanString (t ++ 0x22 :: s) = some (ps, s) := by
  induction h with
  | nil =>
    rw [List.nil_append, scanString.eq_def]
    rfl
  | byte hq hb hc _ ih =>
    rw [List.cons_append, scanString.eq_def]
    simp only [if_neg hq, if_neg hb, if_neg (UInt8.not_lt.2 hc), ih]
    rfl
  | @short e b ps t he _ ih =>
    have hu : e ≠ 0x75 := by
      rintro rfl
      cases he
    rw [List.cons_append, List.cons_append, scanString.eq_def]
    simp only [if_neg hu, he, ih]
    rfl
  | unit hu _ ih =>
    simp only [List.cons_append]
    rw [scanString.eq_def]
    simp only [hu, ih]
    rfl

/-! ## Scanning a lexeme -/

/-- No digit is a mark. -/
theorem mark?_of_isDigit {b : UInt8} (h : isDigit b = true) : mark? b = none := by
  rw [mark?, List.lookup_eq_none_iff]
  intro p hp
  have notDigit : isDigit p.1 = false := by
    simp only [List.mem_cons, List.not_mem_nil, or_false] at hp
    rcases hp with rfl | rfl | rfl | rfl | rfl | rfl <;> rfl
  rw [bne_iff_ne]
  rintro rfl
  exact absurd h (by simp [notDigit])

/-- The byte that a number without its sign begins with. -/
theorem MagnitudeText.head {n : Number} {t : Bytes} (h : MagnitudeText n t) :
    ∃ b r, t = b :: r ∧ isDigit b = true := by
  cases h with
  | mk hw hf he =>
    cases hw with
    | zero => exact ⟨0x30, _, rfl, rfl⟩
    | digits pos h => exact ⟨_, _, rfl, digitBytes_isDigit (h _ List.mem_cons_self)⟩

/-- A number is read back. -/
theorem scan_of_numberText {n : Number} {t s : Bytes} (h : NumberText n t) (stop : Stops s) :
    scan (t ++ s) = some (.number n, s) := by
  cases h with
  | positive hn h =>
    have scanned := scanMagnitude_of_text h stop
    obtain ⟨b, r, rfl, hb⟩ := h.head
    have hq : b ≠ 0x22 := by
      rintro rfl
      cases hb
    have hm : b ≠ 0x2D := by
      rintro rfl
      cases hb
    rw [hn, List.cons_append] at scanned
    rw [List.cons_append, scan, mark?_of_isDigit hb]
    simp only [if_neg hq, if_neg hm, if_pos hb, scanned]
    rfl
  | negative hn h =>
    have scanned := scanMagnitude_of_text h stop
    rw [hn] at scanned
    rw [List.cons_append, scan, scanned]
    rfl

/-- A lexeme is read back; only what stands behind a number matters. -/
theorem scan_of_text {l : Lexeme} {t s : Bytes} (h : LexemeText l t)
    (ends : (∃ n, l = .number n) → Stops s) : scan (t ++ s) = some (l, s) := by
  cases h with
  | mark h => rw [List.singleton_append, scan, h]
  | name h =>
    simp only [names, List.mem_cons, Prod.mk.injEq, List.not_mem_nil, or_false] at h
    rcases h with ⟨rfl, rfl⟩ | ⟨rfl, rfl⟩ | ⟨rfl, rfl⟩ <;> rfl
  | number h => exact scan_of_numberText h (ends ⟨_, rfl⟩)
  | string h =>
    rw [List.cons_append, List.cons_append, List.append_assoc, List.singleton_append, scan,
      scanString_of_text h s]
    rfl

/-! ## Scanning a row -/

/-- Blanks before a text are passed over. -/
theorem lex_blank {blanks : Bytes} (h : AreBlank blanks) (s : Bytes) :
    lex (blanks ++ s) = lex s := by
  induction blanks with
  | nil => rfl
  | cons b blanks ih =>
    rw [List.cons_append, lex, if_pos (h b List.mem_cons_self),
      ih fun x hx => h x (List.mem_cons_of_mem _ hx)]

/-- The four blanks. -/
theorem eq_of_isSpace {b : UInt8} (h : isSpace b = true) :
    b = 0x20 ∨ b = 0x09 ∨ b = 0x0A ∨ b = 0x0D := by
  simpa only [isSpace, Bool.or_eq_true, decide_eq_true_eq, or_assoc] using h

/-- No lexeme begins with a blank. -/
theorem LexemeText.head {l : Lexeme} {t : Bytes} (h : LexemeText l t) :
    ∃ b r, t = b :: r ∧ isSpace b = false := by
  cases h with
  | @mark l b h =>
    refine ⟨b, [], rfl, ?_⟩
    rw [Bool.eq_false_iff]
    intro hs
    rcases eq_of_isSpace hs with rfl | rfl | rfl | rfl <;> cases h
  | name h =>
    simp only [names, List.mem_cons, Prod.mk.injEq, List.not_mem_nil, or_false] at h
    rcases h with ⟨rfl, -⟩ | ⟨rfl, -⟩ | ⟨rfl, -⟩ <;> exact ⟨_, _, rfl, rfl⟩
  | number h =>
    cases h with
    | positive hn h =>
      obtain ⟨b, r, rfl, hb⟩ := h.head
      refine ⟨b, r, rfl, ?_⟩
      rw [Bool.eq_false_iff]
      intro hs
      rcases eq_of_isSpace hs with rfl | rfl | rfl | rfl <;> cases hb
    | negative hn h => exact ⟨_, _, rfl, rfl⟩
  | string h => exact ⟨_, _, rfl, rfl⟩

/-- The scanner cuts a text of a row of lexemes into that row. -/
theorem lex_of_rowText {ls : List Lexeme} {s : Bytes} (h : RowText ls s) : lex s = some ls := by
  induction h with
  | @blank s h =>
    rw [← List.append_nil s, lex_blank h, lex]
  | cons hb ht ends _ ih =>
    -- the first byte of the lexeme is no blank, so that the scanner starts here
    obtain ⟨b, r, rfl, hs⟩ := ht.head
    have scanned := scan_of_text ht ends
    rw [List.append_assoc, lex_blank hb]
    rw [List.cons_append] at scanned ⊢
    rw [lex, if_neg (by simp [hs])]
    split
    case h_1 l' after hscan =>
      rw [scanned] at hscan
      cases hscan
      rw [ih]
      rfl
    case h_2 hscan =>
      rw [scanned] at hscan
      cases hscan

end Lexeme

end Credentials.Json
