import Credentials.Json.Tree

/-!
# The lexemes of a JSON text

A JSON text is a row of lexemes with blanks between: brackets, braces, commas, colons, the three
names, numbers and strings. `Lexeme.lex` cuts a byte string into them, and fails on anything else:
a control character or an unknown escape in a string, a number with a missing digit, an unknown
name.
-/

namespace Credentials.Json

/-- A lexeme of a JSON text. -/
inductive Lexeme where
  /-- An opening brace. -/
  | openBrace
  /-- A closing brace. -/
  | closeBrace
  /-- An opening bracket. -/
  | openBracket
  /-- A closing bracket. -/
  | closeBracket
  /-- A colon. -/
  | colon
  /-- A comma. -/
  | comma
  /-- The name `null`. -/
  | null
  /-- One of the names `true` and `false`. -/
  | bool (b : Bool)
  /-- A number. -/
  | number (n : Number)
  /-- A string. -/
  | string (pieces : List Piece)
  deriving DecidableEq

namespace Lexeme

/-! ## Digits -/

/-- The byte is an ASCII digit. -/
def isDigit (b : UInt8) : Bool := 0x30 ≤ b && b ≤ 0x39

/-- The value of an ASCII digit. -/
def digit (b : UInt8) : Nat := b.toNat - 0x30

/-- The digits that a text begins with, and the rest. -/
def scanDigits (s : Bytes) : List Nat × Bytes :=
  ((s.takeWhile isDigit).map digit, s.dropWhile isDigit)

/-- The value of an ASCII hexadecimal digit of either case. -/
def hexDigit? (b : UInt8) : Option UInt16 :=
  if isDigit b then some (b - 0x30).toUInt16
  else if 0x61 ≤ b && b ≤ 0x66 then some (b - 0x57).toUInt16
  else if 0x41 ≤ b && b ≤ 0x46 then some (b - 0x37).toUInt16
  else none

/-- The code unit of four hexadecimal digits. -/
def unit? (a b c d : UInt8) : Option UInt16 := do
  let a ← hexDigit? a
  let b ← hexDigit? b
  let c ← hexDigit? c
  let d ← hexDigit? d
  return ((a * 16 + b) * 16 + c) * 16 + d

/-! ## Strings -/

/-- The byte that the letter of a short escape stands for. -/
def short? (letter : UInt8) : Option UInt8 :=
  [(0x22, 0x22), (0x5C, 0x5C), (0x2F, 0x2F), (0x62, 0x08), (0x66, 0x0C), (0x6E, 0x0A), (0x72, 0x0D),
    (0x74, 0x09)].lookup letter

/-- The pieces of a string whose opening quote has been read, and the text after its closing
quote. -/
def scanString : Bytes → Option (List Piece × Bytes)
  | [] => none
  | b :: rest =>
    if b = 0x22 then some ([], rest)
    else if b = 0x5C then
      match rest with
      | [] => none
      | e :: rest =>
        if e = 0x75 then
          match rest with
          | w :: x :: y :: z :: rest => do
            let u ← unit? w x y z
            let (pieces, rest) ← scanString rest
            return (.unit u :: pieces, rest)
          | _ => none
        else do
          let b ← short? e
          let (pieces, rest) ← scanString rest
          return (.byte b :: pieces, rest)
    else if b < 0x20 then none
    else do
      let (pieces, rest) ← scanString rest
      return (.byte b :: pieces, rest)

/-! ## Numbers -/

/-- The digits before the point: a zero alone, or digits that do not begin with zero. -/
def scanWhole : Bytes → Option (List Nat × Bytes)
  | [] => none
  | b :: rest =>
    if b = 0x30 then some ([0], rest)
    else if isDigit b then some (scanDigits (b :: rest))
    else none

/-- The digits after the point, at least one if there is a point. -/
def scanFraction : Bytes → Option (List Nat × Bytes)
  | [] => some ([], [])
  | b :: rest =>
    if b = 0x2E then
      match scanDigits rest with
      | ([], _) => none
      | (d :: ds, rest) => some (d :: ds, rest)
    else some ([], b :: rest)

/-- The sign of an exponent. -/
def scanSign : Bytes → Bool × Bytes
  | [] => (false, [])
  | b :: rest => if b = 0x2D then (true, rest) else if b = 0x2B then (false, rest) else (false, b :: rest)

/-- The exponent, with at least one digit if there is one. -/
def scanExponent : Bytes → Option (Option Exponent × Bytes)
  | [] => some (none, [])
  | b :: rest =>
    if b = 0x65 || b = 0x45 then
      match scanDigits (scanSign rest).2 with
      | ([], _) => none
      | (d :: ds, after) => some (some ⟨(scanSign rest).1, d :: ds⟩, after)
    else some (none, b :: rest)

/-- The number after its sign, and the rest of the text. -/
def scanMagnitude (negative : Bool) (s : Bytes) : Option (Number × Bytes) := do
  let (whole, s) ← scanWhole s
  let (fraction, s) ← scanFraction s
  let (exponent, s) ← scanExponent s
  return (⟨negative, whole, fraction, exponent⟩, s)

/-! ## Lexemes -/

/-- A blank of JSON: space, tab, line feed or carriage return. -/
def isSpace (b : UInt8) : Bool := b = 0x20 || b = 0x09 || b = 0x0A || b = 0x0D

/-- The lexemes of one byte. -/
def mark? (b : UInt8) : Option Lexeme :=
  [(0x7B, openBrace), (0x7D, closeBrace), (0x5B, openBracket), (0x5D, closeBracket), (0x3A, colon),
    (0x2C, comma)].lookup b

/-- The three names, with what each says. -/
def names : List (Bytes × Lexeme) :=
  [([0x6E, 0x75, 0x6C, 0x6C], null), ([0x74, 0x72, 0x75, 0x65], bool true),
    ([0x66, 0x61, 0x6C, 0x73, 0x65], bool false)]

/-- The name that a text begins with, and the rest. -/
def scanName (s : Bytes) : Option (Lexeme × Bytes) :=
  (names.find? fun n => n.1.isPrefixOf s).map fun n => (n.2, s.drop n.1.length)

/-- The lexeme that a text begins with, and the rest. -/
def scan : Bytes → Option (Lexeme × Bytes)
  | [] => none
  | b :: rest =>
    match mark? b with
    | some l => some (l, rest)
    | none =>
      if b = 0x22 then (scanString rest).map fun r => (string r.1, r.2)
      else if b = 0x2D then (scanMagnitude true rest).map fun r => (number r.1, r.2)
      else if isDigit b then (scanMagnitude false (b :: rest)).map fun r => (number r.1, r.2)
      else scanName (b :: rest)

/-! ## Every lexeme takes at least one byte -/

/-- Nothing is longer for what is dropped from its front. -/
theorem length_dropWhile_le (p : UInt8 → Bool) (s : Bytes) : (s.dropWhile p).length ≤ s.length :=
  (List.dropWhile_sublist p).length_le

/-- A string takes at least its closing quote from the text. -/
theorem scanString_length {s : Bytes} {pieces : List Piece} {rest : Bytes}
    (h : scanString s = some (pieces, rest)) : rest.length < s.length := by
  fun_induction scanString s generalizing pieces rest with
  | case1 => simp at h
  | case2 => simp_all
  | case3 => simp at h
  | case4 _ w x y z r ih =>
    simp only [Option.bind_eq_bind, Option.bind_eq_some_iff, Option.pure_def] at h
    obtain ⟨u, _, ⟨ps, r'⟩, hr, h⟩ := h
    have := ih hr
    simp only [Option.some.injEq, Prod.mk.injEq] at h
    obtain ⟨_, rfl⟩ := h
    simp only [List.length_cons]
    omega
  | case5 => simp at h
  | case6 _ e r _ ih =>
    simp only [Option.bind_eq_bind, Option.bind_eq_some_iff, Option.pure_def] at h
    obtain ⟨u, _, ⟨ps, r'⟩, hr, h⟩ := h
    have := ih hr
    simp only [Option.some.injEq, Prod.mk.injEq] at h
    obtain ⟨_, rfl⟩ := h
    simp only [List.length_cons]
    omega
  | case7 => simp at h
  | case8 b r _ _ _ ih =>
    simp only [Option.bind_eq_bind, Option.bind_eq_some_iff, Option.pure_def] at h
    obtain ⟨⟨ps, r'⟩, hr, h⟩ := h
    have := ih hr
    simp only [Option.some.injEq, Prod.mk.injEq] at h
    obtain ⟨_, rfl⟩ := h
    simp only [List.length_cons]
    omega

/-- Digits, if any, are taken from the text. -/
theorem scanDigits_length {s : Bytes} {ds : List Nat} {rest : Bytes}
    (h : scanDigits s = (ds, rest)) : rest.length ≤ s.length := by
  obtain rfl : s.dropWhile isDigit = rest := congrArg Prod.snd h
  exact length_dropWhile_le isDigit s

/-- A sign, if any, is taken from the text. -/
theorem scanSign_length (s : Bytes) : (scanSign s).2.length ≤ s.length := by
  unfold scanSign
  split
  · simp
  · split
    · simp
    · split <;> simp

/-- The digits before the point take at least one byte from the text. -/
theorem scanWhole_length {s : Bytes} {ds : List Nat} {rest : Bytes}
    (h : scanWhole s = some (ds, rest)) : rest.length < s.length := by
  unfold scanWhole at h
  split at h
  · simp at h
  · rename_i b r
    split at h
    · simp_all
    · split at h
      · rename_i hb
        simp only [Option.some.injEq, scanDigits, List.dropWhile_cons, hb, if_true,
          Prod.mk.injEq] at h
        have := length_dropWhile_le isDigit r
        simp only [List.length_cons, ← h.2]
        omega
      · simp at h

/-- A fraction, if any, is taken from the text. -/
theorem scanFraction_length {s : Bytes} {ds : List Nat} {rest : Bytes}
    (h : scanFraction s = some (ds, rest)) : rest.length ≤ s.length := by
  unfold scanFraction at h
  split at h
  · simp_all
  · rename_i b r
    split at h
    · split at h
      · simp at h
      · rename_i hd
        have := scanDigits_length hd
        simp only [Option.some.injEq, Prod.mk.injEq] at h
        obtain ⟨_, rfl⟩ := h
        simp only [List.length_cons]
        omega
    · simp_all

/-- An exponent, if any, is taken from the text. -/
theorem scanExponent_length {s : Bytes} {e : Option Exponent} {rest : Bytes}
    (h : scanExponent s = some (e, rest)) : rest.length ≤ s.length := by
  unfold scanExponent at h
  split at h
  · simp_all
  · rename_i b r
    split at h
    · split at h
      · simp at h
      · rename_i hd
        have hd := scanDigits_length hd
        have hs := scanSign_length r
        simp only [Option.some.injEq, Prod.mk.injEq] at h
        obtain ⟨_, rfl⟩ := h
        simp only [List.length_cons]
        omega
    · simp_all

/-- A number takes at least one byte from the text. -/
theorem scanMagnitude_length {negative : Bool} {s : Bytes} {n : Number} {rest : Bytes}
    (h : scanMagnitude negative s = some (n, rest)) : rest.length < s.length := by
  simp only [scanMagnitude, Option.bind_eq_bind, Option.bind_eq_some_iff, Option.pure_def] at h
  obtain ⟨⟨ws, s₁⟩, hw, ⟨fs, s₂⟩, hf, ⟨e, s₃⟩, he, h⟩ := h
  have hw := scanWhole_length hw
  have hf := scanFraction_length hf
  have he := scanExponent_length he
  simp only [Option.some.injEq, Prod.mk.injEq] at h
  obtain ⟨_, rfl⟩ := h
  exact Nat.lt_of_le_of_lt (Nat.le_trans he hf) hw

/-- A name takes at least one byte from the text. -/
theorem scanName_length {s : Bytes} {l : Lexeme} {rest : Bytes}
    (h : scanName s = some (l, rest)) : rest.length < s.length := by
  simp only [scanName, Option.map_eq_some_iff] at h
  obtain ⟨⟨name, l'⟩, hn, h⟩ := h
  have hmem := List.mem_of_find?_eq_some hn
  have hpre := List.find?_some hn
  have hlen : 0 < name.length := by
    simp only [names, List.mem_cons, Prod.mk.injEq, List.not_mem_nil, or_false] at hmem
    rcases hmem with ⟨rfl, _⟩ | ⟨rfl, _⟩ | ⟨rfl, _⟩ <;> decide
  have hle : name.length ≤ s.length := (List.isPrefixOf_iff_prefix.1 hpre).length_le
  simp only [Prod.mk.injEq] at h
  obtain ⟨_, rfl⟩ := h
  simp only [List.length_drop]
  omega

/-- A lexeme takes at least one byte of the text. -/
theorem scan_length {s : Bytes} {l : Lexeme} {rest : Bytes} (h : scan s = some (l, rest)) :
    rest.length < s.length := by
  unfold scan at h
  split at h
  · simp at h
  · rename_i b r
    split at h
    · simp_all
    · split at h
      · simp only [Option.map_eq_some_iff] at h
        obtain ⟨⟨ps, r'⟩, hr, h⟩ := h
        have := scanString_length hr
        simp only [Prod.mk.injEq] at h
        obtain ⟨_, rfl⟩ := h
        simp only [List.length_cons]
        omega
      · split at h
        · simp only [Option.map_eq_some_iff] at h
          obtain ⟨⟨n, r'⟩, hr, h⟩ := h
          have := scanMagnitude_length hr
          simp only [Prod.mk.injEq] at h
          obtain ⟨_, rfl⟩ := h
          simp only [List.length_cons]
          omega
        · split at h
          · simp only [Option.map_eq_some_iff] at h
            obtain ⟨⟨n, r'⟩, hr, h⟩ := h
            have := scanMagnitude_length hr
            simp only [Prod.mk.injEq] at h
            obtain ⟨_, rfl⟩ := h
            exact this
          · exact scanName_length h

/-! ## The whole text -/

/-- The lexemes of a text. -/
def lex : Bytes → Option (List Lexeme)
  | [] => some []
  | b :: rest =>
    if isSpace b then lex rest
    else
      match _h : scan (b :: rest) with
      | some (l, after) => (lex after).map (l :: ·)
      | none => none
termination_by s => s.length
decreasing_by
  · simp
  · exact scan_length _h

end Lexeme

end Credentials.Json
