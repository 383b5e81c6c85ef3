import Credentials.Json.Passage
import Credentials.Json.Value
import Credentials.Proofs.Json.Reading
import Credentials.Proofs.Text.Decimal
import Credentials.Proofs.Text.Utf8

/-!
# Reading back what was written

`tree j` is the tree of a JSON value that is written. The main statements:

* `read?_render` — the compact text of a value is read as its tree.
* `text?_pieces`, `Number.int?_ofInt` — the strings and the integers in that tree mean what was
  written, for every text and every integer.
* `Unescaped.quote_eq` — a text without quotes, backslashes and control characters is written as it
  is.
* `loneSurrogate?_of_bytes?` — a string that spells bytes has no surrogate that stands alone.
-/

namespace Credentials.Json

/-! ## The tree of a value -/

/-- The pieces of a character as it stands in a string. -/
def piecesOf (c : Char) : List Piece :=
  match shortEscapes.lookup c with
  | some _ => [.byte (UInt8.ofNat c.toNat)]
  | none =>
    if c.toNat < 0x20 then [.unit (UInt16.ofNat c.toNat)]
    else (String.utf8EncodeChar c).map .byte

/-- The pieces of a text. -/
def pieces (s : String) : List Piece := s.toList.flatMap piecesOf

/-- An integer, digit by digit. -/
def Number.ofInt (i : Int) : Number := ⟨decide (i < 0), Decimal.digits i.natAbs, [], none⟩

mutual

/-- The tree of a value. -/
def tree : Json → Tree
  | .null => .null
  | .bool b => .bool b
  | .int i => .number (.ofInt i)
  | .str s => .string (pieces s)
  | .arr es => .array (elementTrees es)
  | .obj ms => .object (memberTrees ms)

/-- The trees of the elements of a list. -/
def elementTrees : List Json → List Tree
  | [] => []
  | e :: es => tree e :: elementTrees es

/-- The trees of the members of an object. -/
def memberTrees : List (String × Json) → List (List Piece × Tree)
  | [] => []
  | (k, v) :: ms => (pieces k, tree v) :: memberTrees ms

end

/-- The trees of a list's elements, one by one. -/
theorem elementTrees_eq_map (es : List Json) : elementTrees es = es.map tree := by
  induction es with
  | nil => rfl
  | cons e es ih => rw [elementTrees, ih, List.map_cons]

/-! ## Integers -/

/-- The number of an integer is that integer. -/
theorem Number.int?_ofInt (i : Int) : (Number.ofInt i).int? = some i := by
  have spelled : ofDigits (Decimal.digits i.natAbs) = i.natAbs := Decimal.foldl_digits _
  simp only [Number.int?, Number.ofInt, spelled, and_self, if_true]
  by_cases h : i < 0
  · simp only [h, decide_true, if_true]
    rw [if_neg (by omega)]
    congr 1
    omega
  · simp only [h, decide_false, Bool.false_eq_true, if_false]
    congr 1
    omega

open Lexeme

/-- Digit characters are ASCII. -/
theorem encode_digits {ds : List Nat} (h : AreDigits ds) :
    Utf8.encode (ds.map Decimal.digitChar) = digitBytes ds := by
  have value {d : Nat} (hd : d ∈ ds) : (Decimal.digitChar d).toNat = 0x30 + d := by
    have := h d hd
    exact Utf8.toNat_ofNat_char (by omega)
  rw [Utf8.encode_of_ascii, List.map_map]
  · exact List.map_congr_left fun d hd => congrArg UInt8.ofNat (value hd)
  · intro c hc
    obtain ⟨d, hd, rfl⟩ := List.mem_map.1 hc
    have := h d hd
    rw [value hd]
    omega

/-- A natural number is written without leading zeros. -/
theorem wholeText_digits (n : Nat) :
    WholeText (Decimal.digits n) (Utf8.encode (Decimal.ofNat n)) := by
  have areDigits : AreDigits (Decimal.digits n) := fun d hd => Decimal.lt_of_mem_digits hd
  rw [Decimal.ofNat_eq_map_digits, encode_digits areDigits]
  rcases Decimal.digits_head n with ⟨-, h⟩ | ⟨d, ds, hd, h⟩
  · rw [h]
    exact .zero
  · rw [h] at areDigits ⊢
    exact .digits hd areDigits

/-- An integer is written as a number is. -/
theorem numberText_ofInt (i : Int) :
    NumberText (Number.ofInt i) (Utf8.encode (Decimal.ofInt i)) := by
  have magnitude : MagnitudeText (Number.ofInt i) (Utf8.encode (Decimal.ofNat i.natAbs)) := by
    rw [← List.append_nil (Utf8.encode _), ← List.append_nil (Utf8.encode _ ++ _)]
    exact .mk (wholeText_digits i.natAbs) .none .none
  by_cases h : i < 0
  · rw [Decimal.ofInt, if_pos h]
    exact .negative (decide_eq_true h) magnitude
  · rw [Decimal.ofInt, if_neg h]
    exact .positive (decide_eq_false h) magnitude

/-! ## Strings -/

/-- The three ways in which a character stands in a string. -/
theorem escape_cases (c : Char) :
    (∃ e, (c, e) ∈ shortEscapes ∧ escape c = ['\\', e] ∧
      piecesOf c = [.byte (UInt8.ofNat c.toNat)]) ∨
    (c.toNat < 0x20 ∧ escape c = ['\\', 'u', '0', '0', Hex.digitChar (c.toNat / 16),
        Hex.digitChar (c.toNat % 16)] ∧ piecesOf c = [.unit (UInt16.ofNat c.toNat)]) ∨
    (0x20 ≤ c.toNat ∧ c ≠ '"' ∧ c ≠ '\\' ∧ escape c = [c] ∧
      piecesOf c = (String.utf8EncodeChar c).map .byte) := by
  cases h : shortEscapes.lookup c with
  | some e =>
    obtain ⟨before, behind, hmem, -⟩ := List.lookup_eq_some_iff.1 h
    refine .inl ⟨e, ?_, by rw [escape, h], by rw [piecesOf, h]⟩
    rw [hmem]
    exact List.mem_append_right _ List.mem_cons_self
  | none =>
    by_cases hc : c.toNat < 0x20
    · exact .inr (.inl ⟨hc, by simp only [escape, h, hc, if_true],
        by simp only [piecesOf, h, hc, if_true]⟩)
    · refine .inr (.inr ⟨by omega, ?_, ?_, by simp only [escape, h, hc, if_false],
        by simp only [piecesOf, h, hc, if_false]⟩)
      · rintro rfl
        cases h
      · rintro rfl
        cases h

/-- A character that is neither a control character nor a quote nor a backslash stands for itself. -/
theorem escape_eq_self {c : Char} (printable : 0x20 ≤ c.toNat) (noQuote : c.toNat ≠ 0x22)
    (noBackslash : c.toNat ≠ 0x5C) : escape c = [c] := by
  rcases escape_cases c with ⟨e, hmem, -, -⟩ | ⟨control, -, -⟩ | ⟨-, -, -, self, -⟩
  · have all : ∀ p ∈ shortEscapes, p.1.toNat < 0x20 ∨ p.1.toNat = 0x22 ∨ p.1.toNat = 0x5C := by
      decide
    rcases all _ hmem with control | quoted | backslash
    · exact absurd control (Nat.not_lt.2 printable)
    · exact absurd quoted noQuote
    · exact absurd backslash noBackslash
  · omega
  · exact self

/-- No character of the text needs an escape. -/
def Unescaped (cs : List Char) : Prop := ∀ c ∈ cs, escape c = [c]

instance (cs : List Char) : Decidable (Unescaped cs) :=
  List.decidableBAll (fun c => escape c = [c]) cs

/-- Two texts that need no escape need none together. -/
theorem Unescaped.append {cs ds : List Char} (h : Unescaped cs) (h' : Unescaped ds) :
    Unescaped (cs ++ ds) := by
  intro c hc
  rcases List.mem_append.1 hc with hc | hc
  · exact h c hc
  · exact h' c hc

/-- A character that needs no escape can stand before a text that needs none. -/
theorem Unescaped.cons {c : Char} {cs : List Char} (first : escape c = [c]) (h : Unescaped cs) :
    Unescaped (c :: cs) := by
  rintro d (_ | ⟨_, hd⟩)
  · exact first
  · exact h d hd

/-- Such a text stands between its quotes as it is. -/
theorem Unescaped.quote_eq {s : String} (h : Unescaped s.toList) :
    quote s = '"' :: s.toList ++ ['"'] := by
  have same {cs : List Char} (h : Unescaped cs) : cs.flatMap escape = cs := by
    induction cs with
    | nil => rfl
    | cons c cs ih =>
      rw [List.flatMap_cons, h c List.mem_cons_self, ih fun d hd => h d (List.mem_cons_of_mem c hd)]
      rfl
  rw [quote, same h]

/-- Bytes that are no quote, backslash or control byte stand in a string as they are. -/
theorem stringText_bytes {bs : Bytes} {ps : List Piece} {s : Bytes}
    (hb : ∀ b ∈ bs, b ≠ 0x22 ∧ b ≠ 0x5C ∧ 0x20 ≤ b) (h : StringText ps s) :
    StringText (bs.map .byte ++ ps) (bs ++ s) := by
  induction bs with
  | nil => exact h
  | cons b bs ih =>
    obtain ⟨hq, hs, hc⟩ := hb b List.mem_cons_self
    exact .byte hq hs hc (ih fun x hx => hb x (List.mem_cons_of_mem _ hx))

/-- The byte of a lower-case hexadecimal digit. -/
def hexByte (d : Nat) : UInt8 := UInt8.ofNat (Hex.digitChar d).toNat

/-- The escape of a control character in bytes, and the code that it spells. -/
theorem controlEscape : ∀ n < 0x20,
    Utf8.encode ['\\', 'u', '0', '0', Hex.digitChar (n / 16), Hex.digitChar (n % 16)] =
      [0x5C, 0x75, 0x30, 0x30, hexByte (n / 16), hexByte (n % 16)] ∧
    unit? 0x30 0x30 (hexByte (n / 16)) (hexByte (n % 16)) = some (UInt16.ofNat n) := by
  decide

/-- A byte of a character that stands for itself stands for itself. -/
theorem plain_of_mem {c : Char} {b : UInt8} (hc : 0x20 ≤ c.toNat) (hq : c ≠ '"') (hs : c ≠ '\\')
    (hb : b ∈ String.utf8EncodeChar c) : b ≠ 0x22 ∧ b ≠ 0x5C ∧ 0x20 ≤ b := by
  have hle : (0x20 : UInt8) ≤ b ↔ 0x20 ≤ b.toNat := UInt8.le_iff_toNat_le
  by_cases ascii : c.toNat < 0x80
  · rw [Utf8.utf8EncodeChar_of_ascii ascii, List.mem_singleton] at hb
    have hn : b.toNat = c.toNat := by rw [hb, Bytes.toNat_byte (by omega)]
    have hchar : c = Char.ofNat b.toNat := by rw [hn, Char.ofNat_toNat]
    refine ⟨?_, ?_, hle.2 (by omega)⟩
    · rintro rfl
      exact hq hchar
    · rintro rfl
      exact hs hchar
  · have hn : 0x80 ≤ b.toNat := Utf8.le_of_mem_utf8EncodeChar (by omega) hb
    refine ⟨?_, ?_, hle.2 (by omega)⟩
    · rintro rfl
      exact absurd hn (by decide)
    · rintro rfl
      exact absurd hn (by decide)

/-- A character as it is written in a string is read as its pieces. -/
theorem stringText_escape (c : Char) {ps : List Piece} {s : Bytes} (h : StringText ps s) :
    StringText (piecesOf c ++ ps) (Utf8.encode (escape c) ++ s) := by
  rcases escape_cases c with ⟨e, hmem, he, hp⟩ | ⟨hc, he, hp⟩ | ⟨hc, hq, hs, he, hp⟩
  · rw [he, hp]
    simp only [shortEscapes, List.mem_cons, Prod.mk.injEq, List.not_mem_nil, or_false] at hmem
    rcases hmem with ⟨rfl, rfl⟩ | ⟨rfl, rfl⟩ | ⟨rfl, rfl⟩ | ⟨rfl, rfl⟩ | ⟨rfl, rfl⟩ | ⟨rfl, rfl⟩ |
      ⟨rfl, rfl⟩ <;> exact .short rfl h
  · obtain ⟨spelled, code⟩ := controlEscape c.toNat hc
    rw [he, hp, spelled]
    exact .unit code h
  · rw [he, hp, Utf8.encode_cons, Utf8.encode_nil, List.append_nil]
    exact stringText_bytes (fun b hb => plain_of_mem hc hq hs hb) h

/-- A text between quotes is the text of its pieces. -/
theorem stringText_pieces (s : String) :
    StringText (pieces s) (Utf8.encode (s.toList.flatMap escape)) := by
  rw [pieces]
  induction s.toList with
  | nil => exact .nil
  | cons c cs ih =>
    rw [List.flatMap_cons, List.flatMap_cons, Utf8.encode_append]
    exact stringText_escape c ih

/-- The code unit of a control character is no surrogate. -/
theorem controlUnit : ∀ n < 0x20, (UInt16.ofNat n).toNat = n ∧
    isLowSurrogate (UInt16.ofNat n) = false ∧ isHighSurrogate (UInt16.ofNat n) = false := by
  decide

/-- Plain bytes of a string are taken as they are. -/
theorem bytes?_bytes (bs : Bytes) (ps : List Piece) :
    bytes? (bs.map .byte ++ ps) = (bytes? ps).map (bs ++ ·) := by
  induction bs with
  | nil => cases h : bytes? ps <;> simp [h]
  | cons b bs ih =>
    rw [List.map_cons, List.cons_append, bytes?, ih, Option.map_map]
    rfl

/-- The pieces of a character make its bytes. -/
theorem bytes?_piecesOf (c : Char) (ps : List Piece) :
    bytes? (piecesOf c ++ ps) = (bytes? ps).map (String.utf8EncodeChar c ++ ·) := by
  rcases escape_cases c with ⟨e, hmem, -, hp⟩ | ⟨hc, -, hp⟩ | ⟨-, -, -, -, hp⟩
  · have ascii : c.toNat < 0x80 := by
      simp only [shortEscapes, List.mem_cons, Prod.mk.injEq, List.not_mem_nil, or_false] at hmem
      rcases hmem with ⟨rfl, -⟩ | ⟨rfl, -⟩ | ⟨rfl, -⟩ | ⟨rfl, -⟩ | ⟨rfl, -⟩ | ⟨rfl, -⟩ |
        ⟨rfl, -⟩ <;> decide
    rw [hp, Utf8.utf8EncodeChar_of_ascii ascii]
    exact bytes?_bytes [_] ps
  · obtain ⟨hu, hlow, hhigh⟩ := controlUnit c.toNat hc
    rw [hp, List.singleton_append, bytes?.eq_def]
    simp only [hlow, hhigh, hu, Char.ofNat_toNat]
    rfl
  · rw [hp, bytes?_bytes]

/-- The pieces of a text spell that text. -/
theorem text?_pieces (s : String) : text? (pieces s) = some s := by
  have spelled (cs : List Char) : bytes? (cs.flatMap piecesOf) = some (Utf8.encode cs) := by
    induction cs with
    | nil => rfl
    | cons c cs ih =>
      rw [List.flatMap_cons, bytes?_piecesOf, ih]
      rfl
  rw [text?, pieces, spelled]
  exact Utf8.string?_ofString s

/-- In a string that spells bytes no surrogate stands alone. -/
theorem loneSurrogate?_of_bytes? {ps : List Piece} {bs : Bytes} (h : bytes? ps = some bs) :
    loneSurrogate? ps = none := by
  fun_induction bytes? ps generalizing bs with
  | case1 => rfl
  | case2 b rest ih =>
    obtain ⟨bs', hrest, -⟩ := Option.map_eq_some_iff.1 h
    rw [loneSurrogate?, ih hrest]
  | case3 => cases h
  | case4 u hlow hhigh v rest hv ih =>
    obtain ⟨bs', hrest, -⟩ := Option.map_eq_some_iff.1 h
    rw [loneSurrogate?.eq_def]
    simp only [hlow, hhigh, hv, ih hrest]
    rfl
  | case5 => cases h
  | case6 => cases h
  | case7 u rest hlow hhigh ih =>
    obtain ⟨bs', hrest, -⟩ := Option.map_eq_some_iff.1 h
    rw [loneSurrogate?.eq_def]
    simp only [hlow, hhigh, ih hrest]
    rfl

/-- A string that spells a text can be got past. -/
theorem passageOfString_of_text? {ps : List Piece} {s : String} (h : text? ps = some s) :
    passageOfString ps = .read := by
  obtain ⟨bs, hbs, -⟩ := Option.bind_eq_some_iff.1 h
  rw [passageOfString, loneSurrogate?_of_bytes? hbs, h]
  rfl

/-! ## Values -/

/-- A lexeme's text before that of a row. -/
theorem rowText_cons {l : Lexeme} {ls : List Lexeme} {t s : Bytes} (ht : LexemeText l t)
    (ends : (∃ n, l = .number n) → Stops s) (h : RowText ls s) : RowText (l :: ls) (t ++ s) :=
  @RowText.cons [] t s l ls (fun _ hb => absurd hb List.not_mem_nil) ht ends h

/-- A mark before the text of a row. -/
theorem rowText_mark {b : UInt8} {l : Lexeme} {ls : List Lexeme} {s : Bytes}
    (hb : mark? b = some l) (ends : (∃ n, l = .number n) → Stops s) (h : RowText ls s) :
    RowText (l :: ls) (b :: s) :=
  rowText_cons (.mark hb) ends h

/-- A text in quotes before the text of a row. -/
theorem rowText_quote (k : String) {ls : List Lexeme} {s : Bytes} (h : RowText ls s) :
    RowText (.string (pieces k) :: ls) (Utf8.encode (quote k) ++ s) := by
  rw [quote, List.cons_append, Utf8.encode_cons, Utf8.encode_append]
  exact rowText_cons (.string (stringText_pieces k)) nofun h

/-- A byte that does not go on with a number ends it. -/
theorem stops_cons {b : UInt8} {s : Bytes} (h : goesOn b = false) : Stops (b :: s) := by
  rintro b ⟨⟩
  exact h

/-- An element that is not the last is written with a comma behind it. -/
theorem renderElements_cons_cons (e e' : Json) (es : List Json) :
    renderElements (e :: e' :: es) = render e ++ ',' :: renderElements (e' :: es) := by
  rw [renderElements]
  exact fun h => nomatch h

/-- A member that is not the last is written with a comma behind it. -/
theorem renderMembers_cons_cons (k : String) (v : Json) (m : String × Json)
    (ms : List (String × Json)) :
    renderMembers ((k, v) :: m :: ms) =
      (quote k ++ ':' :: render v) ++ ',' :: renderMembers (m :: ms) := by
  rw [renderMembers]
  exact fun h => nomatch h

mutual

/-- A rendered value with a row behind it is a text of its lexemes and that row. -/
theorem rowText_render (j : Json) {ls : List Lexeme} {s : Bytes} (h : RowText ls s)
    (stop : Stops s) : RowText ((tree j).lexemes ++ ls) (Utf8.encode (render j) ++ s) := by
  cases j with
  | null => exact rowText_cons (.name (by decide)) nofun h
  | bool b => cases b <;> exact rowText_cons (.name (by decide)) nofun h
  | int i => exact rowText_cons (.number (numberText_ofInt i)) (fun _ => stop) h
  | str t => exact rowText_quote t h
  | arr es =>
    rw [tree, Tree.lexemes, render, Utf8.encode_cons]
    exact rowText_mark rfl nofun (rowText_renderElements es h)
  | obj ms =>
    rw [tree, Tree.lexemes, render, Utf8.encode_cons]
    exact rowText_mark rfl nofun (rowText_renderMembers ms h)

/-- The elements of a list are written as the lexemes of their trees. -/
theorem rowText_renderElements (es : List Json) {ls : List Lexeme} {s : Bytes}
    (h : RowText ls s) :
    RowText (Tree.elementLexemes (elementTrees es) ++ ls)
      (Utf8.encode (renderElements es) ++ s) := by
  cases es with
  | nil => exact rowText_mark rfl nofun h
  | cons e es =>
    cases es with
    | nil =>
      have closed : RowText (.closeBracket :: ls) (0x5D :: s) := rowText_mark rfl nofun h
      rw [elementTrees, elementTrees, Tree.elementLexemes, renderElements, Utf8.encode_append,
        List.append_assoc, List.append_assoc]
      -- the bracket, like a comma below, ends a number
      exact rowText_render e closed (stops_cons rfl)
    | cons e' es =>
      have more := @rowText_mark 0x2C .comma _ _ rfl nofun (rowText_renderElements (e' :: es) h)
      rw [renderElements_cons_cons, Utf8.encode_append, List.append_assoc]
      simp only [elementTrees] at more ⊢
      rw [Tree.elementLexemes_cons_cons, List.append_assoc]
      exact rowText_render e more (stops_cons rfl)

/-- The members of an object are written as the lexemes of their trees. -/
theorem rowText_renderMembers (ms : List (String × Json)) {ls : List Lexeme} {s : Bytes}
    (h : RowText ls s) :
    RowText (Tree.memberLexemes (memberTrees ms) ++ ls) (Utf8.encode (renderMembers ms) ++ s) := by
  cases ms with
  | nil => exact rowText_mark rfl nofun h
  | cons m ms =>
    obtain ⟨k, v⟩ := m
    -- Whatever follows the value, its name and the colon go before.
    have named {ls : List Lexeme} {s : Bytes}
        (h : RowText ((tree v).lexemes ++ ls) (Utf8.encode (render v) ++ s)) :
        RowText (.string (pieces k) :: .colon :: (tree v).lexemes ++ ls)
          (Utf8.encode (quote k ++ ':' :: render v) ++ s) := by
      rw [Utf8.encode_append, List.append_assoc]
      exact rowText_quote k (@rowText_mark 0x3A .colon _ _ rfl nofun h)
    cases ms with
    | nil =>
      have closed : RowText (.closeBrace :: ls) (0x7D :: s) := rowText_mark rfl nofun h
      rw [memberTrees, memberTrees, Tree.memberLexemes, renderMembers, Utf8.encode_append,
        List.append_assoc, List.append_assoc]
      exact named (rowText_render v closed (stops_cons rfl))
    | cons m' ms =>
      have more := @rowText_mark 0x2C .comma _ _ rfl nofun (rowText_renderMembers (m' :: ms) h)
      rw [renderMembers_cons_cons, Utf8.encode_append, List.append_assoc]
      obtain ⟨k', v'⟩ := m'
      simp only [memberTrees] at more ⊢
      rw [Tree.memberLexemes_cons_cons, List.append_assoc]
      exact named (rowText_render v more (stops_cons rfl))

end

/-- The compact text of a value is read as the tree of that value. -/
theorem read?_render (j : Json) : Tree.read? (Utf8.encode (render j)) = some (tree j) := by
  have row := rowText_render j (.blank fun _ hb => absurd hb List.not_mem_nil) nofun
  rw [List.append_nil, List.append_nil] at row
  exact Tree.read?_of_rowText row

/-- A value is read back from its text as its tree. -/
theorem read?_text (j : Json) : Tree.read? (Utf8.ofString j.text) = some (tree j) := by
  rw [text, Utf8.ofString, String.toList_ofList, read?_render]

end Credentials.Json
