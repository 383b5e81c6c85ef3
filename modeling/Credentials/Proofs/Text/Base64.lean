import Credentials.Proofs.Except
import Credentials.Text.Base64

/-!
# Decoding base 64 is the exact inverse of encoding

`decode_eq_ok_iff`: over an alphabet without the equals sign, a text decodes to given bytes if and
only if it is their encoded form. So every byte string has one encoded form only, and no other text
is accepted.

The proof takes symbols and values first: `value?_eq_some_iff` says that a symbol has the value `v`
if it is the symbol of `v`. Each group of symbols is then a matter of arithmetic below 256.
-/

namespace Credentials.Base64

/-! ## Symbols and values -/

namespace Alphabet

variable {a : Alphabet}

/-- The symbol of a value is at its place in the alphabet. -/
theorem symbol_eq_getElem {v : Nat} (h : v < a.symbols.length) : a.symbol v = a.symbols[v] :=
  (List.getElem_eq_getD 0).symm

/-- A byte has a value if it is the symbol of that value. -/
theorem value?_eq_some_iff {s : UInt8} {v : Nat} :
    a.value? s = some v ↔ v < 64 ∧ a.symbol v = s := by
  rw [value?, List.idxOf?_eq_some_iff]
  constructor
  · rintro ⟨h, rfl, -⟩
    exact ⟨a.length_symbols ▸ h, symbol_eq_getElem h⟩
  · rintro ⟨hv, rfl⟩
    have h : v < a.symbols.length := a.length_symbols ▸ hv
    refine ⟨h, (symbol_eq_getElem h).symm, fun j hj heq => ?_⟩
    rw [symbol_eq_getElem h, List.getElem_inj a.nodup_symbols] at heq
    exact absurd heq (Nat.ne_of_lt hj)

/-- The symbols of all values are in the alphabet. -/
theorem symbol_mem {v : Nat} (h : v < 64) : a.symbol v ∈ a.symbols := by
  rw [symbol_eq_getElem (a.length_symbols ▸ h)]
  exact List.getElem_mem _

end Alphabet

/-- A byte is read as a value just if it is the value's symbol. -/
theorem symbolAt_eq_ok_iff {a : Alphabet} {s : UInt8} {offset v : Nat} :
    symbolAt a s offset = .ok v ↔ v < 64 ∧ a.symbol v = s := by
  rw [← Alphabet.value?_eq_some_iff, symbolAt]
  cases a.value? s <;> simp

variable {a : Alphabet}

/-- A decoder that goes on with the value of a symbol succeeds if the symbol has a value with which
it succeeds. -/
theorem bind_symbolAt_eq_ok_iff {s : UInt8} {offset : Nat} {f : Nat → Except Fault Bytes}
    {bs : Bytes} :
    (symbolAt a s offset >>= f) = .ok bs ↔ ∃ v < 64, a.symbol v = s ∧ f v = .ok bs := by
  simp only [bind_eq_ok_iff, symbolAt_eq_ok_iff, and_assoc]

/-! ## Groups of symbols -/

/-- Over an alphabet without the equals sign, the encoded form decodes to the bytes. -/
theorem decodeFrom_encode (noPad : 0x3D ∉ a.symbols) (offset : Nat) (bs : Bytes) :
    decodeFrom a offset (encode a bs) = .ok bs := by
  have ne {v : Nat} (hv : v < 64) : a.symbol v ≠ 0x3D :=
    fun h => noPad (h ▸ Alphabet.symbol_mem hv)
  have next {v offset : Nat} {f : Nat → Except Fault Bytes} {bs : Bytes} (hv : v < 64)
      (h : f v = .ok bs) : (symbolAt a (a.symbol v) offset >>= f) = .ok bs :=
    bind_symbolAt_eq_ok_iff.2 ⟨v, hv, rfl, h⟩
  fun_induction encode a bs generalizing offset with
  | case1 => rfl
  | case2 x =>
    have hx : x.toNat < 256 := x.toNat_lt
    refine next (by omega) (next (by omega) ?_)
    rw [if_pos (by omega), Bytes.ofNat_eq (b := x) (by omega)]
  | case3 x y =>
    have hx : x.toNat < 256 := x.toNat_lt
    have hy : y.toNat < 256 := y.toNat_lt
    refine next (by omega) (next (by omega) ?_)
    -- the third symbol is not taken for padding
    rw [if_neg (ne (by omega))]
    refine next (by omega) ?_
    rw [if_pos (by omega), Bytes.ofNat_eq (b := x) (by omega), Bytes.ofNat_eq (b := y) (by omega)]
  | case4 x y z rest ih =>
    have hx : x.toNat < 256 := x.toNat_lt
    have hy : y.toNat < 256 := y.toNat_lt
    have hz : z.toNat < 256 := z.toNat_lt
    refine next (by omega) (next (by omega) (next (by omega) (next (by omega) ?_)))
    rw [ih, Bytes.ofNat_eq (b := x) (by omega), Bytes.ofNat_eq (b := y) (by omega),
      Bytes.ofNat_eq (b := z) (by omega)]
    rfl

section groups

variable {u v w x : Nat} (hu : u < 64) (hv : v < 64) (hw : w < 64) (hx : x < 64)

include hu hv

/-- Two symbols without unused bits encode their byte. -/
theorem encode_one (unused : v % 16 = 0) :
    encode a [UInt8.ofNat (u * 4 + v / 16)] = [a.symbol u, a.symbol v] := by
  have hb : (UInt8.ofNat (u * 4 + v / 16)).toNat = u * 4 + v / 16 := Bytes.toNat_byte (by omega)
  have first : (u * 4 + v / 16) / 4 = u := by omega
  have second : (u * 4 + v / 16) % 4 * 16 = v := by omega
  rw [encode, hb, first, second]

include hw

/-- Three symbols without unused bits encode their two bytes. -/
theorem encode_two (unused : w % 4 = 0) :
    encode a [UInt8.ofNat (u * 4 + v / 16), UInt8.ofNat (v % 16 * 16 + w / 4)] =
      [a.symbol u, a.symbol v, a.symbol w] := by
  have hb : (UInt8.ofNat (u * 4 + v / 16)).toNat = u * 4 + v / 16 := Bytes.toNat_byte (by omega)
  have hc : (UInt8.ofNat (v % 16 * 16 + w / 4)).toNat = v % 16 * 16 + w / 4 :=
    Bytes.toNat_byte (by omega)
  have first : (u * 4 + v / 16) / 4 = u := by omega
  have second : (u * 4 + v / 16) % 4 * 16 + (v % 16 * 16 + w / 4) / 16 = v := by omega
  have third : (v % 16 * 16 + w / 4) % 16 * 4 = w := by omega
  rw [encode, hb, hc, first, second, third]

include hx

/-- Four symbols encode their three bytes. -/
theorem encode_three (rest : Bytes) :
    encode a (UInt8.ofNat (u * 4 + v / 16) :: UInt8.ofNat (v % 16 * 16 + w / 4) ::
        UInt8.ofNat (w % 4 * 64 + x) :: rest) =
      a.symbol u :: a.symbol v :: a.symbol w :: a.symbol x :: encode a rest := by
  have hb : (UInt8.ofNat (u * 4 + v / 16)).toNat = u * 4 + v / 16 := Bytes.toNat_byte (by omega)
  have hc : (UInt8.ofNat (v % 16 * 16 + w / 4)).toNat = v % 16 * 16 + w / 4 :=
    Bytes.toNat_byte (by omega)
  have hd : (UInt8.ofNat (w % 4 * 64 + x)).toNat = w % 4 * 64 + x := Bytes.toNat_byte (by omega)
  have first : (u * 4 + v / 16) / 4 = u := by omega
  have second : (u * 4 + v / 16) % 4 * 16 + (v % 16 * 16 + w / 4) / 16 = v := by omega
  have third : (v % 16 * 16 + w / 4) % 16 * 4 + (w % 4 * 64 + x) / 64 = w := by omega
  have fourth : (w % 4 * 64 + x) % 64 = x := by omega
  rw [encode, hb, hc, hd, first, second, third, fourth]

end groups

/-- A text that decodes is the encoded form of the bytes that it decodes to. -/
theorem eq_encode_of_decodeFrom {offset : Nat} {text bs : Bytes}
    (h : decodeFrom a offset text = .ok bs) : text = encode a bs := by
  fun_induction decodeFrom a offset text generalizing bs with
  | case1 =>
    cases h
    rfl
  | case2 offset s =>
    obtain ⟨u, -, -, h⟩ := bind_symbolAt_eq_ok_iff.1 h
    cases h
  | case3 offset s t =>
    obtain ⟨u, hu, rfl, h₁⟩ := bind_symbolAt_eq_ok_iff.1 h
    obtain ⟨v, hv, rfl, h₂⟩ := bind_symbolAt_eq_ok_iff.1 h₁
    split at h₂
    case isTrue unused =>
      obtain rfl := Except.ok.inj h₂
      exact (encode_one hu hv unused).symm
    case isFalse => cases h₂
  | case4 offset s t r =>
    obtain ⟨u, hu, rfl, h₁⟩ := bind_symbolAt_eq_ok_iff.1 h
    obtain ⟨v, hv, rfl, h₂⟩ := bind_symbolAt_eq_ok_iff.1 h₁
    split at h₂
    case isTrue => cases h₂
    case isFalse =>
      obtain ⟨w, hw, rfl, h₃⟩ := bind_symbolAt_eq_ok_iff.1 h₂
      split at h₃
      case isTrue unused =>
        obtain rfl := Except.ok.inj h₃
        exact (encode_two hu hv hw unused).symm
      case isFalse => cases h₃
  | case5 offset s t r q rest ih =>
    obtain ⟨u, hu, rfl, h₁⟩ := bind_symbolAt_eq_ok_iff.1 h
    obtain ⟨v, hv, rfl, h₂⟩ := bind_symbolAt_eq_ok_iff.1 h₁
    obtain ⟨w, hw, rfl, h₃⟩ := bind_symbolAt_eq_ok_iff.1 h₂
    obtain ⟨x, hx, rfl, h₄⟩ := bind_symbolAt_eq_ok_iff.1 h₃
    obtain ⟨tail, hrest, h₅⟩ := bind_eq_ok_iff.1 h₄
    obtain rfl := Except.ok.inj h₅
    rw [encode_three hu hv hw hx, ih hrest]

/-! ## Whole texts -/

/-- Decoding is the exact inverse of encoding. -/
theorem decode_eq_ok_iff (noPad : 0x3D ∉ a.symbols) {text bs : Bytes} :
    decode a text = .ok bs ↔ text = encode a bs :=
  ⟨eq_encode_of_decodeFrom, fun h => h ▸ decodeFrom_encode noPad 0 bs⟩

/-- Every byte of an encoded form is a symbol. -/
theorem mem_symbols_of_mem_encode {bs : Bytes} {s : UInt8} (h : s ∈ encode a bs) :
    s ∈ a.symbols := by
  fun_induction encode a bs with
  | case1 => cases h
  | case2 x =>
    have hx : x.toNat < 256 := x.toNat_lt
    simp only [List.mem_cons, List.not_mem_nil, or_false] at h
    rcases h with rfl | rfl <;> exact Alphabet.symbol_mem (by omega)
  | case3 x y =>
    have hx : x.toNat < 256 := x.toNat_lt
    have hy : y.toNat < 256 := y.toNat_lt
    simp only [List.mem_cons, List.not_mem_nil, or_false] at h
    rcases h with rfl | rfl | rfl <;> exact Alphabet.symbol_mem (by omega)
  | case4 x y z rest ih =>
    have hx : x.toNat < 256 := x.toNat_lt
    have hy : y.toNat < 256 := y.toNat_lt
    have hz : z.toNat < 256 := z.toNat_lt
    simp only [List.mem_cons] at h
    rcases h with rfl | rfl | rfl | rfl | h
    case inr.inr.inr.inr => exact ih h
    all_goals exact Alphabet.symbol_mem (by omega)

/-- Four symbols for every three bytes, and one more than its bytes for what is left. -/
theorem length_encode (bs : Bytes) : (encode a bs).length = (4 * bs.length + 2) / 3 := by
  fun_induction encode a bs with
  | case1 | case2 | case3 => simp
  | case4 x y z rest ih =>
    simp only [List.length_cons, ih]
    omega

/-! ## The two alphabets -/

/-- The filler is no symbol of the alphabet for URLs. -/
theorem equals_not_mem_url : 0x3D ∉ Alphabet.url.symbols := by decide

/-- A full stop is no symbol of the alphabet for URLs. -/
theorem dot_not_mem_url : 0x2E ∉ Alphabet.url.symbols := by decide

/-- The filler is no symbol of the alphabet of bcrypt. -/
theorem equals_not_mem_bcrypt : 0x3D ∉ Alphabet.bcrypt.symbols := by decide

/-- The symbols for URLs are ASCII. -/
theorem url_ascii : ∀ s ∈ Alphabet.url.symbols, s.toNat < 0x80 := by
  have all : (Alphabet.url.symbols.all fun s => s.toNat < 0x80) = true := rfl
  intro s hs
  exact of_decide_eq_true (List.all_eq_true.1 all s hs)

/-- The symbols of bcrypt are ASCII. -/
theorem bcrypt_ascii : ∀ s ∈ Alphabet.bcrypt.symbols, s.toNat < 0x80 := by
  have all : (Alphabet.bcrypt.symbols.all fun s => s.toNat < 0x80) = true := rfl
  intro s hs
  exact of_decide_eq_true (List.all_eq_true.1 all s hs)

end Credentials.Base64
