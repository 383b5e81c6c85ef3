import Credentials.Bytes

/-!
# Base 64 without padding

Three bytes are written as four symbols of six bits, and a last group of one or two bytes as two or
three symbols whose unused low bits are zero. The form is canonical: `decode` refuses padding,
symbols outside the alphabet, and unused bits that are not zero, and says which it met first.

Two alphabets are in use: `Alphabet.url` for tokens and `Alphabet.bcrypt` for password hashes.
-/

namespace Credentials.Base64

/-! ## Alphabets -/

/-- Sixty-four different symbols, in the order of their values. -/
structure Alphabet where
  /-- The symbols, as ASCII bytes. -/
  symbols : Bytes
  /-- There are sixty-four of them. -/
  length_symbols : symbols.length = 64 := by decide
  /-- No symbol stands for two values. -/
  nodup_symbols : symbols.Nodup := by decide

namespace Alphabet

/-- The ASCII bytes from `a` on, `count` of them. -/
def run (a count : Nat) : Bytes := (List.range count).map fun i => UInt8.ofNat (a + i)

/-- Upper case, lower case, digits, hyphen and underscore. -/
def url : Alphabet where
  symbols := run 0x41 26 ++ run 0x61 26 ++ run 0x30 10 ++ [0x2D, 0x5F]

/-- Full stop, slash, upper case, lower case and digits. -/
def bcrypt : Alphabet where
  symbols := [0x2E, 0x2F] ++ run 0x41 26 ++ run 0x61 26 ++ run 0x30 10

/-- The symbol of a six-bit value. -/
def symbol (a : Alphabet) (v : Nat) : UInt8 := a.symbols.getD v 0

/-- The six-bit value of a symbol. -/
def value? (a : Alphabet) (s : UInt8) : Option Nat := a.symbols.idxOf? s

end Alphabet

/-! ## Encoding -/

/-- Four symbols for every three bytes, and two or three for a last group of one or two. -/
def encode (a : Alphabet) : Bytes → Bytes
  | [] => []
  | [x] => [a.symbol (x.toNat / 4), a.symbol (x.toNat % 4 * 16)]
  | [x, y] =>
    [a.symbol (x.toNat / 4), a.symbol (x.toNat % 4 * 16 + y.toNat / 16),
      a.symbol (y.toNat % 16 * 4)]
  | x :: y :: z :: rest =>
    a.symbol (x.toNat / 4) :: a.symbol (x.toNat % 4 * 16 + y.toNat / 16) ::
      a.symbol (y.toNat % 16 * 4 + z.toNat / 64) :: a.symbol (z.toNat % 64) :: encode a rest

/-! ## Decoding -/

/-- Why a text is not the encoded form of any bytes. -/
inductive Fault where
  /-- A byte at this offset that is no symbol of the alphabet. -/
  | symbol (byte : UInt8) (offset : Nat)
  /-- A last symbol at this offset with an unused bit that is not zero. -/
  | lastSymbol (byte : UInt8) (offset : Nat)
  /-- A last group filled up with an equals sign. -/
  | padding
  /-- A last group of one symbol. -/
  | length
  deriving DecidableEq, Repr

/-- The value of the symbol at `offset`. -/
def symbolAt (a : Alphabet) (s : UInt8) (offset : Nat) : Except Fault Nat :=
  match a.value? s with
  | some v => .ok v
  | none => .error (.symbol s offset)

/-- The bytes of a text that stands at `offset` in the whole. An equals sign in the third place of
the last group counts as padding, everywhere else as a foreign symbol. -/
def decodeFrom (a : Alphabet) (offset : Nat) : Bytes → Except Fault Bytes
  | [] => .ok []
  | [s] => do
    let _ ← symbolAt a s offset
    .error .length
  | [s, t] => do
    let u ← symbolAt a s offset
    let v ← symbolAt a t (offset + 1)
    if v % 16 = 0 then .ok [UInt8.ofNat (u * 4 + v / 16)]
    else .error (.lastSymbol t (offset + 1))
  | [s, t, r] => do
    let u ← symbolAt a s offset
    let v ← symbolAt a t (offset + 1)
    if r = 0x3D then .error .padding
    else
      let w ← symbolAt a r (offset + 2)
      if w % 4 = 0 then .ok [UInt8.ofNat (u * 4 + v / 16), UInt8.ofNat (v % 16 * 16 + w / 4)]
      else .error (.lastSymbol r (offset + 2))
  | s :: t :: r :: q :: rest => do
    let u ← symbolAt a s offset
    let v ← symbolAt a t (offset + 1)
    let w ← symbolAt a r (offset + 2)
    let x ← symbolAt a q (offset + 3)
    let bs ← decodeFrom a (offset + 4) rest
    .ok (UInt8.ofNat (u * 4 + v / 16) :: UInt8.ofNat (v % 16 * 16 + w / 4) ::
      UInt8.ofNat (w % 4 * 64 + x) :: bs)

/-- The bytes that a text encodes. -/
def decode (a : Alphabet) (text : Bytes) : Except Fault Bytes := decodeFrom a 0 text

end Credentials.Base64
