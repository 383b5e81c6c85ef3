import Credentials.Bytes

/-!
# UTF-8

Texts are lists of characters, and byte strings hold them in UTF-8.

* `Utf8.encode` — the encoded form of a list of characters, and `Utf8.ofString` of a string.
* `Utf8.decode` — the characters that a byte string encodes. A byte string that is not well formed
  is refused with a `Fault`, which says how far it was well formed and how many bytes the first
  ill-formed part takes.

A lead byte fixes how many bytes its character takes (`width`) and, for some leads, a narrower
range of the second byte (`isSecond`): that range is what keeps out overlong forms, surrogates and
values above U+10FFFF. Every later byte is a tail byte (`isTail`).
-/

namespace Credentials.Utf8

/-! ## Encoding -/

/-- The encoded form of a list of characters. -/
def encode (cs : List Char) : Bytes := cs.flatMap String.utf8EncodeChar

/-- The encoded form of a string. -/
def ofString (s : String) : Bytes := encode s.toList

/-- The empty text has no bytes. -/
@[simp] theorem encode_nil : encode [] = [] := rfl

/-- A text is encoded from its first character on. -/
@[simp] theorem encode_cons (c : Char) (cs : List Char) :
    encode (c :: cs) = String.utf8EncodeChar c ++ encode cs := rfl

/-- Two texts are encoded one after the other. -/
@[simp] theorem encode_append (as bs : List Char) : encode (as ++ bs) = encode as ++ encode bs := by
  simp [encode]

/-! ## Decoding -/

/-- Where a byte string stops being UTF-8. -/
structure Fault where
  /-- The length of the longest well-formed beginning. -/
  validUpTo : Nat
  /-- How many bytes the ill-formed part takes; none when the bytes end inside a character. -/
  errorLen : Option Nat
  deriving DecidableEq, Repr

/-- A byte that continues a character. -/
def isTail (b : UInt8) : Bool := 0x80 ≤ b && b ≤ 0xBF

/-- How many bytes the character of this lead byte takes; 0 for a byte that leads none. -/
def width (lead : UInt8) : Nat :=
  if lead < 0x80 then 1
  else if 0xC2 ≤ lead && lead ≤ 0xDF then 2
  else if 0xE0 ≤ lead && lead ≤ 0xEF then 3
  else if 0xF0 ≤ lead && lead ≤ 0xF4 then 4
  else 0

/-- A byte that may stand second after this lead byte. -/
def isSecond (lead b : UInt8) : Bool :=
  if lead = 0xE0 then 0xA0 ≤ b && b ≤ 0xBF
  else if lead = 0xED then 0x80 ≤ b && b ≤ 0x9F
  else if lead = 0xF0 then 0x90 ≤ b && b ≤ 0xBF
  else if lead = 0xF4 then 0x80 ≤ b && b ≤ 0x8F
  else isTail b

/-- The character of a lead byte that keeps `lead % size` and of the six low bits of each tail. -/
def assemble (size : Nat) (lead : UInt8) (tails : Bytes) : Char :=
  Char.ofNat (tails.foldl (fun n b => n * 64 + b.toNat % 64) (lead.toNat % size))

/-- The characters of a byte string that stands at `pos` in the whole text. -/
def decodeFrom (pos : Nat) : Bytes → Except Fault (List Char)
  | [] => .ok []
  | a :: rest =>
    if width a = 1 then
      (decodeFrom (pos + 1) rest).map (assemble 0x80 a [] :: ·)
    else if width a = 0 then .error ⟨pos, some 1⟩
    else
      match rest with
      | [] => .error ⟨pos, none⟩
      | b :: rest =>
        if !isSecond a b then .error ⟨pos, some 1⟩
        else if width a = 2 then
          (decodeFrom (pos + 2) rest).map (assemble 0x20 a [b] :: ·)
        else
          match rest with
          | [] => .error ⟨pos, none⟩
          | c :: rest =>
            if !isTail c then .error ⟨pos, some 2⟩
            else if width a = 3 then
              (decodeFrom (pos + 3) rest).map (assemble 0x10 a [b, c] :: ·)
            else
              match rest with
              | [] => .error ⟨pos, none⟩
              | d :: rest =>
                if !isTail d then .error ⟨pos, some 3⟩
                else (decodeFrom (pos + 4) rest).map (assemble 0x08 a [b, c, d] :: ·)

/-- The characters that a byte string encodes. -/
def decode (bs : Bytes) : Except Fault (List Char) := decodeFrom 0 bs

/-- The string that a byte string encodes, if it encodes one. -/
def string? (bs : Bytes) : Option String := (decode bs).toOption.map String.ofList

end Credentials.Utf8
