import Credentials.Text.Hex

/-!
# Identifiers of 128 bits

A `Uuid` is a block of sixteen bytes. It is written hyphenated in lower case (`Uuid.text`), and read
in any of four forms (`Uuid.parse?`): thirty-two digits, hyphenated, hyphenated in braces, and
hyphenated after `urn:uuid:` in any letter case. Digits may be of either case in all of them.
-/

namespace Credentials

/-- A 128-bit identifier. -/
structure Uuid where
  /-- The sixteen bytes, in the order in which they are written. -/
  bytes : Vector UInt8 16
  deriving DecidableEq, Repr

namespace Uuid

/-- The identifier of all zeros, which names nobody. -/
def nil : Uuid := ⟨Vector.replicate 16 0⟩

/-- The identifier is the nil one. -/
def isNil (u : Uuid) : Bool := u = nil

/-- A random identifier (version 4): the drawn bytes with the high half of byte 6 set to 4 and the
two high bits of byte 8 set to 10. -/
def ofRandom (draw : Vector UInt8 16) : Uuid :=
  ⟨(draw.set 6 (draw[6] &&& 0x0F ||| 0x40)).set 8 (draw[8] &&& 0x3F ||| 0x80)⟩

/-- The version number that the identifier carries. -/
def version (u : Uuid) : Nat := u.bytes[6].toNat / 16

/-! ## Text -/

/-- The digits in groups of eight, four, four, four and twelve, with hyphens between. -/
def hyphenate (ds : List Char) : List Char :=
  ds.take 8 ++ '-' :: (ds.drop 8).take 4 ++ '-' :: (ds.drop 12).take 4 ++
    '-' :: (ds.drop 16).take 4 ++ '-' :: ds.drop 20

/-- The hyphenated form in lower case. -/
def text (u : Uuid) : List Char := hyphenate (Hex.encode u.bytes.toList)

/-- Reads thirty-two digits. -/
def ofDigits? (cs : List Char) : Option Uuid := do
  let bs ← Hex.decode cs
  let block ← Bytes.block? 16 bs
  return ⟨block⟩

/-- Reads the hyphenated form: the digits left when the hyphens are taken out must put back
together to the text that was read. -/
def ofHyphenated? (cs : List Char) : Option Uuid :=
  let ds := cs.take 8 ++ (cs.drop 9).take 4 ++ (cs.drop 14).take 4 ++ (cs.drop 19).take 4 ++ cs.drop 24
  if hyphenate ds = cs then ofDigits? ds else none

/-- Reads the hyphenated form between braces. -/
def ofBraced? : List Char → Option Uuid
  | '\x7b' :: cs => if cs.getLast? = some '\x7d' then ofHyphenated? cs.dropLast else none
  | _ => none

/-- Reads the hyphenated form after `urn:uuid:` in any letter case. -/
def ofUrn? (cs : List Char) : Option Uuid :=
  if (cs.take 9).map Char.toLower = "urn:uuid:".toList then ofHyphenated? (cs.drop 9) else none

/-- Reads any of the four forms. -/
def parse? (cs : List Char) : Option Uuid :=
  ofDigits? cs <|> ofHyphenated? cs <|> ofBraced? cs <|> ofUrn? cs

end Uuid

end Credentials
