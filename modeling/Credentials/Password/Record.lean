import Credentials.Password.Bcrypt
import Credentials.Text.Base64
import Credentials.Text.Decimal
import Credentials.Text.Utf8

/-!
# Stored passwords

A stored password is a line of text: the scheme, the cost, and the salt and the digest in base 64,
each after a dollar sign but the digest, which follows the salt. A `Record` is what it says.

* `Record.text` — the line for a record.
* `Record.parse` — reads a line. Empty parts between dollar signs are passed over, and four names of
  the scheme are accepted. The parts are looked at in a fixed order, so that a line with several
  faults is always refused for the same one.
-/

namespace Credentials.Password

/-- What a stored password says. -/
structure Record where
  /-- The binary logarithm of the number of repetitions. -/
  cost : Nat
  /-- The salt. -/
  salt : Bcrypt.Salt
  /-- The digest. -/
  digest : Bytes
  deriving DecidableEq

/-- Why a line is no stored password. -/
inductive Fault where
  /-- The line has not the right number of parts, or its last part not the right length. -/
  | form (line : String)
  /-- The first part names no known scheme. -/
  | scheme (part : String)
  /-- The second part is no number. -/
  | costText (part : String)
  /-- The cost is too low or too high. -/
  | costRange (cost : Nat)
  /-- The salt or the digest is not in base 64. -/
  | encoding (fault : Base64.Fault)
  deriving DecidableEq

/-! ## Costs -/

/-- The lowest cost. -/
def minCost : Nat := 4

/-- The highest cost. -/
def maxCost : Nat := 31

/-- The cost of new hashes. -/
def hashCost : Nat := 12

namespace Record

/-! ## Writing -/

/-- Bytes in the base 64 of stored passwords. -/
def encoded (bs : Bytes) : List Char := (Base64.encode .bcrypt bs).chars

/-- The line for a record. -/
def text (r : Record) : String :=
  String.ofList ("$2b$".toList ++ Decimal.padded 2 r.cost ++ '$' :: encoded r.salt.toList ++
    encoded r.digest)

/-! ## Reading -/

/-- The parts of a line between dollar signs that are not empty. -/
def parts (line : String) : List (List Char) :=
  (line.toList.splitOn '$').filter fun p => !p.isEmpty

/-- The names of the scheme. -/
def schemes : List (List Char) := [['2', 'a'], ['2', 'b'], ['2', 'x'], ['2', 'y']]

/-- The cost that a part spells, as a number of 32 bits. -/
def cost? (part : List Char) : Option Nat := (Decimal.nat? part).filter (· < 4294967296)

/-- The last part in bytes, cut into salt and digest: it has 53 bytes, and no character goes across
the cut. -/
def cut? (part : List Char) : Option (Bytes × Bytes) :=
  let bs := Utf8.encode part
  if bs.length = 53 && !(bs[22]?.any Utf8.isTail) then some (bs.take 22, bs.drop 22) else none

/-- The bytes that a text in the base 64 of stored passwords encodes. -/
def decoded (text : Bytes) : Except Fault Bytes := (Base64.decode .bcrypt text).mapError .encoding

/-- Reads a line. -/
def parse (line : String) : Except Fault Record :=
  match parts line with
  | [scheme, costPart, last] => do
    if scheme ∉ schemes then throw (.scheme (String.ofList scheme))
    let some cost := cost? costPart | throw (.costText (String.ofList costPart))
    let some (saltText, digestText) := cut? last | throw (.form line)
    let saltBytes ← decoded saltText
    let some salt := saltBytes.block? 16 | throw (.form line)
    if cost < minCost ∨ maxCost < cost then throw (.costRange cost)
    let digest ← decoded digestText
    return ⟨cost, salt, digest⟩
  | _ => throw (.form line)

end Record

/-! ## Messages -/

/-- What a fault of the encoding says. -/
def encodingMessage : Base64.Fault → String
  | .symbol byte offset =>
    "Invalid symbol " ++ String.ofList (Decimal.ofNat byte.toNat) ++ ", offset " ++
      String.ofList (Decimal.ofNat offset) ++ "."
  | .lastSymbol byte offset =>
    "Invalid last symbol " ++ String.ofList (Decimal.ofNat byte.toNat) ++ ", offset " ++
      String.ofList (Decimal.ofNat offset) ++ "."
  | .padding => "Invalid padding"
  | .length => "Invalid input length"

/-- What a fault says. -/
def Fault.message : Fault → String
  | .form line => "Invalid hash: " ++ line
  | .scheme part => "Invalid Prefix: " ++ part
  | .costText part => "Invalid Cost: " ++ part
  | .costRange cost =>
    "Cost needs to be between " ++ String.ofList (Decimal.ofNat minCost) ++ " and " ++
      String.ofList (Decimal.ofNat maxCost) ++ ", got " ++ String.ofList (Decimal.ofNat cost)
  | .encoding fault => "Base64 error: " ++ encodingMessage fault

end Credentials.Password
