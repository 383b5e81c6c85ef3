import Credentials.Json.Fields
import Credentials.Json.Passage
import Credentials.Token.Algorithm

/-!
# Key descriptions in token headers

A header may describe a key under the name `jwk`. Nothing is done with it, but a header with a malformed
description is refused. A description is an object with

* facts that any key may have, each of which may be missing or `null` (`commonNames`), and
* the parts of a key of one of four kinds (`isCurveKey`, `isRsaKey`, `isSecretKey`, `isPointKey`);
  further members are passed over.

The whole object is read closely, unknown members included.
-/

namespace Credentials.Token.KeyDescription

open Json

/-! ## Names as values -/

/-- A name: a string, or an object whose one member has the name and a value that `isEmpty` holds
of. -/
def name? (isEmpty : Tree → Bool) : Tree → Option String
  | .string pieces => Json.text? pieces
  | .object [(k, v)] => if isEmpty v then Json.text? k else none
  | _ => none

/-- The value is `null`. -/
def isNull : Tree → Bool
  | .null => true
  | _ => false

/-- The value is `null` or an object without members. -/
def isNothing : Tree → Bool
  | .null => true
  | .object [] => true
  | _ => false

/-- A list of texts. -/
def texts? (t : Tree) : Option (List String) := t.elements?.bind fun es => es.mapM Tree.text?

/-! ## Facts of any key -/

/-- The names of the facts that any key may have. -/
def commonNames : List String := ["use", "key_ops", "alg", "kid", "x5u", "x5c", "x5t", "x5t#S256"]

/-- The algorithms that a key can be for: those of signatures, and three that encrypt keys. -/
def algorithms : List String :=
  Algorithm.all.map Algorithm.name ++ ["RSA1_5", "RSA-OAEP", "RSA-OAEP-256"]

/-- The value names an algorithm that a key can be for. -/
def algorithm? (v : Tree) : Option String := (name? isNothing v).filter (· ∈ algorithms)

/-- The facts of any key are well formed. -/
def hasCommon (common : Fields) : Bool :=
  (common.map Prod.fst).Nodup &&
    (["use", "kid", "x5u", "x5t", "x5t#S256"].all fun n => (common.optional n Tree.text?).isSome) &&
    (["key_ops", "x5c"].all fun n => (common.optional n texts?).isSome) &&
    (common.optional "alg" algorithm?).isSome

/-! ## Keys of the four kinds -/

/-- Among the given fields are these, each just once. -/
def hasOnce (fields : Fields) (names : List String) : Bool :=
  ((fields.map Prod.fst).filter (· ∈ names)).Nodup

/-- The key is of the given kind. -/
def isKind (fields : Fields) (kind : String) : Bool :=
  fields.need "kty" (name? isNull) = some kind

/-- The key is on a known curve. -/
def onCurve (fields : Fields) : Bool :=
  (fields.need "crv" (name? isNull)).any (· ∈ ["P-256", "P-384", "P-521", "Ed25519"])

/-- These fields are texts. -/
def areTexts (fields : Fields) (names : List String) : Bool :=
  names.all fun n => (fields.need n Tree.text?).isSome

/-- A public key on an elliptic curve, by both coordinates. -/
def isCurveKey (fields : Fields) : Bool :=
  hasOnce fields ["kty", "crv", "x", "y"] && isKind fields "EC" && onCurve fields &&
    areTexts fields ["x", "y"]

/-- A public RSA key. -/
def isRsaKey (fields : Fields) : Bool :=
  hasOnce fields ["kty", "n", "e"] && isKind fields "RSA" && areTexts fields ["n", "e"]

/-- A shared secret. -/
def isSecretKey (fields : Fields) : Bool :=
  hasOnce fields ["kty", "k"] && isKind fields "oct" && areTexts fields ["k"]

/-- A public key on an elliptic curve, by one coordinate. -/
def isPointKey (fields : Fields) : Bool :=
  hasOnce fields ["kty", "crv", "x"] && isKind fields "OKP" && onCurve fields &&
    areTexts fields ["x"]

/-! ## Descriptions -/

/-- How deeply the values of a description may be nested. -/
def room : Nat := 125

/-- The value is a well-formed key description. -/
def accepts : Tree → Bool
  | .object members =>
    Tree.passageOfMembers room members = .read &&
      match namedMembers? members with
      | some named =>
        let rest := named.filter fun m => m.1 ∉ commonNames
        hasCommon (named.filter fun m => m.1 ∈ commonNames) &&
          (isCurveKey rest || isRsaKey rest || isSecretKey rest || isPointKey rest)
      | none => false
  | _ => false

end Credentials.Token.KeyDescription
