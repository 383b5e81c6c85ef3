import Credentials.Json.Value
import Credentials.Token.Algorithm
import Credentials.Token.KeyDescription

/-!
# Token headers

The header of a token names the algorithm of its signature. It may say more, about the type of the
token and the key that signed it; all of that must be well formed and is then ignored.

* `Header.toJson` — the header of the tokens that are issued here.
* `Header.ofTree?` — reads a header.
-/

namespace Credentials.Token

/-- What is kept of a token header. -/
structure Header where
  /-- The algorithm of the signature. -/
  algorithm : Algorithm
  deriving DecidableEq

namespace Header

open Json

/-- The header as JSON. -/
def toJson (h : Header) : Json := .obj [("typ", .str "JWT"), ("alg", .str h.algorithm.name)]

/-- The names of the facts that are texts. -/
def textNames : List String := ["typ", "cty", "jku", "kid", "x5u", "x5t", "x5t#S256"]

/-- The names of all facts, in the order in which a list gives them. -/
def names : List String :=
  ["typ", "alg", "cty", "jku", "jwk", "kid", "x5u", "x5c", "x5t", "x5t#S256"]

/-- Reads a header. -/
def ofTree? (t : Tree) : Option Header := do
  let fields ← t.fields? names
  let name ← fields.need "alg" (KeyDescription.name? KeyDescription.isNull)
  let algorithm ← Algorithm.ofName? name
  let _ ← textNames.mapM fun n => fields.optional n Tree.text?
  let _ ← fields.optional "x5c" KeyDescription.texts?
  let _ ← fields.optional "jwk" fun v => if KeyDescription.accepts v then some v else none
  return ⟨algorithm⟩

end Header

end Credentials.Token
