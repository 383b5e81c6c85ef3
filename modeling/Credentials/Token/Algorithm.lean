import Credentials.Hash.Hmac

/-!
# Signature algorithms

The algorithms that a token header can name. Only those that sign with a shared secret are in use here;
the others are known by name, so that a token that declares one can be told from one whose header is
garbage.
-/

namespace Credentials.Token

/-- A signature algorithm. -/
inductive Algorithm where
  | hs256 | hs384 | hs512
  | es256 | es384
  | rs256 | rs384 | rs512
  | ps256 | ps384 | ps512
  | edDsa
  deriving DecidableEq, Repr

namespace Algorithm

/-- The name of an algorithm. -/
def name : Algorithm → String
  | hs256 => "HS256"
  | hs384 => "HS384"
  | hs512 => "HS512"
  | es256 => "ES256"
  | es384 => "ES384"
  | rs256 => "RS256"
  | rs384 => "RS384"
  | rs512 => "RS512"
  | ps256 => "PS256"
  | ps384 => "PS384"
  | ps512 => "PS512"
  | edDsa => "EdDSA"

/-- All algorithms. -/
def all : List Algorithm :=
  [hs256, hs384, hs512, es256, es384, rs256, rs384, rs512, ps256, ps384, ps512, edDsa]

/-- The algorithm of a name. -/
def ofName? (s : String) : Option Algorithm := all.find? fun a => a.name = s

/-- The hash function of an algorithm that signs with a shared secret. -/
def hash? : Algorithm → Option HashFunction
  | hs256 => some .sha256
  | hs384 => some .sha384
  | hs512 => some .sha512
  | _ => none

end Algorithm

end Credentials.Token
