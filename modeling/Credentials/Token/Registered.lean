import Credentials.Json.Fields
import Credentials.Json.Passage

/-!
# Registered claims

Whatever else it says, the payload of a token is read once more for the claims that every token may
make: `exp`, `nbf`, `sub`, `iss` and `aud`. Their values are taken leniently. A value of the wrong type
counts as absent, as long as the reader gets past it (`isPassable`); if it gets stuck, the payload is
refused. Of the five, only the expiry is asked for.
-/

namespace Credentials.Token.Registered

open Json

/-- How deeply the values of claims may be nested. -/
def room : Nat := 126

/-- The names, in the order in which a list gives them. -/
def names : List String := ["exp", "nbf", "sub", "iss", "aud"]

/-- The value is a list or an object without anything in it. -/
def isEmptyContainer : Tree → Bool
  | .array [] => true
  | .object [] => true
  | _ => false

/-- The value is a list or an object. -/
def isContainer : Tree → Bool
  | .array _ => true
  | .object _ => true
  | _ => false

/-- The reader gets past the value of a claim. A time is no list or object with anything in it, a
subject none at all; issuers and audiences are read whatever they are. -/
def isPassable (name : String) (v : Tree) : Bool :=
  if name = "sub" then !isContainer v && v.passage room != .stuck
  else if name = "exp" || name = "nbf" then
    isEmptyContainer v || (!isContainer v && v.passage room != .stuck)
  else v.passage room != .stuck

/-- The expiry that a payload claims, or nothing if it claims none that fits 64 bits without a sign;
no answer if the payload is refused. -/
def expiry? (t : Tree) : Option (Option Nat) := do
  let fields ← t.fields? names
  if fields.all fun f => isPassable f.1 f.2 then
    some ((fields.lookup "exp").bind Tree.nat64?)
  else none

end Credentials.Token.Registered
