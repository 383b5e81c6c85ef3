import Credentials.Json.Tree

/-!
# Records in JSON

A record with named fields is read from an object or from a list (`Tree.fields?`).

* In an object every name must be a text. Members with other names are passed over, whatever their
  values; no field may be given twice.
* A list gives the fields in their order, and must give all of them.

`Fields.need` asks for a field, and `Fields.optional` for one that may be missing or `null`.
-/

namespace Credentials.Json

/-- The values of the fields that a record gives, by name. -/
abbrev Fields := List (String × Tree)

/-- The members of an object with their names as texts. -/
def namedMembers? : List (List Piece × Tree) → Option Fields
  | [] => some []
  | (k, v) :: ms => do
    let k ← text? k
    let ms ← namedMembers? ms
    return (k, v) :: ms

/-- The fields that a value gives of a record with these field names. -/
def Tree.fields? (names : List String) : Tree → Option Fields
  | .object members => do
    let named ← namedMembers? members
    let known := named.filter fun m => m.1 ∈ names
    if (known.map Prod.fst).Nodup then some known else none
  | .array elements => if elements.length = names.length then some (names.zip elements) else none
  | _ => none

namespace Fields

/-- The value of a field, read as `read` says. -/
def need {α : Type} (fields : Fields) (name : String) (read : Tree → Option α) : Option α :=
  (fields.lookup name).bind read

/-- The value of a field that may be missing or `null`. -/
def optional {α : Type} (fields : Fields) (name : String) (read : Tree → Option α) :
    Option (Option α) :=
  match fields.lookup name with
  | none => some none
  | some .null => some none
  | some v => (read v).map some

end Fields

end Credentials.Json
