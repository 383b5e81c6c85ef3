import Credentials.Text.Decimal
import Credentials.Text.Hex

/-!
# JSON values and their compact text

`Json` is a value to be written: its strings are texts and its numbers integers. `Json.render` writes
it without blanks. In strings, only the quote, the backslash and the characters below U+0020 are
escaped: five of those have a short escape, the others are written as `\u00xx` in lower case.
-/

namespace Credentials

/-- A JSON value to be written. -/
inductive Json where
  /-- The value `null`. -/
  | null
  /-- A truth value. -/
  | bool (b : Bool)
  /-- An integer. -/
  | int (i : Int)
  /-- A text. -/
  | str (s : String)
  /-- A list of values. -/
  | arr (elements : List Json)
  /-- Named values in order. -/
  | obj (members : List (String × Json))

namespace Json

/-! ## Strings -/

/-- The short escapes: each character with the one that stands for it after a backslash. -/
def shortEscapes : List (Char × Char) :=
  [('"', '"'), ('\\', '\\'), ('\x08', 'b'), ('\x0c', 'f'), ('\n', 'n'), ('\r', 'r'), ('\t', 't')]

/-- A character as it stands in a string. -/
def escape (c : Char) : List Char :=
  match shortEscapes.lookup c with
  | some e => ['\\', e]
  | none =>
    if c.toNat < 0x20 then
      ['\\', 'u', '0', '0', Hex.digitChar (c.toNat / 16), Hex.digitChar (c.toNat % 16)]
    else [c]

/-- A text between quotes. -/
def quote (s : String) : List Char := '"' :: s.toList.flatMap escape ++ ['"']

/-! ## Values -/

mutual

/-- The compact text of a value. -/
def render : Json → List Char
  | .null => "null".toList
  | .bool true => "true".toList
  | .bool false => "false".toList
  | .int i => Decimal.ofInt i
  | .str s => quote s
  | .arr es => '[' :: renderElements es
  | .obj ms => '\x7b' :: renderMembers ms

/-- The values of a list with commas between, and the closing bracket. -/
def renderElements : List Json → List Char
  | [] => [']']
  | [e] => render e ++ [']']
  | e :: es => render e ++ ',' :: renderElements es

/-- The members of an object with commas between, and the closing brace. -/
def renderMembers : List (String × Json) → List Char
  | [] => ['\x7d']
  | [(k, v)] => quote k ++ ':' :: render v ++ ['\x7d']
  | (k, v) :: ms => quote k ++ ':' :: render v ++ ',' :: renderMembers ms

end

/-- The compact text of a value as a string. -/
def text (j : Json) : String := String.ofList j.render

end Json

end Credentials
