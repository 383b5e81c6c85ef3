import Credentials.Text.Utf8

/-!
# Environments

An `Environment` is a list of variables. A value is a byte string, and only a value that is UTF-8 counts
as text (`Environment.text?`).

A variable stands in the environment as one text, `NAME=value`, and is found by comparing the beginning
of that text. So a name with an equals sign in it can find a variable too: the part before the sign
names it, and the part behind is compared with the beginning of the value.

No process can hold a zero byte in a variable. Whoever tries to put one there does not get an error: the
program breaks off (`Environment.put?`).
-/

namespace Credentials.Config

/-- A list of variables. -/
structure Environment where
  /-- The names and the values. -/
  entries : List (String × Bytes)
  deriving DecidableEq

namespace Environment

/-- A name as it begins the text of a variable: with an equals sign behind it. -/
def head (name : String) : Bytes := Utf8.ofString name ++ [0x3D]

/-- The value that a variable has under a name. -/
def valueUnder? (name : String) (entry : String × Bytes) : Option Bytes :=
  if (head name).isPrefixOf (head entry.1 ++ entry.2) then
    some ((head entry.1 ++ entry.2).drop (head name).length)
  else none

/-- The value of a variable. The empty name has none. -/
def get? (env : Environment) (name : String) : Option Bytes :=
  if name = "" then none else env.entries.findSome? (valueUnder? name)

/-- The value of a variable that is text. -/
def text? (env : Environment) (name : String) : Option String := (env.get? name).bind Utf8.string?

/-- The entries with a variable set: in the place where it is found, and else at the end. -/
def insert (name : String) (value : Bytes) : List (String × Bytes) → List (String × Bytes)
  | [] => [(name, value)]
  | e :: es =>
    if (valueUnder? name e).isSome then (name, value) :: es else e :: insert name value es

/-- The environment with a variable set to a value without zero bytes. -/
def set (env : Environment) (name : String) (value : Bytes) : Environment :=
  ⟨insert name value env.entries⟩

/-- The environment with a variable set to a text, if the text has no zero byte in it. -/
def put? (env : Environment) (name value : String) : Option Environment :=
  if '\x00' ∈ value.toList then none else some (env.set name (Utf8.ofString value))

/-- The environment with a variable set to a text, unless it is text already. -/
def supply? (env : Environment) (name value : String) : Option Environment :=
  if (env.text? name).isSome then some env else env.put? name value

end Environment

end Credentials.Config
