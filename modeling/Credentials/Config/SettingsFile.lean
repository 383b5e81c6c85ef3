import Credentials.Config.Environment
import Credentials.Text.Alphanumeric
import Credentials.Text.Blank

/-!
# Settings files

A settings file has one assignment `NAME=value` on a line; blank lines and lines that begin with `#` are
passed over, and `export` may stand before the name. A value may have parts in quotes:

* in single quotes every character stands for itself;
* in double quotes, and without quotes, a backslash escapes the next character, and a dollar sign
  begins the name of a variable, in braces or not, whose value takes the place of the name;
* without quotes, a blank ends the value, and only a comment may follow.

The character that ends a name without braces is taken as it is, whatever it means elsewhere.

* `SettingsFile.value?` — the value of an assignment.
* `SettingsFile.line?` — what a line says.
* `SettingsFile.load` — the assignments of a file put into an environment, up to the first bad line. A
  variable that holds text already keeps it.
* `SettingsFile.nearest?` — the file to load, among the candidates from the working directory upwards.

A file may hold any bytes, zeros among them. A zero byte in a value is no fault of its line; but no
variable can hold it, and if one would have to, then loading breaks off there (`Loading.refused`), with
the assignments above it made.
-/

namespace Credentials.Config.SettingsFile

/-! ## Values -/

/-- Where in a value a reader stands. A name that is being read is kept from back to front. -/
inductive Mode where
  /-- Outside single quotes, and inside double quotes or not. -/
  | text (quoted : Bool)
  /-- After a backslash. -/
  | escape (quoted : Bool)
  /-- In single quotes. -/
  | single
  /-- In a name after a dollar sign. -/
  | name (quoted : Bool) (soFar : List Char)
  /-- In a name in braces. -/
  | braced (quoted : Bool) (soFar : List Char)
  /-- After the value. -/
  | ended

/-- The character that an escaped character stands for. -/
def escaped? (c : Char) : Option Char :=
  if c = 'n' then some '\n'
  else if c ∈ ['\\', '\'', '"', '$', ' '] then some c
  else none

/-- The value of the variable whose name was read from back to front; nothing if it has none. -/
def substitute (env : Environment) (soFar : List Char) : List Char :=
  ((env.text? (String.ofList soFar.reverse)).getD "").toList

/-- The value of an assignment, from where the reader stands. -/
def valueFrom? (env : Environment) : Mode → List Char → Option (List Char)
  | .text quoted, [] => if quoted then none else some []
  | .escape quoted, [] => if quoted then none else some []
  | .single, [] => none
  | .name quoted soFar, [] => if quoted then none else some (substitute env soFar)
  | .braced _ _, [] => none
  | .ended, [] => some []
  | .text true, c :: cs =>
    if c = '$' then valueFrom? env (.name true []) cs
    else if c = '"' then valueFrom? env (.text false) cs
    else if c = '\\' then valueFrom? env (.escape true) cs
    else (valueFrom? env (.text true) cs).map (c :: ·)
  | .text false, c :: cs =>
    if c = '$' then valueFrom? env (.name false []) cs
    else if c = '\'' then valueFrom? env .single cs
    else if c = '"' then valueFrom? env (.text true) cs
    else if c = '\\' then valueFrom? env (.escape false) cs
    else if c = ' ' ∨ c = '\t' then valueFrom? env .ended cs
    else (valueFrom? env (.text false) cs).map (c :: ·)
  | .escape quoted, c :: cs => do
    let c ← escaped? c
    (valueFrom? env (.text quoted) cs).map (c :: ·)
  | .single, c :: cs =>
    if c = '\'' then valueFrom? env (.text false) cs
    else (valueFrom? env .single cs).map (c :: ·)
  | .name quoted soFar, c :: cs =>
    if Text.isAlphanumeric c then valueFrom? env (.name quoted (c :: soFar)) cs
    else if c = '\x7b' ∧ soFar = [] then valueFrom? env (.braced quoted []) cs
    else if c = '$' then (valueFrom? env (.name quoted []) cs).map (substitute env soFar ++ ·)
    else (valueFrom? env (.text quoted) cs).map (substitute env soFar ++ c :: ·)
  | .braced quoted soFar, c :: cs =>
    if c = '\x7d' then (valueFrom? env (.text quoted) cs).map (substitute env soFar ++ ·)
    else valueFrom? env (.braced quoted (c :: soFar)) cs
  | .ended, c :: cs =>
    if c = ' ' ∨ c = '\t' then valueFrom? env .ended cs
    else if c = '#' then some []
    else none

/-- The value of an assignment, from what is written behind the equals sign. -/
def value? (env : Environment) (cs : List Char) : Option (List Char) :=
  match cs with
  | [] => some []
  | '#' :: _ => some []
  | _ => valueFrom? env (.text false) cs

/-! ## Lines -/

/-- An ASCII letter or an underscore. -/
def isNameStart (c : Char) : Bool := c.isAlpha || c = '_'

/-- An ASCII letter or digit, an underscore or a full stop. -/
def isNamePart (c : Char) : Bool := c.isAlphanum || c = '_' || c = '.'

/-- The name that a text begins with, and the rest without the blanks before it. -/
def name? : List Char → Option (List Char × List Char)
  | [] => none
  | c :: cs =>
    if isNameStart c then
      some ((c :: cs).takeWhile isNamePart, Text.trimStart ((c :: cs).dropWhile isNamePart))
    else none

/-- What is written behind an equals sign. -/
def afterEquals? : List Char → Option (List Char)
  | '=' :: cs => some (Text.trimStart cs)
  | _ => none

/-- The name of an assignment and what is written behind its equals sign. The word `export` before
another name does not count. -/
def assignment? (cs : List Char) : Option (List Char × List Char) := do
  let (name, rest) ← name? cs
  match afterEquals? rest with
  | some value => return (name, value)
  | none =>
    if name = "export".toList then
      let (name, rest) ← name? rest
      let value ← afterEquals? rest
      return (name, value)
    else none

/-- What a line says: nothing, or the value of a variable. A bad line has no meaning. -/
def line? (env : Environment) (cs : List Char) : Option (Option (String × String)) :=
  match Text.trimStart (Text.trimEnd cs) with
  | [] => some none
  | '#' :: _ => some none
  | cs => do
    let (name, written) ← assignment? cs
    let value ← value? env written
    return some (String.ofList name, String.ofList value)

/-! ## Files -/

/-- The lines of a file. A line feed at the end begins no further line. -/
def lines (file : Bytes) : List Bytes :=
  let pieces := file.splitOn 0x0A
  if pieces.getLast? = some [] then pieces.dropLast else pieces

/-- What loading lines has come to. -/
structure Loading where
  /-- The environment, with the assignments made so far. -/
  environment : Environment
  /-- The assignment that could not be made, if there was one. Nothing below it was read. -/
  refused : Option (String × String)
  deriving DecidableEq

/-- Loads a row of lines, up to the first bad one or the first that cannot be carried out. -/
def loadLines (env : Environment) : List Bytes → Loading
  | [] => ⟨env, none⟩
  | l :: ls =>
    match (Utf8.decode l).toOption.bind (line? env) with
    | none => ⟨env, none⟩
    | some none => loadLines env ls
    | some (some (name, value)) =>
      match env.supply? name value with
      | none => ⟨env, some (name, value)⟩
      | some env => loadLines env ls

/-- Loads a file. -/
def load (env : Environment) (file : Bytes) : Loading := loadLines env (lines file)

/-- What is found in a directory where a settings file might be. -/
inductive Candidate where
  /-- Nothing. -/
  | missing
  /-- A directory. -/
  | directory
  /-- A file. -/
  | file (contents : Bytes)

/-- The first file among the candidates. -/
def nearest? : List Candidate → Option Bytes
  | [] => none
  | .file contents :: _ => some contents
  | _ :: rest => nearest? rest

/-- Loads the nearest file, if there is one. -/
def loadNearest (env : Environment) (candidates : List Candidate) : Loading :=
  match nearest? candidates with
  | some file => load env file
  | none => ⟨env, none⟩

end Credentials.Config.SettingsFile
