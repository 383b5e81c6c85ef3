import Credentials.Json.Lexeme

/-!
# Reading JSON

A row of lexemes is read from left to right with a stack of the lists and objects that are still
open. `Reader.step` takes one lexeme; `Tree.read?` reads a whole byte string and accepts it if
exactly one value has been completed at its end. How deeply values are nested does not matter here.
-/

namespace Credentials.Json

/-- A list or an object that is still open. -/
inductive Frame where
  /-- A list, with its elements so far, the latest first. -/
  | array (done : List Tree)
  /-- An object, with its members so far, the latest first, and the name of the value to come. -/
  | object (done : List (List Piece × Tree)) (key : List Piece)

/-- What a reader expects, under the open frames, the innermost first. -/
inductive Reader where
  /-- A value. -/
  | value (frames : List Frame)
  /-- The first element of a list, or its end. -/
  | element (frames : List Frame)
  /-- The first name of an object, or its end. -/
  | member (frames : List Frame)
  /-- The next name of an object with these members. -/
  | key (done : List (List Piece × Tree)) (frames : List Frame)
  /-- The colon after a name. -/
  | colon (done : List (List Piece × Tree)) (key : List Piece) (frames : List Frame)
  /-- Whatever may follow a value. -/
  | after (v : Tree) (frames : List Frame)

namespace Reader

/-- The value that a lexeme is, if it is one by itself. -/
def scalar? : Lexeme → Option Tree
  | .null => some .null
  | .bool b => some (.bool b)
  | .number n => some (.number n)
  | .string pieces => some (.string pieces)
  | _ => none

/-- Begins a value. -/
def begin (frames : List Frame) : Lexeme → Option Reader
  | .openBracket => some (element frames)
  | .openBrace => some (member frames)
  | l => (scalar? l).map (after · frames)

/-- Takes one lexeme. -/
def step : Reader → Lexeme → Option Reader
  | value frames, l => begin frames l
  | element frames, .closeBracket => some (after (.array []) frames)
  | element frames, l => begin (.array [] :: frames) l
  | member frames, .closeBrace => some (after (.object []) frames)
  | member frames, .string k => some (colon [] k frames)
  | key done frames, .string k => some (colon done k frames)
  | colon done k frames, .colon => some (value (.object done k :: frames))
  | after v (.array done :: frames), .comma => some (value (.array (v :: done) :: frames))
  | after v (.array done :: frames), .closeBracket =>
    some (after (.array (v :: done).reverse) frames)
  | after v (.object done k :: frames), .comma => some (key ((k, v) :: done) frames)
  | after v (.object done k :: frames), .closeBrace =>
    some (after (.object ((k, v) :: done).reverse) frames)
  | _, _ => none

/-- The value that has been read, if nothing is open. -/
def result? : Reader → Option Tree
  | after v [] => some v
  | _ => none

/-- The value that a row of lexemes makes up. -/
def ofLexemes? (ls : List Lexeme) : Option Tree := do
  let r ← ls.foldlM step (value [])
  r.result?

end Reader

/-- The tree of a JSON text. -/
def Tree.read? (text : Bytes) : Option Tree := do
  let ls ← Lexeme.lex text
  Reader.ofLexemes? ls

end Credentials.Json
