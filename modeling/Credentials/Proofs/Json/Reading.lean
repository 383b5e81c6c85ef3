import Credentials.Json.Reader
import Credentials.Proofs.Json.Grammar

/-!
# Reading back the lexemes of a tree

`Tree.lexemes` writes a tree as a row of lexemes. The main statement is `read?_of_rowText`: every
text of that row, whatever its blanks and however its numbers and strings are spelled, is read as
that tree.

The reader keeps open lists and objects on a stack. What carries the induction is that the lexemes
of a value, met where a value is expected, leave the stack as it was and the value behind it
(`foldlM_step_lexemes`), whatever the stack holds.
-/

namespace Credentials.Json

namespace Tree

/-! ## The lexemes of a tree -/

mutual

/-- The lexemes of a value. -/
def lexemes : Tree → List Lexeme
  | .null => [.null]
  | .bool b => [.bool b]
  | .number n => [.number n]
  | .string ps => [.string ps]
  | .array es => .openBracket :: elementLexemes es
  | .object ms => .openBrace :: memberLexemes ms

/-- The lexemes of the elements of a list, with its closing bracket. -/
def elementLexemes : List Tree → List Lexeme
  | [] => [.closeBracket]
  | [e] => lexemes e ++ [.closeBracket]
  | e :: es => lexemes e ++ .comma :: elementLexemes es

/-- The lexemes of the members of an object, with its closing brace. -/
def memberLexemes : List (List Piece × Tree) → List Lexeme
  | [] => [.closeBrace]
  | [(k, v)] => .string k :: .colon :: lexemes v ++ [.closeBrace]
  | (k, v) :: ms => .string k :: .colon :: lexemes v ++ .comma :: memberLexemes ms

end

/-- An element that is not the last has a comma behind it. -/
theorem elementLexemes_cons_cons (e e' : Tree) (es : List Tree) :
    elementLexemes (e :: e' :: es) = lexemes e ++ .comma :: elementLexemes (e' :: es) := by
  rw [elementLexemes]
  exact fun h => nomatch h

/-- A member that is not the last has a comma behind it. -/
theorem memberLexemes_cons_cons (k : List Piece) (v : Tree) (m : List Piece × Tree)
    (ms : List (List Piece × Tree)) :
    memberLexemes ((k, v) :: m :: ms) =
      .string k :: .colon :: lexemes v ++ .comma :: memberLexemes (m :: ms) := by
  rw [memberLexemes]
  exact fun h => nomatch h

end Tree

namespace Reader

open Json.Tree (lexemes elementLexemes memberLexemes)

/-! ## Running the reader over them -/

/-- Where an element or the end of a list is expected, a value begins as it does in the list. -/
theorem foldlM_step_element (e : Tree) (es : List Tree) (frames : List Frame) :
    (elementLexemes (e :: es)).foldlM step (element frames) =
      (elementLexemes (e :: es)).foldlM step (value (.array [] :: frames)) := by
  cases es <;> cases e <;> rfl

/-- The first name of an object is taken as the next one of an object without members. -/
theorem foldlM_step_member (m : List Piece × Tree) (ms : List (List Piece × Tree))
    (frames : List Frame) :
    (memberLexemes (m :: ms)).foldlM step (member frames) =
      (memberLexemes (m :: ms)).foldlM step (key [] frames) := by
  cases ms <;> rfl

mutual

/-- A value leaves the open lists and objects as they were. -/
theorem foldlM_step_lexemes (t : Tree) (frames : List Frame) :
    (lexemes t).foldlM step (value frames) = some (after t frames) := by
  cases t with
  | null => rfl
  | bool b => rfl
  | number n => rfl
  | string ps => rfl
  | array es =>
    cases es with
    | nil => rfl
    | cons e es =>
      have elements := foldlM_step_elementLexemes e es [] frames
      rw [lexemes, List.foldlM_cons]
      show (elementLexemes (e :: es)).foldlM step (element frames) = _
      rwa [foldlM_step_element]
  | object ms =>
    cases ms with
    | nil => rfl
    | cons m ms =>
      have members := foldlM_step_memberLexemes m ms [] frames
      rw [lexemes, List.foldlM_cons]
      show (memberLexemes (m :: ms)).foldlM step (member frames) = _
      rwa [foldlM_step_member]
termination_by sizeOf t

/-- The elements that are left of a list, of which `done` have been read. -/
theorem foldlM_step_elementLexemes (e : Tree) (es done : List Tree) (frames : List Frame) :
    (elementLexemes (e :: es)).foldlM step (value (.array done :: frames)) =
      some (after (.array (done.reverse ++ e :: es)) frames) := by
  cases es with
  | nil =>
    rw [elementLexemes, List.foldlM_append, foldlM_step_lexemes]
    simp [step]
  | cons e' es =>
    have rest := foldlM_step_elementLexemes e' es (e :: done) frames
    rw [Tree.elementLexemes_cons_cons, List.foldlM_append, foldlM_step_lexemes]
    simpa [step] using rest
termination_by sizeOf (e :: es)

/-- The members that are left of an object, of which `done` have been read. -/
theorem foldlM_step_memberLexemes (m : List Piece × Tree) (ms done : List (List Piece × Tree))
    (frames : List Frame) :
    (memberLexemes (m :: ms)).foldlM step (key done frames) =
      some (after (.object (done.reverse ++ m :: ms)) frames) := by
  obtain ⟨k, v⟩ := m
  have named (ls : List Lexeme) : (.string k :: .colon :: ls).foldlM step (key done frames) =
      ls.foldlM step (value (.object done k :: frames)) := rfl
  cases ms with
  | nil =>
    rw [memberLexemes, List.cons_append, List.cons_append, named, List.foldlM_append,
      foldlM_step_lexemes]
    simp [step]
  | cons m' ms =>
    have rest := foldlM_step_memberLexemes m' ms ((k, v) :: done) frames
    rw [Tree.memberLexemes_cons_cons, List.cons_append, List.cons_append, named,
      List.foldlM_append, foldlM_step_lexemes]
    simpa [step] using rest
termination_by sizeOf (m :: ms)

end

/-- The lexemes of a tree make up that tree. -/
theorem ofLexemes?_lexemes (t : Tree) : ofLexemes? (lexemes t) = some t := by
  rw [ofLexemes?, foldlM_step_lexemes]
  rfl

end Reader

/-- Every text of the lexemes of a tree is read as that tree. -/
theorem Tree.read?_of_rowText {t : Tree} {s : Bytes} (h : Lexeme.RowText t.lexemes s) :
    Tree.read? s = some t := by
  rw [Tree.read?, Lexeme.lex_of_rowText h]
  exact Reader.ofLexemes?_lexemes t

end Credentials.Json
