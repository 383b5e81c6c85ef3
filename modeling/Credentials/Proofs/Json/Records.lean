import Credentials.Json.Fields
import Credentials.Proofs.Json.Rendering
import Credentials.Proofs.Lookup

/-!
# Reading records

What a reader finds in any tree:

* `Tree.intWithin?_eq_some_iff` — an integer in the bounds that it was asked for.
* `fields?_object_eq_some_iff` — in an object, the members whose names are those of fields.
* `lookup_fields?_object` — in an object, a field that it knows by its name, whatever else is there.

What it finds in the tree of an object that was written:

* `fields?_tree` — the fields that it knows, with the trees of their values, if none is given twice.
* `text?_tree`, `intWithin?_tree` and the lemmas after them — the values of strings and integers.
* `passage_tree_int`, `passage_tree_str` — a reader gets past strings and integers.
-/

namespace Credentials.Json

/-! ## Values -/

/-- A value is read as an integer within bounds just if it is a number for such an integer. -/
theorem Tree.intWithin?_eq_some_iff {least greatest i : Int} {t : Tree} :
    t.intWithin? least greatest = some i ↔
      ∃ n, t = .number n ∧ n.int? = some i ∧ least ≤ i ∧ i ≤ greatest := by
  cases t <;> simp [Tree.intWithin?, Option.filter_eq_some_iff]

/-- A text is read back. -/
theorem Tree.text?_tree (s : String) : (tree (.str s)).text? = some s := text?_pieces s

/-- An integer is read back, if it is within the bounds. -/
theorem Tree.intWithin?_tree (least greatest i : Int) :
    (tree (.int i)).intWithin? least greatest =
      if least ≤ i ∧ i ≤ greatest then some i else none := by
  rw [tree, Tree.intWithin?, Number.int?_ofInt, Option.filter_some]
  simp only [Bool.and_eq_true, decide_eq_true_eq]

/-- A signed integer of 64 bits is read back. -/
theorem Tree.int64?_tree (t : Int64) : (tree (.int t.toInt)).int64? = some t.toInt := by
  rw [Tree.int64?, Tree.intWithin?_tree, if_pos]
  have := t.le_toInt
  have := t.toInt_lt
  omega

/-- An integer is read as an unsigned one of 64 bits if it is one. -/
theorem Tree.nat64?_tree (i : Int) : (tree (.int i)).nat64? =
    if 0 ≤ i ∧ i ≤ 18446744073709551615 then some i.toNat else none := by
  rw [Tree.nat64?, Tree.intWithin?_tree]
  split <;> rfl

/-- A byte is read back. -/
theorem Tree.byte?_tree (b : UInt8) : (tree (.int b.toNat)).byte? = some b := by
  have := b.toNat_lt
  rw [Tree.byte?, Tree.intWithin?_tree, if_pos (by omega)]
  exact congrArg some UInt8.ofNat_toNat

/-! ## Fields -/

/-- A reader of an object finds the members with the names of its fields, if no two have the same
one. -/
theorem fields?_object_eq_some_iff {ms : List (List Piece × Tree)} {names : List String}
    {known : Fields} : (Tree.object ms).fields? names = some known ↔
      ∃ named, namedMembers? ms = some named ∧ known = named.filter (·.1 ∈ names) ∧
        (known.map Prod.fst).Nodup := by
  simp only [Tree.fields?, Option.bind_eq_bind, Option.bind_eq_some_iff]
  constructor
  · rintro ⟨named, hnamed, h⟩
    split at h
    case isTrue nodup =>
      cases h
      exact ⟨named, hnamed, rfl, nodup⟩
    case isFalse => cases h
  · rintro ⟨named, hnamed, rfl, nodup⟩
    exact ⟨named, hnamed, if_pos nodup⟩

/-- Readers of an object find a field that they know by its name. -/
theorem lookup_fields?_object {members : List (List Piece × Tree)} {names : List String}
    {fields : Fields} (h : (Tree.object members).fields? names = some fields) :
    ∃ named, namedMembers? members = some named ∧
      ∀ name ∈ names, fields.lookup name = named.lookup name := by
  obtain ⟨named, hnamed, rfl, -⟩ := fields?_object_eq_some_iff.1 h
  exact ⟨named, hnamed, fun name hname => lookup_filter_of_mem hname named⟩

/-- The members of an object that was written, with their names as they were written. -/
theorem namedMembers?_memberTrees (ms : List (String × Json)) :
    namedMembers? (memberTrees ms) = some (ms.map fun m => (m.1, tree m.2)) := by
  induction ms with
  | nil => rfl
  | cons m ms ih =>
    rw [memberTrees, namedMembers?, text?_pieces, ih]
    rfl

/-- A reader finds the fields that it knows in an object that gives none of them twice. -/
theorem fields?_tree {names : List String} {ms : List (String × Json)}
    (h : (((ms.map Prod.fst).filter (· ∈ names)).Nodup)) :
    (tree (.obj ms)).fields? names =
      some ((ms.filter (·.1 ∈ names)).map fun m => (m.1, tree m.2)) := by
  have known : (ms.map fun m => (m.1, tree m.2)).filter (·.1 ∈ names) =
      (ms.filter (·.1 ∈ names)).map fun m => (m.1, tree m.2) := List.filter_map
  have nodup : (((ms.filter (·.1 ∈ names)).map fun m => (m.1, tree m.2)).map Prod.fst).Nodup := by
    rw [List.filter_map] at h
    rwa [List.map_map]
  exact fields?_object_eq_some_iff.2 ⟨_, namedMembers?_memberTrees ms, known.symm, nodup⟩

/-! ## Getting past values -/

/-- An integer never keeps the reader from going on, however large it is. -/
theorem passage_tree_int (room : Nat) (i : Int) : (tree (.int i)).passage room ≠ .stuck := by
  rw [tree, Tree.passage, Number.passage, Number.ofInt]
  simp only
  split <;> simp

/-- A text is always read, whatever the room. -/
theorem passage_tree_str (room : Nat) (s : String) : (tree (.str s)).passage room = .read := by
  rw [tree, Tree.passage, passageOfString_of_text? (text?_pieces s)]

end Credentials.Json
