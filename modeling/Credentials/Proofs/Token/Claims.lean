import Credentials.Proofs.Json.Records
import Credentials.Proofs.Uuid
import Credentials.Token.Claims
import Credentials.Token.Header
import Credentials.Token.Registered

/-!
# Reading back claims and headers

What is written of claims and headers is read back, whatever the identifiers, texts and times are:

* `AccessClaims.ofTree?_toJson`, `RefreshClaims.ofTree?_toJson`, `Header.ofTree?_toJson`.
* `Registered.expiry?_access`, `Registered.expiry?_refresh` — the second reading of claims, for the
  registered claims among them, finds the expiry if it is not negative.
-/

namespace Credentials.Token

open Json

/-! ## Values -/

/-- The second of an instant fits 64 bits. -/
@[simp] theorem toInt_timestamp (t : Instant) : (timestamp t).toInt = t.second := by
  have := t.inRange
  apply Int64.toInt_ofInt_of_le
  · omega
  · omega

/-- Timestamps are compared as the seconds they are. -/
theorem timestamp_le_iff {t : Instant} {s : Timestamp} : timestamp t ≤ s ↔ t.second ≤ s.toInt := by
  rw [Int64.le_iff_toInt_le, toInt_timestamp]

/-- Timestamps are compared as seconds from the other side too. -/
theorem le_timestamp_iff {t : Instant} {s : Timestamp} : s ≤ timestamp t ↔ s.toInt ≤ t.second := by
  rw [Int64.le_iff_toInt_le, toInt_timestamp]

/-- A timestamp is read back. -/
theorem timestamp?_tree (t : Timestamp) : timestamp? (tree (.int t.toInt)) = some t := by
  rw [timestamp?, Tree.int64?_tree, Option.map_some, Int64.ofInt_toInt]

/-- An identifier is read back from its text. -/
theorem uuid?_tree (u : Uuid) : uuid? (tree (.str (String.ofList u.text))) = some u := by
  rw [uuid?, Tree.text?_tree, Option.bind_some, String.toList_ofList, Uuid.parse?_text]

/-! ## Claims -/

/-- Access claims are read back. -/
theorem AccessClaims.ofTree?_toJson (c : AccessClaims) :
    AccessClaims.ofTree? (tree c.toJson) = some c := by
  rw [AccessClaims.ofTree?, toJson, fields?_tree (by simp)]
  simp [Fields.need, List.lookup_cons, uuid?_tree, Tree.text?_tree, timestamp?_tree]

/-- Refresh claims are read back. -/
theorem RefreshClaims.ofTree?_toJson (c : RefreshClaims) :
    RefreshClaims.ofTree? (tree c.toJson) = some c := by
  rw [RefreshClaims.ofTree?, toJson, fields?_tree (by simp)]
  simp [Fields.need, List.lookup_cons, Tree.text?_tree, timestamp?_tree]

/-! ## Registered claims -/

namespace Registered

/-- No registered claim that is an integer stops the reader. -/
theorem isPassable_tree_int (name : String) (i : Int) : isPassable name (tree (.int i)) = true := by
  have passage : (tree (.int i)).passage room != .stuck := bne_iff_ne.2 (passage_tree_int room i)
  have container : isContainer (tree (.int i)) = false := rfl
  rw [isPassable, container, passage]
  repeat' split
  all_goals simp

/-- No registered claim that is a text stops the reader. -/
theorem isPassable_tree_str (name s : String) : isPassable name (tree (.str s)) = true := by
  have container : isContainer (tree (.str s)) = false := rfl
  rw [isPassable, container, passage_tree_str]
  repeat' split
  all_goals simp

/-- The expiry of claims as the second reading finds it. -/
theorem nat64?_timestamp (t : Timestamp) : (tree (.int t.toInt)).nat64? =
    if 0 ≤ t.toInt then some t.toInt.toNat else none := by
  have := t.toInt_lt
  rw [Tree.nat64?_tree]
  split <;> split <;> first | rfl | omega

/-- Access claims have an expiry, and it can be read unless it is before the epoch. -/
theorem expiry?_access (c : AccessClaims) : expiry? (tree c.toJson) =
    some (if 0 ≤ c.expires.toInt then some c.expires.toInt.toNat else none) := by
  rw [expiry?, AccessClaims.toJson, fields?_tree (by simp [names])]
  simp [names, isPassable_tree_int, List.lookup_cons, nat64?_timestamp]

/-- Refresh claims have an expiry, and it can be read unless it is before the epoch. -/
theorem expiry?_refresh (c : RefreshClaims) : expiry? (tree c.toJson) =
    some (if 0 ≤ c.expires.toInt then some c.expires.toInt.toNat else none) := by
  rw [expiry?, RefreshClaims.toJson, fields?_tree (by simp [names])]
  simp [names, isPassable_tree_int, isPassable_tree_str, List.lookup_cons, nat64?_timestamp]

end Registered

/-! ## Headers -/

/-- An algorithm is read back from its name. -/
theorem Algorithm.ofName?_name (a : Algorithm) : Algorithm.ofName? a.name = some a := by
  cases a <;> rfl

/-- A header is read back. -/
theorem Header.ofTree?_toJson (h : Header) : Header.ofTree? (tree h.toJson) = some h := by
  rw [Header.ofTree?, toJson, fields?_tree (by simp [names])]
  simp [names, textNames, Fields.need, Fields.optional, List.lookup_cons, tree, Tree.text?,
    KeyDescription.name?, text?_pieces, Algorithm.ofName?_name]

end Credentials.Token
