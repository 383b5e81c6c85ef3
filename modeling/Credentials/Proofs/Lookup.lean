import Mathlib.Data.List.Nodup

/-!
# Finding values by their keys

In a list of keys and values the first entry with a key is found. So every entry is found if no two
have the same key (`lookup_eq_some_of_mem`), and entries with other keys make no difference
(`lookup_filter_of_mem`).
-/

namespace Credentials

variable {α β : Type} [DecidableEq α] {key : α} {value : β} {entries : List (α × β)}

/-- If no two entries have the same key, each of them is found. -/
theorem lookup_eq_some_of_mem (nodup : (entries.map Prod.fst).Nodup)
    (h : (key, value) ∈ entries) : entries.lookup key = some value := by
  induction entries with
  | nil => cases h
  | cons entry entries ih =>
    rw [List.map_cons, List.nodup_cons] at nodup
    rw [List.lookup_cons]
    rcases List.mem_cons.1 h with rfl | h
    · rw [beq_self_eq_true]
    · have other : (key == entry.1) = false := by
        rw [beq_eq_false_iff_ne]
        rintro rfl
        exact nodup.1 (List.mem_map.2 ⟨_, h, rfl⟩)
      rw [other]
      exact ih nodup.2 h

/-- What is found under one of some keys is found among the entries with these keys. -/
theorem lookup_filter_of_mem {keys : List α} (h : key ∈ keys) (entries : List (α × β)) :
    (entries.filter (·.1 ∈ keys)).lookup key = entries.lookup key := by
  induction entries with
  | nil => rfl
  | cons entry entries ih =>
    rw [List.filter_cons, List.lookup_cons]
    by_cases same : key = entry.1
    · have known : decide (entry.1 ∈ keys) = true := decide_eq_true (same ▸ h)
      rw [if_pos known, List.lookup_cons, ih]
    · have other : (key == entry.1) = false := beq_eq_false_iff_ne.2 same
      rw [other]
      split
      · rw [List.lookup_cons, other, ih]
      · exact ih

end Credentials
