import Credentials.Config.Environment
import Credentials.Proofs.Text.Utf8

/-!
# Variables that are set and read

* `valueUnder?_eq_some_iff` — an entry has a value under a name if its text is the name, an equals sign
  and the value.
* `IsName` — the name of a variable. A text begins with at most one name (`name_unique`), so that
  setting one variable leaves the others as they are.
* `get?_set_self`, `get?_set_of_ne` — what is read after a variable was set.
* `supply` — the environment with a variable supplied, if that is possible. `Impossible`: it is not if
  the variable holds no text and would get a zero byte.
* `get?_supply` — what is read after a variable was supplied: it keeps its value if that is text.
* `get?_supplyAll`, `text?_supplyAll` — what is read after a row of assignments was supplied: of
  several assignments to one variable the first one counts.
-/

namespace Credentials.Config.Environment

/-! ## Entries -/

/-- An entry has a value under a name if its text begins with the name and ends with the value. -/
theorem valueUnder?_eq_some_iff {name : String} {entry : String × Bytes} {value : Bytes} :
    valueUnder? name entry = some value ↔ head entry.1 ++ entry.2 = head name ++ value := by
  unfold valueUnder?
  constructor
  · intro h
    split at h
    case isTrue begins =>
      cases h
      exact (List.prefix_iff_eq_append.1 (List.isPrefixOf_iff_prefix.1 begins)).symm
    case isFalse => cases h
  · intro h
    rw [h, if_pos (List.isPrefixOf_iff_prefix.2 (List.prefix_append _ _)), List.drop_left]

/-- An entry has its value under its own name. -/
theorem valueUnder?_self (name : String) (value : Bytes) :
    valueUnder? name (name, value) = some value := valueUnder?_eq_some_iff.2 rfl

/-- The name of a variable: it is not empty and has no equals sign in it. -/
structure IsName (name : String) : Prop where
  /-- It is not empty. -/
  ne_empty : name ≠ ""
  /-- It has no equals sign in it. -/
  plain : '=' ∉ name.toList

variable {name name' : String}

/-- No byte of a name is an equals sign. -/
theorem IsName.not_mem (h : IsName name) : (0x3D : UInt8) ∉ Utf8.ofString name := fun hmem =>
  h.plain (Utf8.mem_of_mem_ofString (by decide) hmem)

/-- A text begins with at most one name. -/
theorem name_unique {as bs : Bytes} (h : IsName name) (h' : IsName name')
    (same : head name ++ as = head name' ++ bs) : name = name' := by
  have begins {n : String} (hn : IsName n) (rest : Bytes) :
      (head n ++ rest).takeWhile (· != 0x3D) = Utf8.ofString n := by
    have stays : ∀ b ∈ Utf8.ofString n, (b != 0x3D) = true := by
      intro b hb
      rw [bne_iff_ne]
      rintro rfl
      exact hn.not_mem hb
    rw [head, List.append_assoc, List.takeWhile_append_of_pos stays]
    exact List.append_nil _
  apply Utf8.ofString_injective
  rw [← begins h as, same, begins h' bs]

/-- No entry has values under two names. -/
theorem valueUnder?_of_ne {entry : String × Bytes} (h : IsName name) (h' : IsName name')
    (ne : name ≠ name') (found : (valueUnder? name entry).isSome) :
    valueUnder? name' entry = none := by
  obtain ⟨value, hvalue⟩ := Option.isSome_iff_exists.1 found
  apply Option.eq_none_iff_forall_ne_some.2
  intro value' hvalue'
  rw [valueUnder?_eq_some_iff] at hvalue hvalue'
  exact ne (name_unique h h' (hvalue.symm.trans hvalue'))

/-! ## Setting -/

/-- The value that was put in is found. -/
theorem findSome?_insert_self (name : String) (value : Bytes) (entries : List (String × Bytes)) :
    (insert name value entries).findSome? (valueUnder? name) = some value := by
  induction entries with
  | nil => rw [insert, List.findSome?_cons, valueUnder?_self]
  | cons e es ih =>
    rw [insert]
    split
    case isTrue => rw [List.findSome?_cons, valueUnder?_self]
    case isFalse other =>
      rw [List.findSome?_cons, Option.not_isSome_iff_eq_none.1 other]
      exact ih

/-- Under all other names the same is found as before. -/
theorem findSome?_insert_of_ne (h : IsName name) (h' : IsName name') (ne : name ≠ name')
    (value : Bytes) (entries : List (String × Bytes)) :
    (insert name value entries).findSome? (valueUnder? name') =
      entries.findSome? (valueUnder? name') := by
  have unseen : valueUnder? name' (name, value) = none := by
    apply valueUnder?_of_ne h h' ne
    rw [valueUnder?_self]
    rfl
  induction entries with
  | nil => rw [insert, List.findSome?_cons, unseen]
  | cons e es ih =>
    rw [insert]
    split
    case isTrue found =>
      -- the entry that is replaced had no value under the other name either
      rw [List.findSome?_cons, List.findSome?_cons, unseen, valueUnder?_of_ne h h' ne found]
    case isFalse => rw [List.findSome?_cons, List.findSome?_cons, ih]

variable {env : Environment}

/-- A variable holds what it was set to. -/
theorem get?_set_self (h : IsName name) (value : Bytes) :
    (env.set name value).get? name = some value := by
  rw [get?, if_neg h.ne_empty]
  exact findSome?_insert_self name value env.entries

/-- To set a variable leaves the others as they are. -/
theorem get?_set_of_ne (h : IsName name) (h' : IsName name') (ne : name ≠ name') (value : Bytes) :
    (env.set name value).get? name' = env.get? name' := by
  rw [get?, get?, if_neg h'.ne_empty, if_neg h'.ne_empty]
  exact findSome?_insert_of_ne h h' ne value env.entries

/-! ## Supplying -/

/-- The environment with a variable set to a text, unless it is text already. Zero bytes are not looked
for. -/
def supply (env : Environment) (name value : String) : Environment :=
  if (env.text? name).isSome then env else env.set name (Utf8.ofString value)

/-- The assignment cannot be made: its variable holds no text, and its value has a zero byte in it. -/
def Impossible (env : Environment) (a : String × String) : Prop :=
  env.text? a.1 = none ∧ '\x00' ∈ a.2.toList

instance (env : Environment) (a : String × String) : Decidable (env.Impossible a) :=
  inferInstanceAs (Decidable (_ ∧ _))

/-- A variable that holds text can be supplied with anything. -/
theorem not_impossible_of_text {a : String × String} (h : (env.text? a.1).isSome) :
    ¬ env.Impossible a := by
  rintro ⟨unset, -⟩
  rw [unset] at h
  cases h

/-- What is impossible is refused, and all else is supplied. -/
theorem supply?_eq (env : Environment) (a : String × String) :
    env.supply? a.1 a.2 = if env.Impossible a then none else some (env.supply a.1 a.2) := by
  unfold supply? supply
  by_cases text : (env.text? a.1).isSome
  · rw [if_pos text, if_pos text, if_neg (not_impossible_of_text text)]
  · rw [if_neg text, if_neg text]
    have unset := Option.not_isSome_iff_eq_none.1 text
    exact ite_congr (propext ⟨fun zero => ⟨unset, zero⟩, And.right⟩) (fun _ => rfl) fun _ => rfl

/-- A variable that holds text keeps it. -/
theorem supply_of_text {value : String} (h : (env.text? name).isSome) :
    env.supply name value = env := if_pos h

/-- A variable that was supplied keeps its value if that is text, and so do all others. -/
theorem get?_supply (h : IsName name) (h' : IsName name') (value : String) :
    (env.supply name value).get? name' =
      if name' = name ∧ env.text? name = none then some (Utf8.ofString value)
      else env.get? name' := by
  unfold supply
  cases text : env.text? name with
  | some held => rw [if_pos Option.isSome_some, if_neg (by simp)]
  | none =>
    rw [if_neg (by simp)]
    by_cases same : name' = name
    · rw [if_pos ⟨same, rfl⟩, same, get?_set_self h]
    · rw [if_neg (fun hand => same hand.1), get?_set_of_ne h h' (Ne.symm same)]

/-- A variable that is supplied gets its text only if it had none, and no other is changed. -/
theorem text?_supply (h : IsName name) (h' : IsName name') (value : String) :
    (env.supply name value).text? name' =
      if name' = name ∧ env.text? name = none then some value else env.text? name' := by
  rw [text?, get?_supply h h']
  split
  · exact Utf8.string?_ofString value
  · rfl

/-- A variable that was supplied holds text. -/
theorem isSome_text?_supply (h : IsName name) (value : String) :
    ((env.supply name value).text? name).isSome := by
  rw [text?_supply h h]
  cases text : env.text? name with
  | some held => rw [if_neg (by simp)]; rfl
  | none => rw [if_pos ⟨rfl, rfl⟩]; rfl

/-- The environment with a row of variables supplied. -/
def supplyAll (env : Environment) (assignments : List (String × String)) : Environment :=
  assignments.foldl (fun env a => env.supply a.1 a.2) env

/-- To supply nothing leaves the environment as it is. -/
@[simp] theorem supplyAll_nil (env : Environment) : env.supplyAll [] = env := rfl

/-- A row is supplied from its first assignment on. -/
@[simp] theorem supplyAll_cons (env : Environment) (a : String × String)
    (as : List (String × String)) :
    env.supplyAll (a :: as) = (env.supply a.1 a.2).supplyAll as := rfl

variable {as : List (String × String)}

/-- A variable that holds text keeps it; any other holds its first assignment, if it has one. -/
theorem get?_supplyAll (names : ∀ a ∈ as, IsName a.1) (h : IsName name) :
    (env.supplyAll as).get? name =
      if (env.text? name).isSome then env.get? name
      else ((as.lookup name).map Utf8.ofString).or (env.get? name) := by
  induction as generalizing env with
  | nil => simp
  | cons a as ih =>
    have ha : IsName a.1 := names a List.mem_cons_self
    rw [supplyAll_cons, ih fun b hb => names b (List.mem_cons_of_mem _ hb), text?_supply ha h,
      get?_supply ha h, List.lookup_cons]
    by_cases first : name = a.1 ∧ env.text? a.1 = none
    · -- this assignment takes effect, and those after it do not
      rw [if_pos first, if_pos first, if_pos Option.isSome_some]
      obtain ⟨rfl, unset⟩ := first
      rw [unset, beq_self_eq_true]
      rfl
    · rw [if_neg first, if_neg first]
      cases text : env.text? name with
      | some held => rfl
      | none =>
        have other : (name == a.1) = false := beq_eq_false_iff_ne.2 fun same =>
          first ⟨same, same ▸ text⟩
        rw [other]

/-- A text that is there stays, and else the first one in the row is taken. -/
theorem text?_supplyAll (names : ∀ a ∈ as, IsName a.1) (h : IsName name) :
    (env.supplyAll as).text? name = (env.text? name).or (as.lookup name) := by
  rw [text?, get?_supplyAll names h]
  cases text : env.text? name with
  | some held =>
    rw [if_pos Option.isSome_some]
    exact text
  | none =>
    rw [if_neg (by simp), Option.none_or]
    cases as.lookup name with
    | some value => exact Utf8.string?_ofString value
    | none => exact text

end Credentials.Config.Environment
