import Credentials.Password.Basic
import Credentials.Proofs.Password.Record

/-!
# Verifying stored passwords

A stored line is verified by hashing the password again with the cost and the salt of the line.

* `verify_text` — the verdict for the line that was written of a record.
* `verify_hash` — the verdict for a line that was made of a password: both have the same digest.
* `hash_verifies` — **what is stored for a password goes with it**, under every cost and whatever the
  password and the salt are; its form is fixed, and no other salt makes the same line.
-/

namespace Credentials.Password

open Record

variable {cost : Nat}

/-- A record that is made of a password under a cost in range can be read back. -/
theorem storable_record (low : minCost ≤ cost) (high : cost ≤ maxCost) (salt : Bcrypt.Salt)
    (password : String) : (record cost salt password).Storable :=
  ⟨low, high, Bcrypt.length_digest ..⟩

/-- The record of a password can be stored. -/
theorem storable_hash (salt : Bcrypt.Salt) (password : String) :
    (record hashCost salt password).Storable :=
  storable_record (by decide) (by decide) salt password

/-! ## Verdicts -/

/-- A password verifies against a line just if it makes the record of the line. -/
theorem verify_text {r : Record} (h : r.Storable) (password : String) :
    verify password r.text = .ok (record r.cost r.salt password = r) := by
  rw [verify, parse_text h]
  rfl

/-- A password goes with the line that was made of another if both have the same digest. -/
theorem verify_hash (salt : Bcrypt.Salt) (password other : String) :
    verify other (hash salt password) = .ok
      (Bcrypt.digest hashCost salt (Utf8.ofString other) =
        Bcrypt.digest hashCost salt (Utf8.ofString password)) := by
  rw [hash, verify_text (storable_hash salt password)]
  simp [record]

/-! ## The form of a line -/

/-- The line is this head, and behind it the symbols of a salt and of a digest. -/
def HasForm (head : List Char) (line : String) : Prop :=
  ∃ salt digest : List Char, line.toList = head ++ salt ++ digest ∧ salt.length = 22 ∧
    digest.length = 31 ∧ ∀ c ∈ salt ++ digest, IsSymbol c

/-- The head of a line with a cost of two digits. -/
def headFor (cost : Nat) : List Char :=
  "$2b$".toList ++ [Decimal.digitChar (cost / 10), Decimal.digitChar (cost % 10), '$']

/-- A cost is written with two digits. -/
theorem padded_two {cost : Nat} (h : cost < 100) :
    Decimal.padded 2 cost = [cost / 10, cost % 10].map Decimal.digitChar := by
  unfold Decimal.padded Decimal.ofNat
  split
  case isTrue below =>
    rw [Nat.div_eq_of_lt below, Nat.mod_eq_of_lt below]
    rfl
  case isFalse =>
    rw [Decimal.ofNat, if_pos (by omega)]
    rfl

/-- The line of a record has the form that its cost gives it. -/
theorem hasForm_text {r : Record} (h : r.Storable) : HasForm (headFor r.cost) r.text := by
  refine ⟨encoded r.salt.toList, encoded r.digest, ?_, ?_, ?_, ?_⟩
  · rw [toList_text, padded_two h.cost_lt, headFor]
    simp
  · rw [length_encoded, r.salt.length_toList]
  · rw [length_encoded, h.length_digest]
  · intro c mem
    rcases List.mem_append.1 mem with mem | mem <;> exact isSymbol_of_mem_encoded mem

/-- The head of the lines that are written here. -/
theorem headFor_hashCost : headFor hashCost = "$2b$12$".toList := by decide

/-! ## What is stored for a password -/

/-- **What is stored for a password goes with it.** A new line is `$2b$12$` and behind it the symbols
of the salt and of the digest. It goes with its password, and so does the line that is made of the
password and the salt under any other cost from 4 to 31, in two digits. Different salts make
different lines. -/
theorem hash_verifies (password : String) (salt : Bcrypt.Salt) :
    HasForm "$2b$12$".toList (hash salt password) ∧
    verify password (hash salt password) = .ok true ∧
    (∀ cost, 4 ≤ cost → cost ≤ 31 →
      HasForm (headFor cost) (record cost salt password).text ∧
      verify password (record cost salt password).text = .ok true) ∧
    ∀ salt', salt ≠ salt' → hash salt password ≠ hash salt' password := by
  refine ⟨?form, ?goes, ?anyCost, ?salts⟩
  case form =>
    rw [← headFor_hashCost]
    exact hasForm_text (storable_hash salt password)
  case goes =>
    rw [verify_hash, decide_eq_true rfl]
  case anyCost =>
    intro cost low high
    have storable := storable_record low high salt password
    refine ⟨hasForm_text storable, ?_⟩
    rw [verify_text storable]
    simp [record]
  case salts =>
    intro salt' apart same
    have records := (text_inj (storable_hash salt password) (storable_hash salt' password)).1 same
    exact apart (congrArg Record.salt records)

/-- The empty password under the lowest and under the highest cost, and with two salts. -/
theorem hash_verifies_empty :
    let zeros : Bcrypt.Salt := Vector.replicate 16 0
    let ones : Bcrypt.Salt := Vector.replicate 16 1
    verify "" (record 4 zeros "").text = .ok true ∧ verify "" (record 31 zeros "").text = .ok true ∧
      hash zeros "" ≠ hash ones "" := by
  intro zeros ones
  obtain ⟨-, -, anyCost, salts⟩ := hash_verifies "" zeros
  refine ⟨(anyCost 4 ?_ ?_).2, (anyCost 31 ?_ ?_).2, salts ones ?_⟩
  all_goals decide

end Credentials.Password
