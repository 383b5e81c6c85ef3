import Credentials.Proofs.Cipher.Blowfish
import Credentials.Proofs.Password.Verification
import Credentials.Proofs.Text.Letters

/-!
# Other passwords

Does a stored line go with another password than the one it was made of? A password is the key of a
digest, so that two things have to be told apart.

* `SameKey` — the passwords are different texts and still one key: with a zero byte behind each and
  repeated without end, they agree in their first 72 bytes. The line then goes with both
  (`long_password_verified`). For passwords without zero characters this means that they agree in
  their own first 72 bytes (`sameKey_iff_take`), and up to 72 bytes that they are the same
  (`sameKey_iff_eq`).
* `DigestsCollide` — the keys are different, but they have the same digest under the salt.

Apart from these the verdict is no (`other_password_refused`). No bound on passwords does without the
second exception: there are more keys than digests, so that every salt has two passwords that are
different keys and go with one line (`exists_passwords_alike`).
-/

namespace Credentials.Password

/-! ## Passwords as keys -/

/-- A password with a zero byte behind it. -/
def terminated (password : String) : Bytes := Utf8.ofString password ++ [0]

/-- Two passwords are the same key. -/
def SameKey (password other : String) : Prop :=
  ∀ i < 72, Blowfish.repeated (terminated password) i = Blowfish.repeated (terminated other) i

instance (password other : String) : Decidable (SameKey password other) :=
  inferInstanceAs (Decidable (∀ i < 72, _))

/-- Two different keys have the same digest under the salt. -/
def DigestsCollide (salt : Bcrypt.Salt) (password other : String) : Prop :=
  ¬ SameKey password other ∧ Bcrypt.digest hashCost salt (Utf8.ofString other) =
    Bcrypt.digest hashCost salt (Utf8.ofString password)

variable {password other : String} {salt : Bcrypt.Salt}

/-- The same key is the same eighteen words. -/
theorem sameKey_iff_cycle : SameKey password other ↔
    Blowfish.cycle 18 (Bcrypt.keyOf (Utf8.ofString password)) =
      Blowfish.cycle 18 (Bcrypt.keyOf (Utf8.ofString other)) := by
  have counted (p : String) {i : Nat} (h : i < 72) :
      Blowfish.repeated (Bcrypt.keyOf (Utf8.ofString p)) i = Blowfish.repeated (terminated p) i :=
    Blowfish.repeated_take h
  rw [Blowfish.cycle_eq_iff]
  constructor
  · intro same i hi
    rw [counted _ hi, counted _ hi]
    exact same i hi
  · intro same i hi
    rw [← counted _ hi, ← counted _ hi]
    exact same i hi

/-- Passwords that are one key have one digest, at every cost and under every salt. -/
theorem SameKey.digest_eq (h : SameKey password other) (cost : Nat) (salt : Bcrypt.Salt) :
    Bcrypt.digest cost salt (Utf8.ofString other) =
      Bcrypt.digest cost salt (Utf8.ofString password) := by
  unfold Bcrypt.digest
  rw [sameKey_iff_cycle.1 h]

/-- Two passwords have the same digest for one of two reasons. -/
theorem digest_eq_iff : Bcrypt.digest hashCost salt (Utf8.ofString other) =
    Bcrypt.digest hashCost salt (Utf8.ofString password) ↔
      SameKey password other ∨ DigestsCollide salt password other := by
  constructor
  · intro same
    by_cases key : SameKey password other
    · exact .inl key
    · exact .inr ⟨key, same⟩
  · rintro (key | ⟨-, same⟩)
    · exact key.digest_eq hashCost salt
    · exact same

/-! ## Beginnings of passwords -/

/-- Of a password, what is behind its first 72 bytes does not count. -/
theorem keyOf_take (bs : Bytes) : Bcrypt.keyOf (bs.take 72) = Bcrypt.keyOf bs := by
  have room : 72 - (bs.take 72).length = 72 - bs.length := by
    rw [List.length_take]
    omega
  rw [Bcrypt.keyOf, Bcrypt.keyOf, List.take_append, List.take_append, room, List.take_take,
    Nat.min_self]

/-- Passwords that agree in their first 72 bytes are one key. -/
theorem sameKey_of_take
    (h : (Utf8.ofString password).take 72 = (Utf8.ofString other).take 72) :
    SameKey password other := by
  rw [sameKey_iff_cycle, ← keyOf_take, h, keyOf_take]

/-- A repetition begins with the password. -/
theorem repeated_terminated {i : Nat} (h : i < (Utf8.ofString password).length) :
    Blowfish.repeated (terminated password) i = (Utf8.ofString password)[i] := by
  have within : i < (terminated password).length := by
    rw [terminated, List.length_append]
    exact Nat.lt_add_right _ h
  rw [Blowfish.repeated_of_lt within]
  exact List.getElem_append_left h

/-- Behind the password stands a zero byte. -/
theorem repeated_terminated_length :
    Blowfish.repeated (terminated password) (Utf8.ofString password).length = 0 := by
  have within : (Utf8.ofString password).length < (terminated password).length := by
    rw [terminated, List.length_append]
    exact Nat.lt_succ_self _
  rw [Blowfish.repeated_of_lt within]
  exact List.getElem_concat_length rfl _

/-! ## Passwords without zeros -/

section zeros

/-- Only the zero character has a zero byte. -/
theorem zero_not_mem (h : '\x00' ∉ password.toList) : 0 ∉ Utf8.ofString password :=
  fun mem => h (Utf8.mem_of_mem_ofString (by decide) mem)

/-- The zero behind a password shows where another password ends that is the same key. -/
theorem SameKey.length_le (h : SameKey password other) (noZero : '\x00' ∉ other.toList)
    (short : (Utf8.ofString password).length < 72) :
    (Utf8.ofString other).length ≤ (Utf8.ofString password).length := by
  by_contra longer
  have byte := h _ short
  rw [repeated_terminated_length, repeated_terminated (Nat.not_le.1 longer)] at byte
  apply zero_not_mem noZero
  rw [byte]
  exact List.getElem_mem _

/-- It does not matter which of two passwords comes first. -/
theorem SameKey.symm (h : SameKey password other) : SameKey other password :=
  fun i hi => (h i hi).symm

variable (noZero : '\x00' ∉ password.toList) (noZero' : '\x00' ∉ other.toList)

include noZero noZero'

/-- Passwords without zeros are the same key if and only if their first 72 bytes are the same. -/
theorem sameKey_iff_take : SameKey password other ↔
    (Utf8.ofString password).take 72 = (Utf8.ofString other).take 72 := by
  refine ⟨?_, sameKey_of_take⟩
  intro same
  apply List.ext_getElem?
  intro i
  rw [List.getElem?_take, List.getElem?_take]
  split
  case isFalse => rfl
  case isTrue counts =>
    have length := same.length_le noZero'
    have length' := same.symm.length_le noZero
    by_cases within : i < (Utf8.ofString password).length
    · have within' : i < (Utf8.ofString other).length := by omega
      rw [List.getElem?_eq_getElem within, List.getElem?_eq_getElem within',
        ← repeated_terminated within, ← repeated_terminated within', same i counts]
    · rw [List.getElem?_eq_none (by omega), List.getElem?_eq_none (by omega)]

/-- Up to 72 bytes they are the same key only if they are the same. -/
theorem sameKey_iff_eq (short : (Utf8.ofString password).length ≤ 72)
    (short' : (Utf8.ofString other).length ≤ 72) : SameKey password other ↔ password = other := by
  rw [sameKey_iff_take noZero noZero', List.take_of_length_le short, List.take_of_length_le short']
  exact ⟨Utf8.ofString_injective, congrArg _⟩

end zeros

/-! ## Other passwords -/

/-- A letter behind the first 72, and a zero and the password once more, make other texts; but the
line of the password goes with them. -/
theorem long_password_verified :
    let salt : Bcrypt.Salt := Vector.replicate 16 0
    let long := String.ofList (List.replicate 72 'a')
    let longer := String.ofList (List.replicate 72 'a' ++ ['b'])
    long ≠ longer ∧ verify longer (hash salt long) = .ok true ∧
      "a" ≠ "a\x00a" ∧ verify "a\x00a" (hash salt "a") = .ok true := by
  intro salt long longer
  have key : SameKey long longer := sameKey_of_take (by decide)
  have repeats : SameKey "a" "a\x00a" := by decide
  refine ⟨by decide, ?_, by decide, ?_⟩
  · rw [verify_hash, decide_eq_true (key.digest_eq _ _)]
  · rw [verify_hash, decide_eq_true (repeats.digest_eq _ _)]

/-- **A password that is another key is refused.** The line that was made of a password does not go
with one that is another key, unless both have the same digest under the salt. With the same key, and
with such a collision, it does. Passwords with the same first 72 bytes are the same key; if they have
no zero characters, only these are, so that up to 72 bytes no other password is. -/
theorem other_password_refused (salt : Bcrypt.Salt) (password other : String) :
    (¬ SameKey password other →
      verify other (hash salt password) = .ok false ∨ DigestsCollide salt password other) ∧
    (SameKey password other ∨ DigestsCollide salt password other →
      verify other (hash salt password) = .ok true) ∧
    ((Utf8.ofString password).take 72 = (Utf8.ofString other).take 72 → SameKey password other) ∧
    ('\x00' ∉ password.toList → '\x00' ∉ other.toList →
      (SameKey password other ↔
        (Utf8.ofString password).take 72 = (Utf8.ofString other).take 72) ∧
      ((Utf8.ofString password).length ≤ 72 → (Utf8.ofString other).length ≤ 72 →
        password ≠ other → ¬ SameKey password other)) := by
  rw [verify_hash]
  refine ⟨?refused, ?accepted, sameKey_of_take, ?zeros⟩
  case refused =>
    intro apart
    by_cases collide : DigestsCollide salt password other
    · exact .inr collide
    · refine .inl (congrArg Except.ok (decide_eq_false ?_))
      rw [digest_eq_iff, not_or]
      exact ⟨apart, collide⟩
  case accepted =>
    intro same
    rw [decide_eq_true (digest_eq_iff.2 same)]
  case zeros =>
    intro noZero noZero'
    refine ⟨sameKey_iff_take noZero noZero', ?_⟩
    intro short short' different
    rwa [sameKey_iff_eq noZero noZero' short short']

/-- With one more letter, and with a zero and the password once more. -/
theorem other_password_refused_short :
    let salt : Bcrypt.Salt := Vector.replicate 16 0
    (verify "ab" (hash salt "a") = .ok false ∨ DigestsCollide salt "a" "ab") ∧
      verify "a\x00a" (hash salt "a") = .ok true := by
  intro salt
  obtain ⟨refused, -, -, zeros⟩ := other_password_refused salt "a" "ab"
  obtain ⟨-, accepted, -⟩ := other_password_refused salt "a" "a\x00a"
  refine ⟨refused ?_, accepted (.inl ?_)⟩
  · exact (zeros (by decide) (by decide)).2 (by decide) (by decide) (by decide)
  · decide

/-! ## More keys than digests -/

/-- Every salt has two passwords that are different keys and go with one line. -/
theorem exists_passwords_alike (salt : Bcrypt.Salt) : ∃ password other : String,
    ¬ SameKey password other ∧ hash salt password = hash salt other := by
  obtain ⟨password, other, different, full, full', same⟩ := Text.exists_texts_alike (by decide)
    (Bcrypt.length_digest hashCost salt)
  refine ⟨password, other, ?_, ?_⟩
  · intro key
    apply different
    apply Utf8.ofString_injective
    apply List.ext_getElem (full.trans full'.symm)
    intro i hi hi'
    rw [← repeated_terminated hi, ← repeated_terminated hi']
    exact key i (by omega)
  · unfold hash record
    rw [same]

end Credentials.Password
