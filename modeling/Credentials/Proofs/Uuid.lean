import Credentials.Proofs.Text.Hex
import Credentials.Uuid

/-!
# Reading identifiers

An identifier has four textual forms (`Form`): its digits, the digits with hyphens, this between
braces, and this after `urn:uuid:`. In all of them a letter may be of either case.

* `parse?_eq_some_iff` — **a text is read as an identifier if and only if it is one of its forms**.
* `Form.unique` — no text is a form of two identifiers.
* `parse?_text` — the text that is written of an identifier is one of its forms, so that different
  identifiers have different texts (`text_injective`).

The readers are tried in order, and none takes a text that is meant for a later one: the forms have
32, 36, 38 and 45 characters.
-/

namespace Credentials.Uuid

/-! ## Forms -/

/-- Thirty-two digits get four hyphens. -/
theorem length_hyphenate {ds : List Char} (h : ds.length = 32) : (hyphenate ds).length = 36 := by
  simp [hyphenate, h]

/-- The digits of an identifier, each in either case. -/
def Digits (u : Uuid) (ds : List Char) : Prop := ds.map Char.toLower = Hex.encode u.bytes.toList

/-- The textual forms of an identifier. -/
inductive Form (u : Uuid) : List Char → Prop where
  | digits {ds : List Char} (h : Digits u ds) : Form u ds
  | hyphenated {ds : List Char} (h : Digits u ds) : Form u (hyphenate ds)
  | braced {ds : List Char} (h : Digits u ds) : Form u ('\x7b' :: hyphenate ds ++ ['\x7d'])
  | urn {scheme ds : List Char} (hs : scheme.map Char.toLower = "urn:uuid:".toList)
    (h : Digits u ds) : Form u (scheme ++ hyphenate ds)

variable {u v : Uuid} {cs ds : List Char}

/-- An identifier has thirty-two digits. -/
theorem Digits.length (h : Digits u ds) : ds.length = 32 := by
  have length := congrArg List.length h
  rwa [List.length_map, Hex.length_encode, Vector.length_toList] at length

/-- With hyphens it has thirty-six characters. -/
theorem Digits.length_hyphenate (h : Digits u ds) : (hyphenate ds).length = 36 :=
  Uuid.length_hyphenate h.length

/-- The identifier is written in one of its forms. -/
theorem form_text (u : Uuid) : Form u u.text :=
  .hyphenated (Hex.decode_eq_some_iff.1 (Hex.decode_encode _))

/-! ## One form after the other -/

/-- An identifier is read just from its digits. -/
theorem ofDigits?_eq_some_iff : ofDigits? cs = some u ↔ Digits u cs := by
  simp only [ofDigits?, Option.bind_eq_bind, Option.bind_eq_some_iff, Option.pure_def,
    Option.some.injEq, Hex.decode_eq_some_iff, Bytes.block?_eq_some_iff]
  constructor
  · rintro ⟨_, digits, block, rfl, rfl⟩
    exact digits
  · intro digits
    exact ⟨_, digits, u.bytes, rfl, rfl⟩

/-- The hyphenated form of thirty-two digits is read as these digits. -/
theorem ofHyphenated?_hyphenate {ds : List Char} (h : ds.length = 32) :
    ofHyphenated? (hyphenate ds) = ofDigits? ds := by
  have rejoin (n k : Nat) : (ds.drop n).take k ++ ds.drop (n + k) = ds.drop n := by
    rw [← List.drop_drop, List.take_append_drop]
  have digits : (hyphenate ds).take 8 ++ ((hyphenate ds).drop 9).take 4 ++
      ((hyphenate ds).drop 14).take 4 ++ ((hyphenate ds).drop 19).take 4 ++
        (hyphenate ds).drop 24 = ds := by
    simp [hyphenate, List.drop_append, List.drop_take, h, rejoin 16 4, rejoin 12 4,
      rejoin 8 4]
  rw [ofHyphenated?]
  simp only [digits, if_true]

/-- An identifier is read just from its digits with hyphens. -/
theorem ofHyphenated?_eq_some_iff :
    ofHyphenated? cs = some u ↔ ∃ ds, Digits u ds ∧ cs = hyphenate ds := by
  constructor
  · intro h
    simp only [ofHyphenated?] at h
    split at h
    case isTrue rejoined => exact ⟨_, ofDigits?_eq_some_iff.1 h, rejoined.symm⟩
    case isFalse => cases h
  · rintro ⟨ds, digits, rfl⟩
    rw [ofHyphenated?_hyphenate digits.length]
    exact ofDigits?_eq_some_iff.2 digits

/-- An identifier is read just from its hyphenated digits in braces. -/
theorem ofBraced?_eq_some_iff :
    ofBraced? cs = some u ↔ ∃ ds, Digits u ds ∧ cs = '\x7b' :: hyphenate ds ++ ['\x7d'] := by
  constructor
  · intro h
    unfold ofBraced? at h
    split at h
    case h_1 inner =>
      split at h
      case isTrue closed =>
        obtain ⟨ds, digits, hyphenated⟩ := ofHyphenated?_eq_some_iff.1 h
        obtain ⟨inside, rfl⟩ := List.getLast?_eq_some_iff.1 closed
        rw [List.dropLast_concat] at hyphenated
        exact ⟨ds, digits, congrArg (fun cs => '\x7b' :: (cs ++ ['\x7d'])) hyphenated⟩
      case isFalse => cases h
    case h_2 => cases h
  · rintro ⟨ds, digits, rfl⟩
    have closed : (hyphenate ds ++ ['\x7d']).getLast? = some '\x7d' := List.getLast?_concat
    rw [List.cons_append, ofBraced?, if_pos closed, List.dropLast_concat]
    exact ofHyphenated?_eq_some_iff.2 ⟨ds, digits, rfl⟩

/-- The scheme has nine letters in either case. -/
theorem length_of_scheme {scheme : List Char}
    (hs : scheme.map Char.toLower = "urn:uuid:".toList) : scheme.length = 9 := by
  rw [← List.length_map Char.toLower, hs]
  rfl

/-- An identifier is read just from its hyphenated digits behind the scheme. -/
theorem ofUrn?_eq_some_iff :
    ofUrn? cs = some u ↔ ∃ scheme ds, scheme.map Char.toLower = "urn:uuid:".toList ∧
      Digits u ds ∧ cs = scheme ++ hyphenate ds := by
  constructor
  · intro h
    unfold ofUrn? at h
    split at h
    case isTrue scheme =>
      obtain ⟨ds, digits, hyphenated⟩ := ofHyphenated?_eq_some_iff.1 h
      refine ⟨cs.take 9, ds, scheme, digits, ?_⟩
      rw [← hyphenated, List.take_append_drop]
    case isFalse => cases h
  · rintro ⟨scheme, ds, hs, digits, rfl⟩
    have nine := length_of_scheme hs
    rw [ofUrn?, List.take_left' nine, List.drop_left' nine, if_pos hs]
    exact ofHyphenated?_eq_some_iff.2 ⟨ds, digits, rfl⟩

/-! ## All forms -/

/-- The plain form has thirty-two characters. -/
theorem length_of_ofDigits? (h : ofDigits? cs = some u) : cs.length = 32 :=
  (ofDigits?_eq_some_iff.1 h).length

/-- The hyphenated form has thirty-six characters. -/
theorem length_of_ofHyphenated? (h : ofHyphenated? cs = some u) : cs.length = 36 := by
  obtain ⟨ds, digits, rfl⟩ := ofHyphenated?_eq_some_iff.1 h
  exact digits.length_hyphenate

/-- The form in braces has thirty-eight characters. -/
theorem length_of_ofBraced? (h : ofBraced? cs = some u) : cs.length = 38 := by
  obtain ⟨ds, digits, rfl⟩ := ofBraced?_eq_some_iff.1 h
  simp [digits.length_hyphenate]

/-- A reader of texts of one length refuses a text of another. -/
theorem eq_none_of_length {read : List Char → Option Uuid} {n : Nat}
    (length : ∀ {u}, read cs = some u → cs.length = n) (h : cs.length ≠ n) : read cs = none :=
  Option.eq_none_iff_forall_ne_some.2 fun _ read => h (length read)

/-- A text is read as an identifier if and only if it is one of its forms. -/
theorem parse?_eq_some_iff : parse? cs = some u ↔ Form u cs := by
  constructor
  · intro h
    simp only [parse?, Option.orElse_eq_orElse, Option.orElse_eq_or, Option.or_eq_some_iff] at h
    rcases h with h | ⟨-, h | ⟨-, h | ⟨-, h⟩⟩⟩
    · exact .digits (ofDigits?_eq_some_iff.1 h)
    · obtain ⟨ds, digits, rfl⟩ := ofHyphenated?_eq_some_iff.1 h
      exact .hyphenated digits
    · obtain ⟨ds, digits, rfl⟩ := ofBraced?_eq_some_iff.1 h
      exact .braced digits
    · obtain ⟨scheme, ds, hs, digits, rfl⟩ := ofUrn?_eq_some_iff.1 h
      exact .urn hs digits
  · -- each form is refused, for its length, by the readers that are tried before its own
    rintro (digits | digits | digits | ⟨hs, digits⟩)
    case digits =>
      rw [parse?, ofDigits?_eq_some_iff.2 digits]
      rfl
    case hyphenated ds =>
      have length := digits.length_hyphenate
      rw [parse?, eq_none_of_length length_of_ofDigits? (by omega),
        ofHyphenated?_eq_some_iff.2 ⟨ds, digits, rfl⟩]
      rfl
    case braced ds =>
      have length : ('\x7b' :: hyphenate ds ++ ['\x7d']).length = 38 := by
        simp [digits.length_hyphenate]
      rw [parse?, eq_none_of_length length_of_ofDigits? (by omega),
        eq_none_of_length length_of_ofHyphenated? (by omega),
        ofBraced?_eq_some_iff.2 ⟨ds, digits, rfl⟩]
      rfl
    case urn scheme ds =>
      have length : (scheme ++ hyphenate ds).length = 45 := by
        rw [List.length_append, length_of_scheme hs, digits.length_hyphenate]
      rw [parse?, eq_none_of_length length_of_ofDigits? (by omega),
        eq_none_of_length length_of_ofHyphenated? (by omega),
        eq_none_of_length length_of_ofBraced? (by omega),
        ofUrn?_eq_some_iff.2 ⟨scheme, ds, hs, digits, rfl⟩]
      rfl

/-- The text of an identifier is read as that identifier. -/
theorem parse?_text (u : Uuid) : parse? u.text = some u := parse?_eq_some_iff.2 (form_text u)

/-- No text is a form of two identifiers. -/
theorem Form.unique (h : Form u cs) (h' : Form v cs) : u = v :=
  Option.some.inj ((parse?_eq_some_iff.2 h).symm.trans (parse?_eq_some_iff.2 h'))

/-- Identifiers with the same text are the same. -/
theorem text_injective {u v : Uuid} (h : u.text = v.text) : u = v := by
  have read := parse?_text u
  rw [h, parse?_text] at read
  exact (Option.some.inj read).symm

end Credentials.Uuid
