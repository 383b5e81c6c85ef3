import Credentials.Text.Blank

/-!
# Trimming

What is trimmed away from a text is blank (`exists_trim`), and nothing that is not blank is lost: a
text without blanks in it is what is left when it stands between blanks (`trim_between`), and nothing
is trimmed away before a character that is not blank (`trimEnd_append_cons`). A text is trimmed away
as a whole if and only if it is blank (`trim_eq_nil_iff`).
-/

namespace Credentials.Text

/-- No printable character of ASCII is a blank. -/
theorem isBlank_of_printable {c : Char} (h : 0x21 ≤ c.toNat ∧ c.toNat ≤ 0x7E) :
    isBlank c = false := by
  simp only [isBlank, Bool.or_eq_false_iff, Bool.and_eq_false_imp, decide_eq_true_eq,
    decide_eq_false_iff_not]
  omega

/-- A row of blanks. -/
def Blank (cs : List Char) : Prop := ∀ c ∈ cs, isBlank c = true

instance (cs : List Char) : Decidable (Blank cs) := List.decidableBAll _ cs

variable {front core back cs : List Char}

/-- What is taken as long as it is blank is blank. -/
theorem blank_takeWhile (cs : List Char) : Blank (cs.takeWhile isBlank) :=
  List.all_eq_true.1 List.all_takeWhile

/-- Blanks are blanks from behind too. -/
theorem Blank.reverse (h : Blank cs) : Blank cs.reverse := fun c hc => h c (List.mem_reverse.1 hc)

/-- Blanks in front are cut off with those behind them. -/
theorem trimStart_append (h : Blank front) : trimStart (front ++ cs) = trimStart cs :=
  List.dropWhile_append_of_pos h

/-- Blanks behind are cut off with those before them. -/
theorem trimEnd_append (h : Blank back) : trimEnd (cs ++ back) = trimEnd cs := by
  rw [trimEnd, List.reverse_append, List.dropWhile_append_of_pos h.reverse]
  rfl

/-- Nothing is left of blanks. -/
theorem trimEnd_of_blank (h : Blank cs) : trimEnd cs = [] := by
  rw [← List.nil_append cs, trimEnd_append h]
  rfl

/-- Nothing is trimmed away before a character that is not blank. -/
theorem trimEnd_append_cons {c : Char} (h : isBlank c = false) :
    trimEnd (front ++ c :: cs) = front ++ c :: trimEnd cs := by
  have stops : (cs.reverse ++ c :: front.reverse).dropWhile isBlank =
      cs.reverse.dropWhile isBlank ++ c :: front.reverse := by
    rw [List.dropWhile_append]
    split
    case isTrue empty =>
      rw [List.isEmpty_iff.1 empty, List.dropWhile_cons_of_neg (by simp [h]), List.nil_append]
    case isFalse => rfl
  rw [trimEnd, trimEnd, List.reverse_append, List.reverse_cons, List.append_assoc,
    List.singleton_append, stops]
  simp

/-- What is trimmed away at the two ends is blank. -/
theorem exists_trim (cs : List Char) :
    ∃ front back, Blank front ∧ Blank back ∧ cs = front ++ trim cs ++ back := by
  refine ⟨cs.takeWhile isBlank, ((trimStart cs).reverse.takeWhile isBlank).reverse,
    blank_takeWhile cs, (blank_takeWhile _).reverse, ?_⟩
  calc cs = cs.takeWhile isBlank ++ trimStart cs := List.takeWhile_append_dropWhile.symm
    _ = cs.takeWhile isBlank ++
          (trim cs ++ ((trimStart cs).reverse.takeWhile isBlank).reverse) := by
        rw [trim, trimEnd, ← List.reverse_append, List.takeWhile_append_dropWhile,
          List.reverse_reverse]
    _ = _ := (List.append_assoc _ _ _).symm

/-- A text that does not begin with a blank keeps its beginning. -/
theorem trimStart_of_head (h : ∀ c ∈ cs.head?, isBlank c = false) : trimStart cs = cs := by
  rcases cs with _ | ⟨c, cs⟩
  · rfl
  · exact List.dropWhile_cons_of_neg (by simp [h c rfl])

/-- A text without blanks in it is what is left when it stands between blanks. -/
theorem trim_between (hfront : Blank front) (hback : Blank back)
    (hcore : ∀ c ∈ core, isBlank c = false) : trim (front ++ core ++ back) = core := by
  have whole : trimEnd core = core := by
    have reversed : trimStart core.reverse = core.reverse := by
      apply trimStart_of_head
      intro c hc
      exact hcore c (List.mem_reverse.1 (List.mem_of_mem_head? hc))
    exact (congrArg List.reverse reversed).trans (List.reverse_reverse core)
  rw [List.append_assoc, trim, trimStart_append hfront]
  rcases core with _ | ⟨c, core⟩
  · rw [List.nil_append, ← List.append_nil back, trimStart_append hback]
    rfl
  · rw [trimStart_of_head, trimEnd_append hback, whole]
    simp [hcore c]

/-- A text without blanks is left as it is. -/
theorem trim_eq_self (h : ∀ c ∈ cs, isBlank c = false) : trim cs = cs := by
  have between : trim ([] ++ cs ++ []) = cs := trim_between (by simp [Blank]) (by simp [Blank]) h
  simpa using between

/-- Nothing is left just of a text of blanks. -/
theorem trim_eq_nil_iff : trim cs = [] ↔ Blank cs := by
  constructor
  · intro h
    obtain ⟨front, back, hfront, hback, split⟩ := exists_trim cs
    rw [h, List.append_nil] at split
    intro c hc
    rw [split] at hc
    rcases List.mem_append.1 hc with hc | hc
    · exact hfront c hc
    · exact hback c hc
  · intro h
    have between : trim (cs ++ [] ++ []) = [] := trim_between h (by simp [Blank]) (by simp)
    simpa using between

end Credentials.Text
