import Credentials.Proofs.Time.Instant

/-!
# Shifting instants

Away from leap seconds a shift is exact addition of nanoseconds: `sinceEpoch_shift` on the scale of
nanoseconds since the epoch, and `isLeap_shift` for where it leads; there is no other instant with that
sum (`shift?_eq_some_iff_of_not_isLeap`). A shift by a second or more into the past therefore leads to
an earlier second (`second_lt_of_shift`). `shifted_of_isLeap` is the rule from inside a leap second.

A shift is refused for one reason only: its second is out of range (`Overflows`,
`shift?_eq_none_iff`). `shifted_fst` says in closed form which second that is, also from inside a
leap second. From anywhere, a shift into the future leads to a later instant and one into the past to an
earlier one (`lt_of_shift`, `shift_lt`).

How many seconds a shift gains: `second_of_shift`, and `second_of_whole_shift` for whole seconds.
Shifts by whole seconds keep the order of instants (`second_le_of_whole_shift`).
-/

namespace Credentials

/-! ## Parts of a span -/

namespace Span

/-- A span has negative whole seconds just if it goes back a second at least. -/
theorem wholeSeconds_neg_iff {d : Span} : d.wholeSeconds < 0 ↔ d.total ≤ -nanosPerSecond := by
  unfold wholeSeconds nanosPerSecond
  rw [Int.tdiv_eq_ediv, Int.sign_eq_one_of_pos (by decide)]
  split <;> omega

/-- A span has no whole second just if it is shorter than one, either way. -/
theorem wholeSeconds_eq_zero_iff {d : Span} :
    d.wholeSeconds = 0 ↔ -nanosPerSecond < d.total ∧ d.total < nanosPerSecond := by
  unfold wholeSeconds nanosPerSecond
  rw [Int.tdiv_eq_ediv, Int.sign_eq_one_of_pos (by decide)]
  split <;> omega

/-- The whole seconds and what is left of them make up the span. -/
theorem wholeSeconds_add_subsecond (d : Span) :
    nanosPerSecond * d.wholeSeconds + d.subsecond = d.total :=
  Int.mul_tdiv_add_tmod d.total nanosPerSecond

/-- The range of spans in nanoseconds. -/
theorem total_within (d : Span) :
    -9223372036854775807000000 ≤ d.total ∧ d.total ≤ 9223372036854775807000000 := d.inRange

/-- The span of the same length in the other direction. -/
instance : Neg Span where
  neg d :=
    { second := -d.total / nanosPerSecond
      nano := (-d.total % nanosPerSecond).toNat
      nano_lt := by
        simp only [nanosPerSecond]
        omega
      inRange := by
        have within := d.total_within
        simp only [nanosPerSecond]
        omega }

/-- The opposite span has the opposite length. -/
theorem total_neg (d : Span) : (-d).total = -d.total := by
  have parts := Int.mul_ediv_add_emod (-d.total) nanosPerSecond
  simp only [total, Neg.neg, nanosPerSecond] at *
  omega

end Span

namespace Instant

/-- A shift leads to the instant with the shifted second and nanosecond, if there is one. -/
theorem shift?_eq_some_iff {t t' : Instant} {d : Span} :
    t.shift? d = some t' ↔ t'.second = (t.shifted d).1 ∧ t'.nano = (t.shifted d).2 :=
  of?_eq_some_iff

/-! ## Exact addition -/

/-- The second and the nanoseconds of an exact sum make it up. -/
theorem exactly_sum (second nano shift : Int) :
    (exactly second nano shift).1 * nanosPerSecond + (exactly second nano shift).2 =
      second * nanosPerSecond + nano + shift := by
  simp only [exactly, nanosPerSecond]
  omega

/-- The exact sum never ends in a leap second. -/
theorem exactly_nano_lt (second nano shift : Int) :
    (exactly second nano shift).2 < nanosPerSecond := by
  simp only [exactly, nanosPerSecond]
  omega

/-! ## Away from leap seconds -/

section steady

variable {t t' : Instant} {d : Span} (steady : t.isLeap = false)

include steady

/-- Outside a leap second a shift is the exact sum. -/
theorem shifted_of_not_isLeap (d : Span) : t.shifted d = exactly t.second t.nano d.total := by
  unfold shifted
  rw [steady]
  rfl

/-- A shift is exact addition of nanoseconds. -/
theorem sinceEpoch_shift (h : t.shift? d = some t') :
    t'.sinceEpoch = t.sinceEpoch + d.total := by
  obtain ⟨second, nano⟩ := shift?_eq_some_iff.1 h
  unfold sinceEpoch
  rw [second, nano, shifted_of_not_isLeap steady, exactly_sum]

/-- A shift does not lead into a leap second. -/
theorem isLeap_shift (h : t.shift? d = some t') : t'.isLeap = false := by
  obtain ⟨-, nano⟩ := shift?_eq_some_iff.1 h
  have lt := exactly_nano_lt t.second t.nano d.total
  rw [shifted_of_not_isLeap steady] at nano
  unfold isLeap
  rw [decide_eq_false_iff_not]
  omega

/-- Away from leap seconds, a shift leads to just the instant that the exact sum denotes. -/
theorem shift?_eq_some_iff_of_not_isLeap :
    t.shift? d = some t' ↔ t'.isLeap = false ∧ t'.sinceEpoch = t.sinceEpoch + d.total := by
  constructor
  · intro h
    exact ⟨isLeap_shift steady h, sinceEpoch_shift steady h⟩
  · rintro ⟨steady', sum⟩
    have within := nano_lt_of_not_isLeap steady'
    rw [shift?_eq_some_iff, shifted_of_not_isLeap steady]
    simp only [sinceEpoch, exactly, nanosPerSecond] at *
    omega

/-- A shift by a second or more into the past leads to an earlier second. -/
theorem second_lt_of_shift (h : t.shift? d = some t') (past : d.total ≤ -nanosPerSecond) :
    t'.second < t.second := by
  have sum := sinceEpoch_shift steady h
  have within := nano_lt_of_not_isLeap steady
  simp only [sinceEpoch, nanosPerSecond] at sum within past
  omega

end steady

/-! ## From inside a leap second -/

/-- A shift back by a second or more is exact addition, too; a shorter one stays in the leap second
or its second if it can, and else takes the leap second out of the sum. -/
theorem shifted_of_isLeap {t : Instant} (leap : t.isLeap = true) (d : Span) :
    t.shifted d =
      if d.total ≤ -nanosPerSecond then exactly t.second t.nano d.total
      else if t.nano + d.total < 2 * nanosPerSecond then (t.second, (t.nano + d.total).toNat)
      else exactly t.second (t.nano - nanosPerSecond) d.total := by
  have le : nanosPerSecond ≤ t.nano := of_decide_eq_true leap
  have parts := d.wholeSeconds_add_subsecond
  unfold shifted
  rw [leap, Bool.not_true, if_neg Bool.false_ne_true]
  by_cases back : d.total ≤ -nanosPerSecond
  · have same : (t.second + 1) * nanosPerSecond + ((t.nano : Int) - nanosPerSecond) + d.total =
        t.second * nanosPerSecond + t.nano + d.total := by
      simp only [nanosPerSecond]
      omega
    rw [if_pos (Span.wholeSeconds_neg_iff.2 back), if_pos back, exactly, exactly, same]
  · rw [if_neg (mt Span.wholeSeconds_neg_iff.1 back), if_neg back]
    by_cases stays : t.nano + d.total < 2 * nanosPerSecond
    · have none : d.wholeSeconds = 0 := by
        rw [Span.wholeSeconds_eq_zero_iff]
        omega
      have rest : d.subsecond = d.total := by
        rw [none] at parts
        omega
      rw [if_pos stays, rest, if_pos]
      rw [Bool.and_eq_true, decide_eq_true_eq, decide_eq_true_eq]
      exact ⟨none, stays⟩
    · rw [if_neg stays, if_neg]
      rw [Bool.and_eq_true, decide_eq_true_eq, decide_eq_true_eq]
      rintro ⟨none, within⟩
      rw [none] at parts
      omega

/-! ## Out of range -/

/-- A shift leads to less than a whole second of nanoseconds, unless it stays in a leap second. -/
theorem shifted_snd (t : Instant) (d : Span) :
    (t.shifted d).2 < nanosPerSecond ∨
      t.isLeap = true ∧ (t.shifted d).1 = t.second ∧ (t.shifted d).2 < 2 * nanosPerSecond := by
  cases leap : t.isLeap with
  | false =>
    rw [shifted_of_not_isLeap leap]
    exact .inl (exactly_nano_lt _ _ _)
  | true =>
    rw [shifted_of_isLeap leap]
    split
    case isTrue => exact .inl (exactly_nano_lt _ _ _)
    case isFalse =>
      split
      case isTrue stays =>
        refine .inr ⟨rfl, rfl, ?_⟩
        simp only [nanosPerSecond] at stays ⊢
        omega
      case isFalse => exact .inl (exactly_nano_lt _ _ _)

/-- What a shift leads to has the nanoseconds of an instant. -/
theorem shifted_leap (t : Instant) (d : Span) :
    (t.shifted d).2 < 2000000000 ∧
      (1000000000 ≤ (t.shifted d).2 → (t.shifted d).1 % 60 = 59) := by
  obtain lt | ⟨leap, same, lt⟩ := t.shifted_snd d
  · simp only [nanosPerSecond] at lt
    omega
  · refine ⟨lt, fun _ => ?_⟩
    rw [same]
    exact t.leap (of_decide_eq_true leap)

/-- No instant has this second. -/
def OutOfRange (second : Int) : Prop := second < -8334601228800 ∨ 8210266876799 < second

/-- The second that the shift leads to is out of range. -/
def Overflows (t : Instant) (d : Span) : Prop := OutOfRange (t.shifted d).1

instance (t : Instant) (d : Span) : Decidable (t.Overflows d) :=
  inferInstanceAs (Decidable (_ ∨ _))

/-- A shift is refused exactly if its second is out of range. -/
theorem shift?_eq_none_iff {t : Instant} {d : Span} : t.shift? d = none ↔ t.Overflows d := by
  have nanos := t.shifted_leap d
  unfold shift? of? Overflows OutOfRange
  rw [dite_eq_right_iff]
  constructor
  · intro refused
    by_cases inRange : -8334601228800 ≤ (t.shifted d).1 ∧ (t.shifted d).1 ≤ 8210266876799
    · cases refused ⟨inRange, nanos⟩
    · omega
  · rintro out ⟨inRange, -⟩
    omega

/-- A shift that does not overflow leads to an instant. -/
theorem exists_shift {t : Instant} {d : Span} (inRange : ¬ t.Overflows d) :
    ∃ t', t.shift? d = some t' := by
  rw [← Option.ne_none_iff_exists']
  exact mt shift?_eq_none_iff.1 inRange

-- half a second before the end of the range
example : let late : Instant := ⟨8210266876799, 500000000, by omega, by omega, by omega⟩
    late.Overflows ⟨0, 500000000, by omega, by omega⟩ ∧
      ¬ late.Overflows ⟨0, 499999999, by omega, by omega⟩ := by decide

/-- The second of the exact sum, on the scale of nanoseconds since the epoch. -/
def exactSecond (t : Instant) (d : Span) : Int := (t.sinceEpoch + d.total) / nanosPerSecond

/-- **The second that a shift leads to.** Away from leap seconds it is that of the exact sum, and so
it is for a shift from inside a leap second that goes back by a second or more. Any other shift from
there takes the leap second out of the sum, and does not lead to an earlier second. -/
theorem shifted_fst (t : Instant) (d : Span) :
    (t.shifted d).1 =
      if t.isLeap = false ∨ d.total ≤ -nanosPerSecond then t.exactSecond d
      else max t.second (t.exactSecond d - 1) := by
  have nano_lt := t.nano_lt
  cases leap : t.isLeap with
  | false =>
    rw [shifted_of_not_isLeap leap]
    rfl
  | true =>
    have le : nanosPerSecond ≤ t.nano := of_decide_eq_true leap
    rw [shifted_of_isLeap leap]
    unfold exactSecond sinceEpoch
    by_cases back : d.total ≤ -nanosPerSecond
    · rw [if_pos back, if_pos (.inr back)]
      rfl
    · simp only [back, Bool.true_eq_false, or_self, if_false]
      split
      case isTrue stays =>
        simp only [nanosPerSecond] at *
        omega
      case isFalse leaves =>
        simp only [exactly, nanosPerSecond] at *
        omega

/-! ## Earlier and later -/

section order

variable {t t' : Instant} {d : Span} (h : t.shift? d = some t')

include h

/-- A shift into the future leads to a later instant, also from inside a leap second. -/
theorem lt_of_shift (future : 0 < d.total) : t < t' := by
  obtain ⟨second, nano⟩ := shift?_eq_some_iff.1 h
  have nano_lt := t.nano_lt
  rw [lt_iff, second, nano]
  cases leap : t.isLeap with
  | false =>
    have within := nano_lt_of_not_isLeap leap
    rw [shifted_of_not_isLeap leap]
    simp only [exactly, nanosPerSecond] at *
    omega
  | true =>
    rw [shifted_of_isLeap leap, if_neg (by simp only [nanosPerSecond]; omega)]
    split
    case isTrue stays =>
      refine .inr ⟨rfl, ?_⟩
      simp only
      omega
    case isFalse =>
      simp only [exactly, nanosPerSecond] at *
      omega

/-- A shift into the past leads to an earlier instant, also from inside a leap second. -/
theorem shift_lt (past : d.total < 0) : t' < t := by
  obtain ⟨second, nano⟩ := shift?_eq_some_iff.1 h
  have nano_lt := t.nano_lt
  rw [lt_iff, second, nano]
  cases leap : t.isLeap with
  | false =>
    have within := nano_lt_of_not_isLeap leap
    rw [shifted_of_not_isLeap leap]
    simp only [exactly, nanosPerSecond] at *
    omega
  | true =>
    have le : nanosPerSecond ≤ t.nano := of_decide_eq_true leap
    rw [shifted_of_isLeap leap]
    split
    case isTrue back =>
      simp only [exactly, nanosPerSecond] at *
      omega
    case isFalse stays =>
      have within : t.nano + d.total < 2 * nanosPerSecond := by
        simp only [nanosPerSecond]
        omega
      rw [if_pos within]
      refine .inr ⟨rfl, ?_⟩
      simp only [nanosPerSecond] at *
      omega

end order

/-! ## Seconds gained -/

section gained

variable {t t' u u' : Instant} {d : Span}

/-- Away from leap seconds a shift gains the whole seconds of the span, rounded down, or one more. -/
theorem second_of_shift (steady : t.isLeap = false) (h : t.shift? d = some t') :
    t'.second = t.second + d.second ∨ t'.second = t.second + d.second + 1 := by
  have within := nano_lt_of_not_isLeap steady
  have subsecond := d.nano_lt
  rw [(shift?_eq_some_iff.1 h).1, shifted_of_not_isLeap steady]
  simp only [exactly, Span.total, nanosPerSecond] at *
  omega

/-- A shift by whole seconds gains just these, but on the way back out of a leap second one second
is not counted. -/
theorem second_of_whole_shift (whole : d.nano = 0) (h : t.shift? d = some t') :
    t'.second = t.second + d.second + if t.isLeap ∧ d.second < 0 then 1 else 0 := by
  have total : d.total = d.second * nanosPerSecond := by simp [Span.total, whole]
  have exact : t.exactSecond d = t.second + d.second + t.nano / nanosPerSecond := by
    simp only [exactSecond, sinceEpoch, total, nanosPerSecond]
    omega
  rw [(shift?_eq_some_iff.1 h).1, shifted_fst, exact, total]
  rcases leap : t.isLeap with _ | _
  · have within := nano_lt_of_not_isLeap leap
    simp only [Bool.false_eq_true, false_and, true_or, if_true, if_false, nanosPerSecond] at *
    omega
  · -- the nanoseconds of a leap second count for one second of the exact sum
    have le : nanosPerSecond ≤ t.nano := of_decide_eq_true leap
    have nano_lt := t.nano_lt
    simp only [Bool.true_eq_false, false_or, true_and, nanosPerSecond] at *
    split <;> split <;> omega

/-- Shifts by whole seconds do not lead a later instant to an earlier second. -/
theorem second_le_of_whole_shift (whole : d.nano = 0) (le : t ≤ u) (ht : t.shift? d = some t')
    (hu : u.shift? d = some u') : t'.second ≤ u'.second := by
  rw [second_of_whole_shift whole ht, second_of_whole_shift whole hu]
  rcases le_iff.1 le with earlier | ⟨same, nano⟩
  · split <;> split <;> omega
  · -- within one second, what comes after a leap second is one itself
    have leaps : t.isLeap = true → u.isLeap = true := by
      simp only [isLeap, decide_eq_true_eq]
      omega
    rw [same]
    split
    case isTrue back => simp [leaps back.1, back.2]
    case isFalse => split <;> omega

end gained

end Instant

end Credentials
