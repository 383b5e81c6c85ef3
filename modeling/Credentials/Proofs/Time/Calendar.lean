import Credentials.Time.Calendar

/-!
# Days and dates

The date of a day number is found by division. It is right if counting the days up to it, by the
leap-year rule and the lengths of the months, gives the day number back.

* `daysBeforeYear_succ` — the days before a year are counted by the leap-year rule.
* `yearOfCycle_bounds` — the division finds the year of a cycle that a day falls in.
* `day_marchDate`, `valid_marchDate` — the division finds the month and the day of a year that begins
  in March.
* `day_ofDay`, `valid_ofDay` — **every day number has a date of the calendar, whose day number it is**.
-/

namespace Credentials.Date

/-! ## Counting -/

/-- The date exists: its month has that many days. -/
structure Valid (d : Date) : Prop where
  /-- There are twelve months. -/
  month : 1 ≤ d.month ∧ d.month ≤ 12
  /-- They differ in their lengths. -/
  dayOfMonth : 1 ≤ d.dayOfMonth ∧ d.dayOfMonth ≤ monthLength d.year d.month

/-- The leap day of a year, if it has one. -/
def leapDays (year : Int) : Nat := if isLeap year then 1 else 0

/-- A year has one leap day at most. -/
theorem leapDays_le (year : Int) : leapDays year ≤ 1 := by
  unfold leapDays
  split <;> omega

/-- The leap day of a year, by how many multiples of 4, 100 and 400 are passed. -/
theorem leapDays_succ (year : Int) :
    (leapDays (year + 1) : Int) = (year + 1) / 4 - year / 4 - ((year + 1) / 100 - year / 100) +
      ((year + 1) / 400 - year / 400) := by
  unfold leapDays isLeap
  simp only [Bool.and_eq_true, Bool.or_eq_true, bne_iff_ne, ne_eq, decide_eq_true_eq]
  split <;> omega

/-- Leap days come again after 400 years. -/
theorem leapDays_add_cycles (year cycles : Int) :
    leapDays (year + cycles * 400) = leapDays year := by
  have fourth : (year + cycles * 400) % 4 = year % 4 := by omega
  have hundredth : (year + cycles * 400) % 100 = year % 100 := by omega
  have last : (year + cycles * 400) % 400 = year % 400 := by omega
  rw [leapDays, leapDays, isLeap, isLeap, fourth, hundredth, last]

/-- The days up to the end of a year. -/
theorem daysBeforeYear_add_one (year : Int) :
    daysBeforeYear (year + 1) = 365 * year + year / 4 - year / 100 + year / 400 := by
  rw [daysBeforeYear, Int.add_sub_cancel]

/-- A cycle of 400 years has 146097 days. -/
theorem daysBeforeYear_add_cycles (year cycles : Int) :
    daysBeforeYear (year + cycles * 400) = daysBeforeYear year + cycles * 146097 := by
  simp only [daysBeforeYear]
  have fourths : (year + cycles * 400 - 1) / 4 = (year - 1) / 4 + cycles * 100 := by omega
  have hundreds : (year + cycles * 400 - 1) / 100 = (year - 1) / 100 + cycles * 4 := by omega
  have cycle : (year + cycles * 400 - 1) / 400 = (year - 1) / 400 + cycles := by omega
  rw [fourths, hundreds, cycle]
  omega

/-- A year has 365 days and its leap day. -/
theorem daysBeforeYear_succ (year : Int) :
    daysBeforeYear (year + 1) = daysBeforeYear year + 365 + leapDays year := by
  have leap := leapDays_succ (year - 1)
  rw [Int.sub_add_cancel] at leap
  rw [daysBeforeYear_add_one, daysBeforeYear]
  omega

/-! ## The year of a cycle -/

/-- A day of a cycle by its century, the group of four years in that, and the year in that. A group
ends with a leap day, but the last one of a century only if the cycle ends with it. -/
structure InCycle (d century group year day : Nat) : Prop where
  /-- There are four centuries, the last of which is a day longer. -/
  century_lt : century < 4
  /-- A century has twenty-five groups. -/
  group_lt : group < 25
  /-- A group has four years. -/
  year_lt : year < 4
  /-- The last of them may have a leap day. -/
  day_lt : day < 365 ∨ day = 365 ∧ year = 3 ∧ (group < 24 ∨ century = 3)
  /-- The days before this one. -/
  eq : d = 36524 * century + 1461 * group + 365 * year + day

/-- Each day of a cycle has its place in it. -/
theorem exists_inCycle {d : Nat} (h : d < 146097) :
    ∃ century group year day, InCycle d century group year day := by
  -- the last day of a cycle, or of a group, would begin one more century, or year
  obtain ⟨century, century_lt, dayOfCentury, hcentury, short⟩ : ∃ century < 4, ∃ dayOfCentury,
      d = 36524 * century + dayOfCentury ∧
        (dayOfCentury < 36524 ∨ dayOfCentury = 36524 ∧ century = 3) :=
    ⟨min (d / 36524) 3, by omega, d - 36524 * min (d / 36524) 3, by omega, by omega⟩
  obtain ⟨year, year_lt, day, hyear, day_lt⟩ : ∃ year < 4, ∃ day,
      dayOfCentury % 1461 = 365 * year + day ∧ (day < 365 ∨ day = 365 ∧ year = 3) :=
    ⟨min (dayOfCentury % 1461 / 365) 3, by omega,
      dayOfCentury % 1461 - 365 * min (dayOfCentury % 1461 / 365) 3, by omega, by omega⟩
  refine ⟨century, dayOfCentury / 1461, year, day, century_lt, by omega, year_lt, ?_, by omega⟩
  omega

section InCycle

variable {d century group year day : Nat}

/-- The year of a day is told by its place in the cycle. -/
theorem InCycle.yearOfCycle_eq (h : InCycle d century group year day) :
    yearOfCycle d = 100 * century + 4 * group + year := by
  obtain ⟨century_lt, group_lt, year_lt, day_lt, rfl⟩ := h
  unfold yearOfCycle
  by_cases last : 36524 * century + 1461 * group + 365 * year + day = 146096
  · omega
  -- a day late in a group may be counted one leap day too early, which leaves it in its year
  obtain ⟨early, counted, early_le, early_lt⟩ : ∃ early,
      (36524 * century + 1461 * group + 365 * year + day) / 1460 =
        25 * century + group + early ∧ early ≤ day ∧ day < 365 + early :=
    ⟨(24 * century + group + 365 * year + day) / 1460, by omega, by omega, by omega⟩
  have centuries : (36524 * century + 1461 * group + 365 * year + day) / 36524 = century := by
    omega
  rw [counted, centuries, Nat.div_eq_of_lt (by omega : _ < 146096)]
  omega

/-- The year of a cycle is the one that begins on or before a day and ends behind it. -/
theorem yearOfCycle_bounds {y : Nat} (h : d < 146097) (hy : yearOfCycle d = y) :
    y < 400 ∧ 365 * y + y / 4 - y / 100 ≤ d ∧
      d < 365 * y + y / 4 - y / 100 + 365 + leapDays (y + 1) := by
  obtain ⟨century, group, year, day, place⟩ := exists_inCycle h
  rw [place.yearOfCycle_eq] at hy
  obtain ⟨century_lt, group_lt, year_lt, day_lt, rfl⟩ := place
  have fourths : y / 4 = 25 * century + group := by omega
  have hundreds : y / 100 = century := by omega
  refine ⟨by omega, by omega, ?_⟩
  rw [fourths, hundreds]
  rcases day_lt with common | ⟨rfl, rfl, leap⟩
  · omega
  · have leapDay : leapDays (y + 1) = 1 := by
      rw [← Int.ofNat_inj, leapDays_succ]
      omega
    omega

end InCycle

/-! ## Years from March -/

/-- The date of a day of a year that is counted from March. -/
def marchDate (year : Int) (dayOfYear : Nat) : Date :=
  let m := (5 * dayOfYear + 2) / 153
  let month := if m < 10 then m + 3 else m - 9
  { year := year + (if month ≤ 2 then 1 else 0)
    month := month
    dayOfMonth := dayOfYear - (153 * m + 2) / 5 + 1 }

/-- The day number of the first of March. -/
def firstOfMarch (year : Int) : Int := daysBeforeYear (year + 1) - daysBeforeYear 1970 - 306

/-- The month of a day in a year from March: the same year up to December, and the next year in
January and February. -/
theorem marchDate_cases (year : Int) {dayOfYear : Nat} (h : dayOfYear ≤ 365) :
    (∃ m < 10, 153 * m ≤ 5 * dayOfYear + 2 ∧ 5 * dayOfYear + 2 < 153 * (m + 1) ∧
      marchDate year dayOfYear = ⟨year, m + 3, dayOfYear - (153 * m + 2) / 5 + 1⟩) ∨
    (∃ m < 2, 1530 + 153 * m ≤ 5 * dayOfYear + 2 ∧ 5 * dayOfYear + 2 < 1530 + 153 * (m + 1) ∧
      marchDate year dayOfYear = ⟨year + 1, m + 1, dayOfYear - (1532 + 153 * m) / 5 + 1⟩) := by
  have m_lt : (5 * dayOfYear + 2) / 153 < 12 := by omega
  unfold marchDate
  generalize hm : (5 * dayOfYear + 2) / 153 = m at m_lt ⊢
  by_cases spring : m < 10
  · refine .inl ⟨m, spring, by omega, by omega, ?_⟩
    simp only [spring, if_true]
    rw [if_neg (by omega), Int.add_zero]
  · refine .inr ⟨m - 10, by omega, by omega, by omega, ?_⟩
    simp only [spring, if_false]
    rw [if_pos (by omega)]
    congr 1
    · omega
    · omega

/-- From March on, the lengths of the months repeat after five months of 153 days. -/
theorem monthLength_march (year : Int) {m : Nat} (h : m < 10) :
    monthLength year (m + 3) = (153 * (m + 1) + 2) / 5 - (153 * m + 2) / 5 := by
  have table : ∀ m < 10, monthLength 0 (m + 3) = (153 * (m + 1) + 2) / 5 - (153 * m + 2) / 5 := by
    decide
  have notFebruary : m + 3 ≠ 2 := by omega
  rw [← table m h, monthLength, monthLength, if_neg notFebruary, if_neg notFebruary]

/-- February has 28 days and the leap day. -/
theorem monthLength_february (year : Int) : monthLength year 2 = 28 + leapDays year := by
  rw [monthLength, if_pos rfl, leapDays]
  cases isLeap year <;> rfl

/-- January always has 31 days. -/
theorem monthLength_january (year : Int) : monthLength year 1 = 31 := rfl

/-- From March on the months begin at days that a line with slope 153/5 gives. -/
theorem daysBeforeMonth_march (year : Int) {m : Nat} (h : m < 10) :
    daysBeforeMonth year (m + 3) = 59 + leapDays year + (153 * m + 2) / 5 := by
  induction m with
  | zero =>
    rw [daysBeforeMonth, daysBeforeMonth, daysBeforeMonth, monthLength_february,
      monthLength_january]
    omega
  | succ m ih =>
    rw [Nat.add_right_comm, daysBeforeMonth, ih (by omega), monthLength_march year (by omega)]
    omega

/-- The date of a day of a year from March has the number of that day. -/
theorem day_marchDate (year : Int) {dayOfYear : Nat} (h : dayOfYear ≤ 365) :
    (marchDate year dayOfYear).day = firstOfMarch year + dayOfYear := by
  unfold firstOfMarch
  rcases marchDate_cases year h with ⟨m, m_lt, first, last, same⟩ | ⟨m, m_lt, first, last, same⟩
  · rw [same]
    simp only [day, daysBeforeMonth_march year m_lt, daysBeforeYear_succ]
    omega
  · have days : daysBeforeMonth (year + 1) (m + 1) = 31 * m := by
      obtain rfl | rfl : m = 0 ∨ m = 1 := by omega
      · rfl
      · rfl
    rw [same]
    simp only [day, days]
    omega

/-- The date of a day of a year from March exists. -/
theorem valid_marchDate (year : Int) {dayOfYear : Nat} (h : dayOfYear < 365 + leapDays (year + 1)) :
    (marchDate year dayOfYear).Valid := by
  have leap_le := leapDays_le (year + 1)
  rcases marchDate_cases year (by omega : dayOfYear ≤ 365) with
    ⟨m, m_lt, first, last, same⟩ | ⟨m, m_lt, first, last, same⟩
  all_goals rw [same]
  · refine ⟨by simp only; omega, by simp only; omega, ?_⟩
    simp only [monthLength_march year m_lt]
    omega
  · refine ⟨by simp only; omega, by simp only; omega, ?_⟩
    obtain rfl | rfl : m = 0 ∨ m = 1 := by omega
    · have := monthLength_january (year + 1)
      simp only [Nat.zero_add]
      omega
    · have := monthLength_february (year + 1)
      simp only [Nat.reduceAdd]
      omega

/-! ## All days -/

/-- A day number by the cycle and the year of it that it falls in. -/
theorem exists_marchDate (n : Int) : ∃ year, ∃ dayOfYear : Nat, dayOfYear < 365 + leapDays (year + 1) ∧
    n = firstOfMarch year + dayOfYear ∧ ofDay n = marchDate year dayOfYear := by
  have inCycle : ((n + 719468) % 146097).toNat < 146097 := by omega
  obtain ⟨y_lt, begun, ends⟩ := yearOfCycle_bounds inCycle rfl
  generalize hcycle : (n + 719468) / 146097 = cycle
  generalize hd : ((n + 719468) % 146097).toNat = d at *
  generalize hy : yearOfCycle d = y at *
  refine ⟨y + cycle * 400, d - (365 * y + y / 4 - y / 100), ?_, ?_, ?_⟩
  · rw [Int.add_right_comm, leapDays_add_cycles]
    omega
  · rw [firstOfMarch, Int.add_right_comm, daysBeforeYear_add_cycles, daysBeforeYear_add_one,
      daysBeforeYear]
    omega
  · simp only [ofDay, hcycle, hd, hy]
    rfl

/-- The date of a day number has that number. -/
theorem day_ofDay (n : Int) : (ofDay n).day = n := by
  obtain ⟨year, dayOfYear, day_lt, rfl, same⟩ := exists_marchDate n
  have leap_le := leapDays_le (year + 1)
  rw [same, day_marchDate year (by omega)]

/-- The date of a day number is one of the calendar. -/
theorem valid_ofDay (n : Int) : (ofDay n).Valid := by
  obtain ⟨year, dayOfYear, day_lt, -, same⟩ := exists_marchDate n
  rw [same]
  exact valid_marchDate year day_lt

-- the leap day of year 0, the last day before the years from March begin with cycle 0
example : ofDay (-719469) = ⟨0, 2, 29⟩ := by decide

end Credentials.Date
