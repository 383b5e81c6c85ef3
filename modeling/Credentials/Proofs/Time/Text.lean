import Credentials.Proofs.Text.Numeral
import Credentials.Proofs.Time.Calendar
import Credentials.Time.Instant

/-!
# Times as text

What a text of RFC 3339 in UTC means is said here by its parts: rows of digits between fixed
characters, a date of the calendar and a time of day.

* `Date.Spelled`, `Instant.TimeSpelled`, `Instant.Rfc3339` — the texts of dates, of times of day and
  of whole seconds.
* `Instant.Rfc3339.unique` — a text means one second only.
* `Instant.rfc3339_text` — **the text of an instant without a fraction means its second**, in whatever
  year that is.
-/

namespace Credentials

/-! ## Rows of digits -/

namespace Decimal

/-- A row of so many digits for a number. -/
def Row (width n : Nat) (cs : List Char) : Prop := cs.length = width ∧ digits? cs = some n

/-- A number that fits its width is padded to a row of it. -/
theorem row_padded {width n : Nat} (pos : 0 < width) (h : n < 10 ^ width) :
    Row width n (padded width n) :=
  ⟨length_padded pos h, digits?_padded width n⟩

/-- A row of digits is of one number. -/
theorem Row.unique {width width' n n' : Nat} {cs : List Char} (h : Row width n cs)
    (h' : Row width' n' cs) : n = n' :=
  Option.some.inj (h.2.symm.trans h'.2)

/-- Behind any two texts the rows of one width are told apart. -/
theorem Row.split {width n n' : Nat} {before before' row row' : List Char} {c : Char}
    (h : Row width n row) (h' : Row width n' row')
    (same : before ++ c :: row = before' ++ c :: row') : before = before' ∧ n = n' := by
  obtain ⟨rfl, rest⟩ := List.append_inj' same (by rw [List.length_cons, List.length_cons, h.1, h'.1])
  obtain rfl := (List.cons.inj rest).2
  exact ⟨rfl, h.unique h'⟩

end Decimal

open Decimal

/-! ## Dates -/

namespace Date

/-- The text of a year: four digits, or a sign and at least four if it is outside 0..9999. -/
inductive YearText : Int → List Char → Prop where
  | plain {n : Nat} {cs : List Char} : Row 4 n cs → YearText n cs
  | negative {width n : Nat} {cs : List Char} :
      4 ≤ width → 0 < n → Row width n cs → YearText (-n) ('-' :: cs)
  | large {width n : Nat} {cs : List Char} :
      4 ≤ width → 9999 < n → Row width n cs → YearText n ('+' :: cs)

/-- The text of a date of the calendar. -/
def Spelled (d : Date) (cs : List Char) : Prop :=
  d.Valid ∧ ∃ year month day, YearText d.year year ∧ Row 2 d.month month ∧ Row 2 d.dayOfMonth day ∧
    cs = year ++ '-' :: month ++ '-' :: day

variable {d d' : Date} {cs : List Char}

/-- The text of a year is a numeral for it. -/
theorem YearText.numeral {year : Int} (h : YearText year cs) : Numeral cs year := by
  cases h with
  | plain row =>
    obtain ⟨ds, isDigits, rfl, rfl⟩ := digits?_eq_some_iff.1 row.2
    exact .plain isDigits
  | negative _ _ row =>
    obtain ⟨ds, isDigits, rfl, rfl⟩ := digits?_eq_some_iff.1 row.2
    exact .minus isDigits
  | large _ _ row =>
    obtain ⟨ds, isDigits, rfl, rfl⟩ := digits?_eq_some_iff.1 row.2
    exact .plus isDigits

/-- A text spells one date. -/
theorem Spelled.unique (h : d.Spelled cs) (h' : d'.Spelled cs) : d = d' := by
  obtain ⟨-, year, month, day, hyear, hmonth, hday, rfl⟩ := h
  obtain ⟨-, year', month', day', hyear', hmonth', hday', same⟩ := h'
  obtain ⟨same, dayOfMonth⟩ := hday.split hday' same
  obtain ⟨rfl, month⟩ := hmonth.split hmonth' same
  have year := hyear.numeral.unique hyear'.numeral
  cases d
  cases d'
  congr

/-- A year is written as a text of it. -/
theorem yearText_yearText (year : Int) : YearText year (yearText year) := by
  unfold yearText
  split
  case isTrue before =>
    have := YearText.negative (le_length_padded 4 year.natAbs) (by omega)
      ⟨rfl, digits?_padded 4 year.natAbs⟩
    rwa [Int.ofNat_natAbs_of_nonpos (by omega), Int.neg_neg] at this
  case isFalse nonneg =>
    obtain ⟨n, rfl⟩ : ∃ n : Nat, year = n := ⟨year.toNat, by omega⟩
    rw [Int.natAbs_natCast]
    split
    case isTrue large =>
      exact .large (le_length_padded 4 n) (by omega) ⟨rfl, digits?_padded 4 n⟩
    case isFalse small => exact .plain (row_padded (by decide) (by omega))

/-- No month has more than 31 days. -/
theorem monthLength_le (year : Int) (month : Nat) : monthLength year month ≤ 31 := by
  unfold monthLength
  repeat' split
  all_goals decide

/-- A date that exists is spelled by its text. -/
theorem Valid.spelled_text (h : d.Valid) : d.Spelled d.text := by
  have month_le := h.month.2
  have day_le := h.dayOfMonth.2
  have := monthLength_le d.year d.month
  refine ⟨h, _, _, _, yearText_yearText d.year, row_padded ?_ ?_, row_padded ?_ ?_, rfl⟩
  all_goals omega

end Date

/-! ## Times of day -/

namespace Instant

/-- The text of a second of the day. -/
def TimeSpelled (secondOfDay : Nat) (cs : List Char) : Prop :=
  ∃ hour < 24, ∃ minute < 60, ∃ second < 60, secondOfDay = 3600 * hour + 60 * minute + second ∧
    ∃ h m s, Row 2 hour h ∧ Row 2 minute m ∧ Row 2 second s ∧ cs = h ++ ':' :: m ++ ':' :: s

/-- A time of day has eight characters. -/
theorem TimeSpelled.length_eq {secondOfDay : Nat} {cs : List Char} (h : TimeSpelled secondOfDay cs) :
    cs.length = 8 := by
  obtain ⟨hour, -, minute, -, second, -, -, h, m, s, hrow, mrow, srow, rfl⟩ := h
  simp [hrow.1, mrow.1, srow.1]

/-- A text spells one time of day. -/
theorem TimeSpelled.unique {time time' : Nat} {cs : List Char} (h : TimeSpelled time cs)
    (h' : TimeSpelled time' cs) : time = time' := by
  obtain ⟨hour, -, minute, -, second, -, rfl, h, m, s, hrow, mrow, srow, rfl⟩ := h
  obtain ⟨hour', -, minute', -, second', -, rfl, h', m', s', hrow', mrow', srow', same⟩ := h'
  obtain ⟨same, rfl⟩ := srow.split srow' same
  obtain ⟨rfl, rfl⟩ := mrow.split mrow' same
  rw [hrow.unique hrow']

/-- A time of day is spelled by its text. -/
theorem timeSpelled_timeText {secondOfDay : Nat} (h : secondOfDay < 86400) :
    TimeSpelled secondOfDay (timeText secondOfDay false) := by
  refine ⟨secondOfDay / 3600, by omega, secondOfDay / 60 % 60, by omega, secondOfDay % 60, by omega,
    by omega, _, _, _, row_padded ?_ ?_, row_padded ?_ ?_, row_padded ?_ ?_, rfl⟩
  all_goals omega

/-! ## Whole seconds -/

/-- The text for the beginning of a Unix second: its date and its time of day in UTC, without a
fraction. -/
def Rfc3339 (second : Int) (cs : List Char) : Prop :=
  ∃ (date : Date) (time : Nat) (dateText timeText : List Char), date.Spelled dateText ∧
    TimeSpelled time timeText ∧ second = 86400 * date.day + time ∧
    cs = dateText ++ 'T' :: timeText ++ ['Z']

/-- A text is that of one second. -/
theorem Rfc3339.unique {second second' : Int} {cs : List Char} (h : Rfc3339 second cs)
    (h' : Rfc3339 second' cs) : second = second' := by
  obtain ⟨date, time, dateText, timeText, hdate, htime, rfl, rfl⟩ := h
  obtain ⟨date', time', dateText', timeText', hdate', htime', rfl, same⟩ := h'
  obtain ⟨rfl, rest⟩ := List.append_inj' (List.append_cancel_right same) (by
    rw [List.length_cons, List.length_cons, htime.length_eq, htime'.length_eq])
  obtain rfl := (List.cons.inj rest).2
  rw [hdate.unique hdate', htime.unique htime']

/-- An instant without a fraction shows its day and its second of that day. -/
theorem text_of_whole {t : Instant} (whole : t.nano = 0) :
    t.text = (Date.ofDay (t.second / 86400)).text ++
      'T' :: timeText (t.second % 86400).toNat false ++ ['Z'] := by
  have noLeap : t.isLeap = false := by
    rw [isLeap, whole]
    rfl
  rw [text, noLeap, whole]
  simp [fractionText]

/-- The text of an instant without a fraction means its second. -/
theorem rfc3339_text {t : Instant} (whole : t.nano = 0) : Rfc3339 t.second t.text := by
  refine ⟨_, _, _, _, (Date.valid_ofDay (t.second / 86400)).spelled_text,
    timeSpelled_timeText (by omega : (t.second % 86400).toNat < 86400), ?_, text_of_whole whole⟩
  rw [Date.day_ofDay]
  omega

end Instant

end Credentials
