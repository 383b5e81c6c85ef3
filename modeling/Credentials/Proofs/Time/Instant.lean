import Credentials.Time.Instant

/-!
# The order of instants

Instants are ordered by their seconds and then by their nanoseconds, so that a leap second comes
after all of the second that it follows. On the scale of nanoseconds since the epoch
(`Instant.sinceEpoch`) it lies over the next second instead; away from leap seconds order and scale
agree.

* `Instant.eq_of_sinceEpoch_eq` — away from leap seconds, an instant is known by its place on the scale.
* `Instant.floor` — the beginning of the second of an instant.
* `Instant.ofSecond?_second` — every second of an instant has a beginning.
* `Instant.floor_le`, `Instant.sinceEpoch_lt_floor` — the instant comes after the beginning of its
  second, and by less than a second unless it is in a leap second.
-/

namespace Credentials.Instant

instance : LE Instant where
  le a b := a.second < b.second ∨ a.second = b.second ∧ a.nano ≤ b.nano

/-- Instants are ordered by their seconds, and within a second by their nanoseconds. -/
theorem le_iff {a b : Instant} :
    a ≤ b ↔ a.second < b.second ∨ a.second = b.second ∧ a.nano ≤ b.nano := Iff.rfl

instance : LT Instant where
  lt a b := a.second < b.second ∨ a.second = b.second ∧ a.nano < b.nano

/-- The strict order goes by seconds and then nanoseconds too. -/
theorem lt_iff {a b : Instant} :
    a < b ↔ a.second < b.second ∨ a.second = b.second ∧ a.nano < b.nano := Iff.rfl

/-- The nanoseconds since the epoch; those of a leap second are counted on from its second. -/
def sinceEpoch (t : Instant) : Int := t.second * nanosPerSecond + t.nano

/-! ## Beginnings of seconds -/

/-- The beginning of the second of an instant. -/
def floor (t : Instant) : Instant :=
  ⟨t.second, 0, t.inRange, by decide, fun h => absurd h (by decide)⟩

/-- An instant and the beginning of its second have that second in common. -/
@[simp] theorem floor_second (t : Instant) : t.floor.second = t.second := rfl

/-- A second begins at zero nanoseconds. -/
@[simp] theorem floor_nano (t : Instant) : t.floor.nano = 0 := rfl

/-- There is an instant at a second and nanosecond just if it is one with these. -/
theorem of?_eq_some_iff {second : Int} {nano : Nat} {t : Instant} :
    of? second nano = some t ↔ t.second = second ∧ t.nano = nano := by
  unfold of?
  constructor
  · intro h
    split at h
    case isTrue =>
      cases h
      exact ⟨rfl, rfl⟩
    case isFalse => cases h
  · rintro ⟨rfl, rfl⟩
    rw [dif_pos ⟨t.inRange, t.nano_lt, t.leap⟩]

/-- The second of an instant has a beginning. -/
theorem ofSecond?_second (t : Instant) : ofSecond? t.second = some t.floor := by
  unfold ofSecond?
  rw [of?_eq_some_iff]
  exact ⟨rfl, rfl⟩

/-- A second begins no later than any of its instants. -/
theorem floor_le (t : Instant) : t.floor ≤ t := by
  rw [le_iff]
  exact .inr ⟨rfl, Nat.zero_le _⟩

/-- Outside a leap second there is less than a second of nanoseconds. -/
theorem nano_lt_of_not_isLeap {t : Instant} (steady : t.isLeap = false) :
    t.nano < nanosPerSecond := by
  unfold isLeap at steady
  exact Nat.lt_of_not_le (of_decide_eq_false steady)

/-- Away from leap seconds no two instants are at one place of the scale. -/
theorem eq_of_sinceEpoch_eq {t u : Instant} (steady : t.isLeap = false) (steady' : u.isLeap = false)
    (same : t.sinceEpoch = u.sinceEpoch) : t = u := by
  have within := nano_lt_of_not_isLeap steady
  have within' := nano_lt_of_not_isLeap steady'
  simp only [sinceEpoch, nanosPerSecond] at *
  have second : t.second = u.second := by omega
  have nano : t.nano = u.nano := by omega
  cases t
  cases u
  cases second
  cases nano
  rfl

/-- Outside a leap second an instant is less than a second after its second began. -/
theorem sinceEpoch_lt_floor {t : Instant} (h : t.isLeap = false) :
    t.sinceEpoch < t.floor.sinceEpoch + nanosPerSecond := by
  have hnano := nano_lt_of_not_isLeap h
  simp only [sinceEpoch, floor_second, floor_nano]
  omega

end Credentials.Instant
