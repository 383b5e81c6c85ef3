import Credentials.Proofs.Time.Shift
import Credentials.Time.Clock

/-!
# Runs of a clock

* `run_append` — a run goes on from the instant that the clock shows.
* `run_snd` — the clock shows the last instant that it was set to or has reached (`moves`).
* `advance_of_overflows`, `advance_of_shift` — an advance is refused if it overflows and leads somewhere
  else, and one that is refused leaves no trace but its answer.
* `run_advances` — away from leap seconds, advances add up. Their order does not count, nor whether
  they are made at once, and an advance can be taken back.
* `clock_runs` — **what a clock shows in the course of any run**.
-/

namespace Credentials.Clock

/-! ## Runs in two parts -/

variable (t : Instant)

/-- No steps leave the clock as it is. -/
@[simp] theorem run_nil : run t [] = ([], t) := rfl

/-- A run is its first step, and then the others from where that leads. -/
@[simp] theorem run_cons (s : Step) (steps : List Step) :
    run t (s :: steps) =
      (answer t s :: (run (after t s) steps).1, (run (after t s) steps).2) := rfl

/-- An advance shows the instant that it leads to, or is out of range. -/
theorem answer_advance (d : Span) :
    answer t (.advance d) = ((t.shift? d).map .shows).getD .outOfRange := rfl

/-- An advance that is out of range leaves the clock. -/
theorem after_advance (d : Span) : after t (.advance d) = (t.shift? d).getD t := rfl

/-- A run goes on from the instant that the clock shows. -/
theorem run_append (before rest : List Step) :
    run t (before ++ rest) =
      ((run t before).1 ++ (run (run t before).2 rest).1, (run (run t before).2 rest).2) := by
  induction before generalizing t with
  | nil => rfl
  | cons s before ih => rw [List.cons_append, run_cons, ih, run_cons, List.cons_append]

/-! ## The last move -/

/-- The instant that a step moves the clock to, by its answer. -/
def move? : Step × Answer → Option Instant
  | (.now, _) => none
  | (_, .outOfRange) => none
  | (_, .shows u) => some u

/-- The instants that the clock is set to or reaches in a run, in order. -/
def moves (steps : List Step) : List Instant := (steps.zip (run t steps).1).filterMap move?

/-- A step leads where its answer says, or leaves the clock. -/
theorem after_eq (s : Step) : after t s = (move? (s, answer t s)).getD t := by
  cases s with
  | now | set => rfl
  | advance d =>
    rw [after_advance, answer_advance]
    cases t.shift? d <;> rfl

/-- The moves of a run are that of its first step, and then the others. -/
theorem moves_cons (s : Step) (steps : List Step) :
    moves t (s :: steps) = (move? (s, answer t s)).toList ++ moves (after t s) steps := by
  unfold moves
  rw [run_cons, List.zip_cons_cons, List.filterMap_cons]
  cases move? (s, answer t s) <;> rfl

/-- The clock shows the last instant that it was set to or has reached. -/
theorem run_snd (steps : List Step) : (run t steps).2 = (moves t steps).getLast?.getD t := by
  induction steps generalizing t with
  | nil => rfl
  | cons s steps ih =>
    rw [run_cons, ih, moves_cons, List.getLast?_append, after_eq]
    cases (moves ((move? (s, answer t s)).getD t) steps).getLast? with
    | some u => rfl
    | none => cases move? (s, answer t s) <;> rfl

/-! ## Advances -/

section advances

variable {t} {u : Instant} {d : Span}

/-- An advance shows an instant just if it leads there. -/
theorem answer_advance_eq_shows_iff : answer t (.advance d) = .shows u ↔ t.shift? d = some u := by
  rw [answer_advance]
  cases t.shift? d <;> simp

/-- An advance is out of range just if it overflows. -/
theorem answer_advance_eq_outOfRange_iff : answer t (.advance d) = .outOfRange ↔ t.Overflows d := by
  rw [← Instant.shift?_eq_none_iff, answer_advance]
  cases t.shift? d <;> simp

/-- An advance that overflows is refused, and leaves no other trace. -/
theorem advance_of_overflows (h : t.Overflows d) (rest : List Step) :
    run t (.advance d :: rest) = (.outOfRange :: (run t rest).1, (run t rest).2) := by
  have stays : after t (.advance d) = t := by
    rw [after_advance, Instant.shift?_eq_none_iff.2 h]
    rfl
  rw [run_cons, stays, answer_advance_eq_outOfRange_iff.2 h]

/-- An advance that leads to an instant shows it, and the run goes on from there. -/
theorem advance_of_shift (h : t.shift? d = some u) (rest : List Step) :
    run t (.advance d :: rest) = (.shows u :: (run u rest).1, (run u rest).2) := by
  have leads : after t (.advance d) = u := by
    rw [after_advance, h]
    rfl
  rw [run_cons, leads, answer_advance_eq_shows_iff.2 h]

/-- The lengths of spans in nanoseconds, added up. -/
def totals (ds : List Span) : Int := ds.foldr (fun d n => d.total + n) 0

/-- The sum of a row of spans begins with the first. -/
theorem totals_cons (d : Span) (ds : List Span) : totals (d :: ds) = d.total + totals ds := rfl

/-- The sum of spans does not depend on their order. -/
theorem totals_eq_of_perm {ds ds' : List Span} (h : ds.Perm ds') : totals ds = totals ds' := by
  induction h with
  | nil => rfl
  | cons d _ ih => exact congrArg (d.total + ·) ih
  | swap d d' ds =>
    simp only [totals, List.foldr_cons]
    omega
  | trans _ _ ih ih' => exact ih.trans ih'

/-- Away from leap seconds, advances of which none is refused add up. -/
theorem run_advances (steady : t.isLeap = false) {ds : List Span}
    (h : .outOfRange ∉ (run t (ds.map .advance)).1) :
    (run t (ds.map .advance)).2.isLeap = false ∧
      (run t (ds.map .advance)).2.sinceEpoch = t.sinceEpoch + totals ds := by
  induction ds generalizing t with
  | nil => exact ⟨steady, (Int.add_zero _).symm⟩
  | cons d ds ih =>
    rw [List.map_cons] at h ⊢
    by_cases out : t.Overflows d
    · rw [advance_of_overflows out] at h
      exact absurd List.mem_cons_self h
    · obtain ⟨u, shift⟩ := Instant.exists_shift out
      rw [advance_of_shift shift] at h ⊢
      obtain ⟨steady', sum⟩ := (Instant.shift?_eq_some_iff_of_not_isLeap steady).1 shift
      obtain ⟨steady'', sum'⟩ := ih steady' fun refused => h (List.mem_cons_of_mem _ refused)
      refine ⟨steady'', ?_⟩
      rw [sum', sum, totals_cons, Int.add_assoc]

/-- Away from leap seconds, an advance by what others add up to leads where these do. -/
theorem advance_totals (steady : t.isLeap = false) {ds : List Span}
    (h : .outOfRange ∉ (run t (ds.map .advance)).1) (total : d.total = totals ds) :
    t.shift? d = some (run t (ds.map .advance)).2 := by
  rw [Instant.shift?_eq_some_iff_of_not_isLeap steady, total]
  exact run_advances steady h

/-- Away from leap seconds, an advance can be taken back. -/
theorem advance_back (steady : t.isLeap = false) (h : t.shift? d = some u) :
    u.shift? (-d) = some t := by
  obtain ⟨steady', sum⟩ := (Instant.shift?_eq_some_iff_of_not_isLeap steady).1 h
  rw [Instant.shift?_eq_some_iff_of_not_isLeap steady', Span.total_neg]
  refine ⟨steady, ?_⟩
  omega

end advances

/-- **What a clock shows in the course of any run.** Reading it gives the last instant that it was set
to or has reached, or else the first one. An advance is refused if its second is out of range, and
only then; the rest of the run is then what it would have been without that step.

Away from leap seconds, an advance is exact addition of nanoseconds and does not lead into a leap
second. Hence any two orders of the same advances lead to the same instant if none is refused, one
advance by what they add up to leads there as well, and an advance can be taken back. From anywhere, an
advance into the future leads to a later instant and one into the past to an earlier one. -/
theorem clock_runs :
    (∀ (start : Instant) (before rest : List Step),
      let answers := (run start before).1
      let shown := (run start before).2
      shown = (moves start before).getLast?.getD start ∧
      run start (before ++ .now :: rest) =
        (answers ++ .shows shown :: (run shown rest).1, (run shown rest).2) ∧
      (∀ u, run start (before ++ .set u :: rest) =
        (answers ++ .shows u :: (run u rest).1, (run u rest).2)) ∧
      ∀ d, if shown.Overflows d then
          run start (before ++ rest) = (answers ++ (run shown rest).1, (run shown rest).2) ∧
          run start (before ++ .advance d :: rest) =
            (answers ++ .outOfRange :: (run shown rest).1, (run shown rest).2)
        else ∃ u, run start (before ++ .advance d :: rest) =
          (answers ++ .shows u :: (run u rest).1, (run u rest).2)) ∧
    (∀ (t : Instant) (d : Span), t.Overflows d ↔ Instant.OutOfRange (
      if t.isLeap = false ∨ d.total ≤ -nanosPerSecond then t.exactSecond d
      else max t.second (t.exactSecond d - 1))) ∧
    (∀ t : Instant, t.isLeap = false →
      (∀ d u, answer t (.advance d) = .shows u ↔
        u.isLeap = false ∧ u.sinceEpoch = t.sinceEpoch + d.total) ∧
      (∀ ds : List Span, .outOfRange ∉ (run t (ds.map .advance)).1 →
        let u := (run t (ds.map .advance)).2
        u.isLeap = false ∧ u.sinceEpoch = t.sinceEpoch + totals ds ∧
        (∀ ds' : List Span, ds'.Perm ds → .outOfRange ∉ (run t (ds'.map .advance)).1 →
          (run t (ds'.map .advance)).2 = u) ∧
        ∀ d, d.total = totals ds → run t [.advance d] = ([.shows u], u)) ∧
      ∀ d u, answer t (.advance d) = .shows u →
        run t [.advance d, .advance (-d)] = ([.shows u, .shows t], t)) ∧
    ∀ (t u : Instant) (d : Span), answer t (.advance d) = .shows u →
      (0 < d.total → t < u) ∧ (d.total < 0 → u < t) := by
  refine ⟨?runs, ?overflows, ?steady, ?order⟩
  case runs =>
    intro start before rest answers shown
    refine ⟨run_snd start before, run_append _ _ _, fun u => run_append _ _ _, ?_⟩
    intro d
    rw [run_append, run_append]
    split
    case isTrue out => exact ⟨rfl, by rw [advance_of_overflows out]⟩
    case isFalse inRange =>
      obtain ⟨u, shift⟩ := Instant.exists_shift inRange
      exact ⟨u, by rw [advance_of_shift shift]⟩
  case overflows =>
    intro t d
    rw [← Instant.shifted_fst]
    rfl
  case steady =>
    intro t steady
    refine ⟨?exact, ?reordered, ?back⟩
    case exact =>
      intro d u
      rw [answer_advance_eq_shows_iff, Instant.shift?_eq_some_iff_of_not_isLeap steady]
    case reordered =>
      intro ds none u
      obtain ⟨steady', sum⟩ := run_advances steady none
      refine ⟨steady', sum, ?_, ?_⟩
      · intro ds' perm none'
        obtain ⟨steady'', sum'⟩ := run_advances steady none'
        rw [totals_eq_of_perm perm, ← sum] at sum'
        exact Instant.eq_of_sinceEpoch_eq steady'' steady' sum'
      · intro d total
        exact advance_of_shift (advance_totals steady none total) []
    case back =>
      intro d u leads
      have shift := answer_advance_eq_shows_iff.1 leads
      rw [advance_of_shift shift, advance_of_shift (advance_back steady shift), run_nil]
  case order =>
    intro t u d leads
    have shift := answer_advance_eq_shows_iff.1 leads
    exact ⟨Instant.lt_of_shift shift, Instant.shift_lt shift⟩

/-- Two orders of three advances over the beginning of a second, and an advance back out of a leap
second. -/
theorem clock_runs_reordered :
    ∃ half ∈ Span.of? 0 500000000, ∃ back ∈ Span.of? (-2) 750000000, ∃ two ∈ Span.ofUnits? 1 2,
      ∃ sum ∈ Span.of? 1 250000000, ∃ epoch ∈ Instant.ofSecond? 0,
      ∃ leap ∈ Instant.of? 59 1500000000, ∃ reached ∈ Instant.of? 1 250000000,
      (run epoch ([half, back, two].map .advance)).2 = reached ∧
        (run epoch ([two, half, back].map .advance)).2 = reached ∧
        run epoch [.advance sum] = ([.shows reached], reached) ∧
        run epoch [.advance sum, .advance (-sum)] = ([.shows reached, .shows epoch], epoch) ∧
        ∃ u, answer leap (.advance back) = .shows u ∧ u < leap := by
  let half : Span := ⟨0, 500000000, by omega, by omega⟩
  let back : Span := ⟨-2, 750000000, by omega, by omega⟩
  let two : Span := ⟨2, 0, by omega, by omega⟩
  let sum : Span := ⟨1, 250000000, by omega, by omega⟩
  let epoch : Instant := ⟨0, 0, by omega, by omega, by omega⟩
  let leap : Instant := ⟨59, 1500000000, by omega, by omega, by omega⟩
  let reached : Instant := ⟨1, 250000000, by omega, by omega, by omega⟩
  let earlier : Instant := ⟨59, 250000000, by omega, by omega, by omega⟩
  refine ⟨half, rfl, back, rfl, two, rfl, sum, rfl, epoch, rfl, leap, rfl, reached, rfl, ?_⟩
  obtain ⟨-, -, steady, order⟩ := clock_runs
  obtain ⟨-, many, taken⟩ := steady epoch (by decide)
  have last : (run epoch ([half, back, two].map .advance)).2 = reached := by decide
  obtain ⟨-, -, reordered, single⟩ := many [half, back, two] (by decide)
  rw [last] at reordered single
  refine ⟨last, ?_, single sum (by decide), ?_, ?_⟩
  · exact reordered [two, half, back] (by decide) (by decide)
  · exact taken sum reached (by decide)
  · exact ⟨earlier, by decide, (order leap earlier back (by decide)).2 (by decide)⟩

end Credentials.Clock
