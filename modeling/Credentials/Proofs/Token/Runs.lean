import Credentials.Token.Run

/-!
# Places in a run

The outcome at a place of a run is what its step says in the state that the steps before it have led
to.

* `before` — the state before the step at a place, and `clockAt` the instant that the clock shows
  there.
* `before_succ` — what one step does to it.
* `getElem?_run`, `answerAt_eq` — the outcome at a place, and its answer.
* `answerAt_issueAccess` and the lemmas after it — what the answer of a step says about the call
  that it makes.
-/

namespace Credentials.Token.Run

variable (source : RandomSource) (s : State)

/-- A run of no steps changes nothing. -/
@[simp] theorem run_nil : run source s [] = ([], s) := rfl

/-- A run is its first step, and then the others from the state behind it. -/
@[simp] theorem run_cons (step : Step) (steps : List Step) :
    run source s (step :: steps) =
      (outcome source s step :: (run source (after s step) steps).1,
        (run source (after s step) steps).2) := rfl

/-- The state before the step at place `i`. -/
def before (steps : List Step) (i : Nat) : State := (run source s (steps.take i)).2

/-- The instant that the clock shows at the step at place `i`. -/
def clockAt (steps : List Step) (i : Nat) : Instant := (before source s steps i).now

/-- Before the first step is the state that the run begins with. -/
@[simp] theorem before_zero (steps : List Step) : before source s steps 0 = s := rfl

/-- The state before a later step is that of the run behind the first one. -/
theorem before_cons_succ (step : Step) (steps : List Step) (i : Nat) :
    before source s (step :: steps) (i + 1) = before source (after s step) steps i := rfl

/-- A step leads from the state before it to the state before the next one. -/
theorem before_succ {steps : List Step} {i : Nat} {step : Step} (h : steps[i]? = some step) :
    before source s steps (i + 1) = after (before source s steps i) step := by
  induction steps generalizing s i with
  | nil => cases h
  | cons first steps ih =>
    cases i with
    | zero =>
      cases h
      rfl
    | succ i =>
      rw [before_cons_succ, before_cons_succ]
      exact ih (after s first) h

/-- Beyond the last step nothing changes. -/
theorem before_succ_of_none {steps : List Step} {i : Nat} (h : steps[i]? = none) :
    before source s steps (i + 1) = before source s steps i := by
  rw [before, List.take_add_one, h, Option.toList_none, List.append_nil]
  rfl

/-- The outcome at a place of a run is that of its step in the state before it. -/
theorem getElem?_run (steps : List Step) (i : Nat) :
    (run source s steps).1[i]? = steps[i]?.map (outcome source (before source s steps i)) := by
  induction steps generalizing s i with
  | nil => rfl
  | cons first steps ih =>
    cases i with
    | zero => rfl
    | succ i =>
      rw [run_cons, List.getElem?_cons_succ, List.getElem?_cons_succ, before_cons_succ]
      exact ih (after s first) i

/-! ## Outcomes of issuing -/

/-- A step that issues a refresh token says what comes of it with the bytes drawn next. -/
theorem outcome_issueRefresh (p : Policy) (user : Uuid) :
    outcome source s (.issueRefresh p user) =
      .ofIssue .refresh (p.issueRefresh s.now user (draw source s)) :=
  Drawing.given_map _ _ _

/-- A step that issues a pair says what comes of it with the bytes drawn next. -/
theorem outcome_issuePair (p : Policy) (user : Uuid) (role : String) :
    outcome source s (.issuePair p user role) =
      .ofIssue .pair (p.issuePair s.now user role (draw source s)) :=
  Drawing.given_map _ _ _

/-! ## Answers -/

/-- The answer of the step at place `i`, if the run is that long. -/
def answerAt (steps : List Step) (i : Nat) : Option Answer :=
  ((run source s steps).1[i]?).map Outcome.answer

/-- The answer at a place is that of its step in the state there. -/
theorem answerAt_eq {steps : List Step} {i : Nat} {step : Step} (h : steps[i]? = some step) :
    answerAt source s steps i = some (outcome source (before source s steps i) step).answer := by
  rw [answerAt, getElem?_run, h]
  rfl

/-- The answer of a validation. -/
def Answer.ofValidation {α : Type} (say : α → Answer) : Except Rejection α → Answer
  | .ok a => say a
  | .error r => .failed r.error

/-- What is logged does not change the answer of a validation. -/
theorem answer_ofValidation {α : Type} (say : α → Answer) (x : Except Rejection α) :
    (Outcome.ofValidation say x).answer = Answer.ofValidation say x := by
  cases x <;> rfl

/-- An issuing step answers with what was issued. -/
theorem answer_ofIssue_eq_iff {α : Type} {say : α → Answer} {x : Except TokenError α} {a : α}
    (injective : ∀ a b, say a = say b → a = b) (notFailed : ∀ e, say a ≠ .failed e) :
    (Outcome.ofIssue say x).answer = say a ↔ x = .ok a := by
  cases x with
  | ok b =>
    constructor
    · intro h
      exact congrArg Except.ok (injective b a h)
    · rintro ⟨⟩
      rfl
  | error e =>
    constructor
    · intro h
      exact absurd h.symm (notFailed e)
    · nofun

section answers

variable {source s} {steps : List Step} {i : Nat} {p : Policy} {user : Uuid} {role token : String}

/-- A run answers with an access token just if the policy issues it then. -/
theorem answerAt_issueAccess (step : steps[i]? = some (.issueAccess p user role)) :
    answerAt source s steps i = some (.access token) ↔
      p.issueAccess (clockAt source s steps i) user role = .ok token := by
  rw [answerAt_eq source s step, Option.some.injEq]
  apply answer_ofIssue_eq_iff
  · rintro _ _ ⟨⟩
    rfl
  · nofun

/-- A run answers with a refresh token just if the policy issues it then, with the bytes drawn
there. -/
theorem answerAt_issueRefresh {r : RefreshToken} (step : steps[i]? = some (.issueRefresh p user)) :
    answerAt source s steps i = some (.refresh r) ↔
      p.issueRefresh (clockAt source s steps i) user (draw source (before source s steps i)) =
        .ok r := by
  rw [answerAt_eq source s step, Option.some.injEq, outcome_issueRefresh]
  apply answer_ofIssue_eq_iff
  · rintro _ _ ⟨⟩
    rfl
  · nofun

/-- A run answers with a pair just if the policy issues it then, with the bytes drawn there. -/
theorem answerAt_issuePair {tokens : TokenPair} (step : steps[i]? = some (.issuePair p user role)) :
    answerAt source s steps i = some (.pair tokens) ↔
      p.issuePair (clockAt source s steps i) user role (draw source (before source s steps i)) =
        .ok tokens := by
  rw [answerAt_eq source s step, Option.some.injEq, outcome_issuePair]
  apply answer_ofIssue_eq_iff
  · rintro _ _ ⟨⟩
    rfl
  · nofun

/-- A run answers as an access token is validated then. -/
theorem answerAt_validateAccess (step : steps[i]? = some (.validateAccess p token)) :
    answerAt source s steps i =
      some (.ofValidation .accessClaims (p.validateAccess (clockAt source s steps i) token)) := by
  rw [answerAt_eq source s step]
  exact congrArg some (answer_ofValidation _ _)

/-- A run answers as a refresh token is validated then. -/
theorem answerAt_validateRefresh (step : steps[i]? = some (.validateRefresh p token)) :
    answerAt source s steps i =
      some (.ofValidation .refreshClaims (p.validateRefresh (clockAt source s steps i) token)) := by
  rw [answerAt_eq source s step]
  exact congrArg some (answer_ofValidation _ _)

/-- A run answers as the user of a refresh token is read then. -/
theorem answerAt_validateUser (step : steps[i]? = some (.validateUser p token)) :
    answerAt source s steps i =
      some (.ofValidation .user (p.validateUser (clockAt source s steps i) token)) := by
  rw [answerAt_eq source s step]
  exact congrArg some (answer_ofValidation _ _)

end answers

end Credentials.Token.Run
