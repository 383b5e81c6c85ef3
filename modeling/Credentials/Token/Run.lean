import Credentials.Random
import Credentials.Time.Clock
import Credentials.Token.Issue
import Credentials.Token.Validate

/-!
# Runs over tokens

Any number of policies share one clock and one source of random bytes. A `Run.Step` is something to do
with the clock or with a policy; `Run.perform` takes one step and `Run.run` a list of them. A step that
fails leaves everything as it was, except that bytes once drawn stay drawn.

What changes in a run is only the clock and the list of requests made to the source (`Run.State`).
-/

namespace Credentials.Token.Run

/-- What changes in a run. -/
structure State where
  /-- The instant that the clock shows. -/
  now : Instant
  /-- The sizes of the requests made to the source, the latest first. -/
  asked : List Nat
  deriving DecidableEq

/-- Something to do. -/
inductive Step where
  /-- Something to do with the clock. -/
  | clock (step : Clock.Step)
  /-- Issue an access token. -/
  | issueAccess (p : Policy) (user : Uuid) (role : String)
  /-- Issue a refresh token. -/
  | issueRefresh (p : Policy) (user : Uuid)
  /-- Issue one of each. -/
  | issuePair (p : Policy) (user : Uuid) (role : String)
  /-- Validate an access token. -/
  | validateAccess (p : Policy) (token : String)
  /-- Validate a refresh token and ask for its claims. -/
  | validateRefresh (p : Policy) (token : String)
  /-- Validate a refresh token and ask for its user. -/
  | validateUser (p : Policy) (token : String)

/-- What a step says. -/
inductive Answer where
  /-- The answer of the clock. -/
  | clock (answer : Clock.Answer)
  /-- An access token. -/
  | access (token : String)
  /-- A refresh token. -/
  | refresh (token : RefreshToken)
  /-- One of each. -/
  | pair (tokens : TokenPair)
  /-- The claims of an access token. -/
  | accessClaims (claims : AccessClaims)
  /-- The claims of a refresh token. -/
  | refreshClaims (claims : RefreshClaims)
  /-- The user of a refresh token. -/
  | user (id : Uuid)
  /-- The step failed. -/
  | failed (error : TokenError)
  deriving DecidableEq

/-- What a step says, and the events that it logs. -/
structure Outcome where
  /-- The answer. -/
  answer : Answer
  /-- The events in order. -/
  log : List Event
  deriving DecidableEq

namespace Outcome

/-- The outcome of issuing a token; nothing is logged. -/
def ofIssue {α : Type} (say : α → Answer) : Except TokenError α → Outcome
  | .ok a => ⟨say a, []⟩
  | .error e => ⟨.failed e, []⟩

/-- The outcome of validating a token; a rejection is logged. -/
def ofValidation {α : Type} (say : α → Answer) : Except Rejection α → Outcome
  | .ok a => ⟨say a, []⟩
  | .error r => ⟨.failed r.error, [r.event]⟩

end Outcome

/-- The bytes that the source hands out next for an identifier. -/
def draw (source : RandomSource) (s : State) : Vector UInt8 16 := source.fill s.asked 16

/-- The way from a step to what it says and logs, with the bytes for an identifier drawn on it. -/
def attempt (now : Instant) : Step → Drawing 16 Outcome
  | .clock step => .done ⟨.clock (Clock.answer now step), []⟩
  | .issueAccess p user role => .done (.ofIssue .access (p.issueAccess now user role))
  | .issueRefresh p user => (p.refreshing now user).map (.ofIssue .refresh)
  | .issuePair p user role => (p.pairing now user role).map (.ofIssue .pair)
  | .validateAccess p token => .done (.ofValidation .accessClaims (p.validateAccess now token))
  | .validateRefresh p token => .done (.ofValidation .refreshClaims (p.validateRefresh now token))
  | .validateUser p token => .done (.ofValidation .user (p.validateUser now token))

/-- The step draws bytes for an identifier. -/
def draws (s : State) (step : Step) : Bool := (attempt s.now step).asks

/-- What a step says and logs. -/
def outcome (source : RandomSource) (s : State) (step : Step) : Outcome :=
  (attempt s.now step).given (draw source s)

/-- The state after a step. -/
def after (s : State) (step : Step) : State where
  now := match step with
    | .clock c => Clock.after s.now c
    | _ => s.now
  asked := (attempt s.now step).requests s.asked

/-- Takes a step. -/
def perform (source : RandomSource) (s : State) (step : Step) : State × Outcome :=
  (after s step, outcome source s step)

/-- Takes a list of steps: their outcomes in order, and the state in the end. -/
def run (source : RandomSource) (s : State) : List Step → List Outcome × State
  | [] => ([], s)
  | step :: steps =>
    let (outcomes, last) := run source (after s step) steps
    (outcome source s step :: outcomes, last)

end Credentials.Token.Run
