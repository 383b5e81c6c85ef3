import Credentials.Json.Reader
import Credentials.Random
import Credentials.Vault.Encryptor

/-!
# Runs over envelopes

Any number of encryptors share one source of random bytes. A `Run.Step` seals, opens, stores or loads;
`Run.perform` takes one step and `Run.run` a list of them. The only thing that changes in a run is the
list of requests made to the source. A step that fails makes the same requests as one that does not.
-/

namespace Credentials.Vault.Run

/-- Something to do. -/
inductive Step where
  /-- Seal bytes. -/
  | encrypt (e : Encryptor) (payload : Bytes)
  /-- Seal a text. -/
  | encryptText (e : Encryptor) (payload : String)
  /-- Open a payload. -/
  | decrypt (e : Encryptor) (ciphertext nonce : Bytes)
  /-- Open a text. -/
  | decryptText (e : Encryptor) (ciphertext nonce : Bytes)
  /-- Open an envelope. -/
  | decryptEnvelope (e : Encryptor) (envelope : Envelope)
  /-- Write an envelope as JSON. -/
  | store (envelope : Envelope)
  /-- Read an envelope from JSON. -/
  | load (json : String)

/-- What a step says. -/
inductive Answer where
  /-- A sealed payload. -/
  | sealed (envelope : Envelope)
  /-- An opened payload. -/
  | bytes (payload : Bytes)
  /-- An opened text. -/
  | text (payload : String)
  /-- An envelope as JSON. -/
  | stored (json : String)
  /-- An envelope read from JSON. -/
  | loaded (envelope : Envelope)
  /-- The JSON is no envelope. -/
  | unreadable
  /-- The payload was not sealed or not opened. -/
  | failed (failure : Failure)
  deriving DecidableEq

/-- What a step says, and the events that it logs. -/
structure Outcome where
  /-- The answer. -/
  answer : Answer
  /-- The events in order. -/
  log : List Event
  deriving DecidableEq

/-- The outcome of sealing or opening a payload. -/
def Outcome.ofResult {α : Type} (say : α → Answer) : Except Failure α → Outcome
  | .ok a => ⟨say a, []⟩
  | .error f => ⟨.failed f, f.log⟩

/-- The bytes that the source hands out next for a nonce, after requests of these sizes. -/
def draw (source : RandomSource) (asked : List Nat) : Gcm.Nonce := source.fill asked 12

/-- The way from a step to what it says and logs, with the bytes for a nonce drawn on it. -/
def attempt : Step → Drawing 12 Outcome
  | .encrypt e payload => (e.sealing payload).map (.ofResult .sealed)
  | .encryptText e payload => (e.sealingText payload).map (.ofResult .sealed)
  | .decrypt e ciphertext nonce => .done (.ofResult .bytes (e.decrypt ciphertext nonce))
  | .decryptText e ciphertext nonce => .done (.ofResult .text (e.decryptText ciphertext nonce))
  | .decryptEnvelope e envelope => .done (.ofResult .bytes (e.decryptEnvelope envelope))
  | .store envelope => .done ⟨.stored envelope.toJson.text, []⟩
  | .load json =>
    let envelope := (Json.Tree.read? (Utf8.ofString json)).bind Envelope.ofTree?
    .done ⟨(envelope.map .loaded).getD .unreadable, []⟩

/-- The step draws bytes for a nonce. -/
def draws (step : Step) : Bool := (attempt step).asks

/-- What a step says and logs. -/
def outcome (source : RandomSource) (asked : List Nat) (step : Step) : Outcome :=
  (attempt step).given (draw source asked)

/-- The requests made to the source when a step has been taken. -/
def after (asked : List Nat) (step : Step) : List Nat := (attempt step).requests asked

/-- Takes a step. -/
def perform (source : RandomSource) (asked : List Nat) (step : Step) : List Nat × Outcome :=
  (after asked step, outcome source asked step)

/-- Takes a list of steps: their outcomes in order, and the requests made in the end. -/
def run (source : RandomSource) (asked : List Nat) : List Step → List Outcome × List Nat
  | [] => ([], asked)
  | step :: steps =>
    let (outcomes, last) := run source (after asked step) steps
    (outcome source asked step :: outcomes, last)

end Credentials.Vault.Run
