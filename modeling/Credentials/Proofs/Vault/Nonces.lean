import Credentials.Proofs.Vault.RoundTrip

/-!
# Nonces over whole runs

Any number of encryptors share one source of random bytes. In a run of any length, whatever is sealed,
opened, stored and loaded, and whatever fails:

* `Seals`, `requests_succ` — a step that seals makes one request, for twelve bytes, also if its payload
  is too long and it fails; no other step makes any.
* `requests_eq` — so the step that seals after `k` others gets the answer at place `k`, and
  `Seals.getElem?_run` is what it says then.
* `nonces_sublist` — the nonces of the sealed envelopes are answers of the source, each at most once and
  in order. `nonces_run`: if no payload is too long, they are all of them.
* `Encryptor.sealed_inj` — under one key, envelopes are equal if and only if their nonces and their
  payloads are.
* `nonces_in_order` — all of this together: **no nonce comes twice unless the source repeats an
  answer**.
-/

namespace Credentials.Vault

/-! ## Equal envelopes -/

/-- Sealing loses neither the nonce nor the payload. -/
theorem Encryptor.sealed_inj {e : Encryptor} {draw draw' : Gcm.Nonce} {payload payload' : Bytes} :
    e.sealed draw payload = e.sealed draw' payload' ↔ draw = draw' ∧ payload = payload' := by
  constructor
  · intro h
    have nonces : draw.toList = draw'.toList := congrArg Envelope.nonce h
    obtain rfl : draw = draw' := Vector.toList_inj.1 nonces
    exact ⟨rfl, Gcm.sealText_injective (congrArg Envelope.ciphertext h)⟩
  · rintro ⟨rfl, rfl⟩
    rfl

namespace Run

/-! ## Steps -/

/-- The step seals a payload: bytes, or the bytes of a text. -/
inductive Seals : Step → Encryptor → Bytes → Prop where
  | bytes (e : Encryptor) (payload : Bytes) : Seals (.encrypt e payload) e payload
  | text (e : Encryptor) (payload : String) :
      Seals (.encryptText e payload) e (Utf8.ofString payload)

/-- The steps that draw bytes are those that seal. -/
theorem draws_iff {step : Step} : draws step = true ↔ ∃ e payload, Seals step e payload := by
  constructor
  · intro h
    cases step with
    | encrypt e payload => exact ⟨e, payload, .bytes e payload⟩
    | encryptText e payload => exact ⟨e, _, .text e payload⟩
    | decrypt | decryptText | decryptEnvelope | store | load => cases h
  · rintro ⟨e, payload, ⟨⟩⟩ <;> rfl

instance (step : Step) : Decidable (∃ e payload, Seals step e payload) :=
  decidable_of_iff (draws step = true) draws_iff

/-- How many of the steps seal. -/
def seals (steps : List Step) : Nat := steps.countP fun step => ∃ e payload, Seals step e payload

section steps

variable {source source' : RandomSource} {asked asked' : List Nat} {step : Step} {e : Encryptor}
  {payload : Bytes}

/-- A step that seals says the envelope of its payload under the nonce that it draws, unless the
payload is too long. -/
theorem Seals.outcome_eq (h : Seals step e payload) :
    outcome source asked step =
      if payload.length ≤ Gcm.maxText then ⟨.sealed (e.sealed (draw source asked) payload), []⟩
      else ⟨.failed .encryption, []⟩ := by
  cases h <;> exact ofResult_encrypt e (draw source asked) _

/-- Any other step says the same whatever the source has given and will give. -/
theorem outcome_of_not_draws (h : draws step = false) :
    outcome source asked step = outcome source' asked' step :=
  Drawing.given_eq_of_not_asks h _ _

/-- A step that seals makes one request. -/
theorem Seals.after_eq (h : Seals step e payload) : after asked step = 12 :: asked :=
  if_pos (draws_iff.2 ⟨e, payload, h⟩)

/-- Any other step makes no request. -/
theorem after_of_not_seals (h : ¬ ∃ e payload, Seals step e payload) : after asked step = asked :=
  if_neg (mt draws_iff.1 h)

/-- One more step seals. -/
theorem Seals.seals_cons (h : Seals step e payload) (steps : List Step) :
    seals (step :: steps) = seals steps + 1 :=
  List.countP_cons_of_pos (decide_eq_true ⟨e, payload, h⟩)

/-- No more steps seal. -/
theorem seals_cons_of_not_seals (h : ¬ ∃ e payload, Seals step e payload) (steps : List Step) :
    seals (step :: steps) = seals steps :=
  List.countP_cons_of_neg (mt of_decide_eq_true h)

end steps

/-! ## Envelopes -/

/-- The envelope that was sealed, if one was. -/
def Outcome.sealed? : Outcome → Option Envelope
  | ⟨.sealed envelope, _⟩ => some envelope
  | _ => none

/-- The envelopes that were sealed, in order. -/
def envelopes (outcomes : List Outcome) : List Envelope := outcomes.filterMap Outcome.sealed?

section envelopes

variable {source : RandomSource} {asked : List Nat} {step : Step}

/-- A step that seals gives the envelope of its payload, unless this is too long. -/
theorem Seals.sealed?_eq {e : Encryptor} {payload : Bytes} (h : Seals step e payload) :
    (outcome source asked step).sealed? =
      if payload.length ≤ Gcm.maxText then some (e.sealed (draw source asked) payload)
      else none := by
  rw [h.outcome_eq]
  split <;> rfl

/-- Any other step gives no envelope. -/
theorem sealed?_of_not_seals (h : ¬ ∃ e payload, Seals step e payload) :
    (outcome source asked step).sealed? = none := by
  have opening {α : Type} {say : α → Answer} (x : Except Failure α)
      (other : ∀ a, (⟨say a, []⟩ : Outcome).sealed? = none) :
      (Outcome.ofResult say x).sealed? = none := by
    cases x with
    | ok a => exact other a
    | error f => rfl
  have loading (x : Option Envelope) :
      (⟨(x.map .loaded).getD .unreadable, []⟩ : Outcome).sealed? = none := by
    cases x <;> rfl
  cases step with
  | encrypt e payload => exact absurd ⟨e, payload, .bytes e payload⟩ h
  | encryptText e payload => exact absurd ⟨e, _, .text e payload⟩ h
  | decrypt | decryptText | decryptEnvelope =>
    apply opening
    intro a
    rfl
  | store => rfl
  | load => exact loading _

end envelopes

/-! ## Runs -/

variable (source : RandomSource) (asked : List Nat)

/-- A run of no steps requests nothing. -/
@[simp] theorem run_nil : run source asked [] = ([], asked) := rfl

/-- A run is its first step, and then the others with its requests made. -/
@[simp] theorem run_cons (step : Step) (steps : List Step) :
    run source asked (step :: steps) =
      (outcome source asked step :: (run source (after asked step) steps).1,
        (run source (after asked step) steps).2) := rfl

/-- The requests made before the step at place `i`. -/
def requests (steps : List Step) (i : Nat) : List Nat := (run source asked (steps.take i)).2

/-- The requests that a run makes: one for each step that seals. -/
theorem run_snd (steps : List Step) :
    (run source asked steps).2 = List.replicate (seals steps) 12 ++ asked := by
  induction steps generalizing asked with
  | nil => rfl
  | cons step steps ih =>
    rw [run_cons, ih]
    by_cases h : ∃ e payload, Seals step e payload
    · obtain ⟨e, payload, sealing⟩ := h
      rw [sealing.after_eq, sealing.seals_cons, List.replicate_succ', List.append_assoc]
      rfl
    · rw [after_of_not_seals h, seals_cons_of_not_seals h]

/-- The requests made before a place: one for each step before it that seals. -/
theorem requests_eq (steps : List Step) (i : Nat) :
    requests source asked steps i = List.replicate (seals (steps.take i)) 12 ++ asked :=
  run_snd source asked (steps.take i)

/-- What a step adds to the requests. -/
theorem requests_succ {steps : List Step} {i : Nat} {step : Step} (h : steps[i]? = some step) :
    requests source asked steps (i + 1) = after (requests source asked steps i) step := by
  have split : steps.take (i + 1) = steps.take i ++ [step] := by
    rw [List.take_add_one, h]
    rfl
  have counted : seals (steps.take (i + 1)) = seals (steps.take i) + seals [step] := by
    rw [split]
    exact List.countP_append
  rw [requests_eq, requests_eq, counted]
  by_cases seals : ∃ e payload, Seals step e payload
  · obtain ⟨e, payload, sealing⟩ := seals
    rw [sealing.after_eq, sealing.seals_cons]
    rfl
  · rw [after_of_not_seals seals, seals_cons_of_not_seals seals]
    rfl

/-- The outcome at a place of a run is that of its step after the requests made before. -/
theorem getElem?_run (steps : List Step) (i : Nat) :
    (run source asked steps).1[i]? =
      steps[i]?.map (outcome source (requests source asked steps i)) := by
  induction steps generalizing asked i with
  | nil => rfl
  | cons first steps ih =>
    cases i with
    | zero => rfl
    | succ i =>
      rw [run_cons, List.getElem?_cons_succ, List.getElem?_cons_succ]
      exact ih (after asked first) i

/-! ## Nonces -/

/-- The answer of the source to the request at place `k`. -/
def drawn (k : Nat) : Gcm.Nonce := draw source (List.replicate k 12 ++ asked)

/-- The answers of the source to the first requests for nonces. -/
def answers (n : Nat) : List Bytes := (List.range n).map fun k => (drawn source asked k).toList

/-- The first answer, and then those after one more request. -/
theorem answers_succ (n : Nat) :
    answers source asked (n + 1) = (draw source asked).toList :: answers source (12 :: asked) n := by
  have later (k : Nat) : drawn source asked (k + 1) = drawn source (12 :: asked) k := by
    rw [drawn, List.replicate_succ', List.append_assoc]
    rfl
  rw [answers, List.range_succ_eq_map, List.map_cons, List.map_map]
  simp only [Function.comp_def, Nat.succ_eq_add_one, later]
  rfl

section runs

variable {source asked} {steps : List Step} {i : Nat} {step : Step} {e : Encryptor}
  {payload : Bytes} {envelope : Envelope}

/-- The step that seals after `k` others does so under the answer at place `k`. -/
theorem Seals.getElem?_run (sealing : Seals step e payload) (h : steps[i]? = some step) :
    (run source asked steps).1[i]? = some (
      if payload.length ≤ Gcm.maxText then
        ⟨.sealed (e.sealed (drawn source asked (seals (steps.take i))) payload), []⟩
      else ⟨.failed .encryption, []⟩) := by
  rw [Run.getElem?_run, h, Option.map_some, sealing.outcome_eq, requests_eq]
  rfl

/-- The envelope that a step has sealed is that of its payload under the answer that it got. -/
theorem Seals.eq_sealed (sealing : Seals step e payload) (h : steps[i]? = some step)
    {log : List Event} (answer : (run source asked steps).1[i]? = some ⟨.sealed envelope, log⟩) :
    envelope = e.sealed (drawn source asked (seals (steps.take i))) payload := by
  rw [sealing.getElem?_run h] at answer
  split at answer
  case isTrue =>
    cases answer
    rfl
  case isFalse => cases answer

/-- Only steps that seal give envelopes. -/
theorem exists_seals {log : List Event}
    (answer : (run source asked steps).1[i]? = some ⟨.sealed envelope, log⟩) :
    ∃ step e payload, steps[i]? = some step ∧ Seals step e payload := by
  rw [getElem?_run, Option.map_eq_some_iff] at answer
  obtain ⟨step, h, said⟩ := answer
  by_cases seals : ∃ e payload, Seals step e payload
  · obtain ⟨e, payload, sealing⟩ := seals
    exact ⟨step, e, payload, h, sealing⟩
  · have empty : (outcome source (requests source asked steps i) step).sealed? = none :=
      sealed?_of_not_seals seals
    rw [said] at empty
    cases empty

end runs

/-- The nonces of the sealed envelopes are answers of the source, in order. A step that seals and fails
uses up an answer. -/
theorem nonces_sublist (steps : List Step) :
    ((envelopes (run source asked steps).1).map Envelope.nonce).Sublist
      (answers source asked (seals steps)) := by
  induction steps generalizing asked with
  | nil => exact List.nil_sublist _
  | cons step steps ih =>
    rw [run_cons, envelopes]
    by_cases h : ∃ e payload, Seals step e payload
    · obtain ⟨e, payload, sealing⟩ := h
      have later := ih (12 :: asked)
      rw [sealing.seals_cons, answers_succ, sealing.after_eq]
      by_cases within : payload.length ≤ Gcm.maxText
      · rw [List.filterMap_cons_some (sealing.sealed?_eq.trans (if_pos within)), List.map_cons]
        exact later.cons_cons _
      · rw [List.filterMap_cons_none (sealing.sealed?_eq.trans (if_neg within))]
        exact later.cons _
    · rw [List.filterMap_cons_none (sealed?_of_not_seals h), after_of_not_seals h,
        seals_cons_of_not_seals h]
      exact ih asked

/-- No payload of the steps is too long to be sealed. -/
def AllWithin (steps : List Step) : Prop :=
  ∀ step ∈ steps, ∀ e payload, Seals step e payload → payload.length ≤ Gcm.maxText

/-- If no payload is too long, then there is an envelope for every step that seals. -/
theorem length_envelopes {steps : List Step} (within : AllWithin steps) :
    (envelopes (run source asked steps).1).length = seals steps := by
  induction steps generalizing asked with
  | nil => rfl
  | cons step steps ih =>
    obtain ⟨first, within⟩ := List.forall_mem_cons.1 within
    have later := ih (after asked step) within
    rw [run_cons, envelopes]
    by_cases h : ∃ e payload, Seals step e payload
    · obtain ⟨e, payload, sealing⟩ := h
      rw [List.filterMap_cons_some (sealing.sealed?_eq.trans (if_pos (first e payload sealing))),
        sealing.seals_cons, List.length_cons]
      exact congrArg (· + 1) later
    · rw [List.filterMap_cons_none (sealed?_of_not_seals h), seals_cons_of_not_seals h]
      exact later

/-- If no payload is too long, then the nonces of the envelopes are all the answers. -/
theorem nonces_run {steps : List Step} (within : AllWithin steps) :
    (envelopes (run source asked steps).1).map Envelope.nonce =
      answers source asked (seals steps) := by
  apply (nonces_sublist source asked steps).eq_of_length
  rw [List.length_map, length_envelopes source asked within, answers, List.length_map,
    List.length_range]

/-- If no payload is too long, then the nonce of the envelope at place `k` is the answer at place
`k`. -/
theorem nonce_of_getElem? {steps : List Step} (within : AllWithin steps) {k : Nat}
    {envelope : Envelope} (h : (envelopes (run source asked steps).1)[k]? = some envelope) :
    envelope.nonce = (drawn source asked k).toList := by
  have nonces := congrArg (fun ns => ns[k]?) (nonces_run source asked within)
  have bound : k < seals steps := by
    rw [← length_envelopes source asked within]
    exact (List.getElem?_eq_some_iff.1 h).1
  simpa [answers, h, bound] using nonces

/-- No nonce comes twice if no answer does. -/
theorem nodup_nonces {steps : List Step}
    (fresh : ∀ j k, j < k → k < seals steps → drawn source asked j ≠ drawn source asked k) :
    ((envelopes (run source asked steps).1).map Envelope.nonce).Nodup := by
  apply (nonces_sublist source asked steps).nodup
  rw [answers, List.Nodup, List.pairwise_map]
  apply List.Pairwise.imp_of_mem ?_ List.pairwise_lt_range
  intro j k _ hk lt same
  exact fresh j k lt (List.mem_range.1 hk) (Vector.toList_inj.1 same)

/-- **Nonces come from the source, one for each step that seals and in order.** Every such step makes
one request, for twelve bytes, also if it then fails; no other step makes any or depends on the source.
The step that seals after `k` others gives an envelope with the answer at place `k` as its nonce, or
fails if its payload is too long; and there are no other envelopes. So no nonce comes twice if no answer
does, and if no payload is too long, then the nonce of the envelope at place `k` is the answer at place
`k`. Two steps that seal under one key give equal envelopes if and only if their nonces and payloads are
equal. -/
theorem nonces_in_order (steps : List Step) :
    let outcomes := (run source asked steps).1
    (∀ (i : Nat) (step : Step), steps[i]? = some step →
      ((∃ e payload, Seals step e payload) →
        requests source asked steps (i + 1) = 12 :: requests source asked steps i) ∧
      ((¬ ∃ e payload, Seals step e payload) →
        requests source asked steps (i + 1) = requests source asked steps i ∧
        ∀ source' asked', outcome source' asked' step = outcome source asked step)) ∧
    (run source asked steps).2 = List.replicate (seals steps) 12 ++ asked ∧
    (∀ (i : Nat) (step : Step) (e : Encryptor) (payload : Bytes), steps[i]? = some step →
      Seals step e payload →
      let nonce := source.fill (List.replicate (seals (steps.take i)) 12 ++ asked) 12
      if payload.length ≤ Gcm.maxText then
        ∃ envelope, outcomes[i]? = some ⟨.sealed envelope, []⟩ ∧ envelope.nonce = nonce.toList
      else outcomes[i]? = some ⟨.failed .encryption, []⟩) ∧
    (∀ (i : Nat) (envelope : Envelope) (log : List Event),
      outcomes[i]? = some ⟨.sealed envelope, log⟩ →
      ∃ step e payload, steps[i]? = some step ∧ Seals step e payload) ∧
    (AllWithin steps →
      (envelopes outcomes).length = seals steps ∧
      ∀ (k : Nat) (envelope : Envelope), (envelopes outcomes)[k]? = some envelope →
        envelope.nonce = (source.fill (List.replicate k 12 ++ asked) 12).toList) ∧
    ((∀ j k, j < k → k < seals steps → drawn source asked j ≠ drawn source asked k) →
      ((envelopes outcomes).map Envelope.nonce).Nodup) ∧
    ∀ (i j : Nat) (step step' : Step) (e e' : Encryptor) (payload payload' : Bytes)
      (envelope envelope' : Envelope) (log log' : List Event),
      steps[i]? = some step → steps[j]? = some step' →
      Seals step e payload → Seals step' e' payload' → e.key = e'.key →
      outcomes[i]? = some ⟨.sealed envelope, log⟩ → outcomes[j]? = some ⟨.sealed envelope', log'⟩ →
      (envelope = envelope' ↔ envelope.nonce = envelope'.nonce ∧ payload = payload') := by
  intro outcomes
  refine ⟨?requests, run_snd source asked steps, ?answers, ?only, ?within, ?nodup, ?equal⟩
  case requests =>
    intro i step h
    rw [requests_succ source asked h]
    constructor
    · rintro ⟨e, payload, sealing⟩
      exact sealing.after_eq
    · intro still
      refine ⟨after_of_not_seals still, ?_⟩
      intro source' asked'
      exact outcome_of_not_draws (Bool.eq_false_iff.2 (mt draws_iff.1 still))
  case answers =>
    intro i step e payload h sealing nonce
    have said : outcomes[i]? = some (
        if payload.length ≤ Gcm.maxText then ⟨.sealed (e.sealed nonce payload), []⟩
        else ⟨.failed .encryption, []⟩) := sealing.getElem?_run h
    split
    case isTrue within =>
      rw [if_pos within] at said
      exact ⟨_, said, rfl⟩
    case isFalse long =>
      rw [if_neg long] at said
      exact said
  case only => exact fun i envelope log => exists_seals
  case within =>
    intro within
    refine ⟨length_envelopes source asked within, ?_⟩
    intro k envelope
    exact nonce_of_getElem? source asked within
  case nodup => exact nodup_nonces source asked
  case equal =>
    rintro i j step step' ⟨key⟩ ⟨_⟩ payload payload' envelope envelope' log log' hi hj sealing
      sealing' rfl answer answer'
    obtain rfl := sealing.eq_sealed hi answer
    obtain rfl := sealing'.eq_sealed hj answer'
    rw [Encryptor.sealed_inj (e := ⟨key⟩)]
    exact and_congr_left' Vector.toList_inj.symm

/-- One payload is sealed twice, and in between a payload is sealed that is too long: it fails, and uses
up the second answer. -/
theorem nonces_in_order_same_payload :
    let e : Encryptor := ⟨Vector.replicate 32 0⟩
    let long : Bytes := List.replicate (Gcm.maxText + 1) 0
    let steps : List Step := [.encrypt e [1, 2], .decrypt e [] [], .encrypt e long,
      .encrypt e [1, 2]]
    let outcomes := (run (.counting 254) [16] steps).1
    (run (.counting 254) [16] steps).2 = [12, 12, 12, 16] ∧
      ((envelopes outcomes).map Envelope.nonce).Nodup ∧
      outcomes[2]? = some ⟨.failed .encryption, []⟩ ∧
      ∃ envelope envelope' : Envelope, outcomes[0]? = some ⟨.sealed envelope, []⟩ ∧
        outcomes[3]? = some ⟨.sealed envelope', []⟩ ∧
        envelope'.nonce = List.replicate 12 1 ∧ envelope ≠ envelope' := by
  intro e long steps outcomes
  obtain ⟨-, all, said, -, -, nodup, equal⟩ := nonces_in_order (.counting 254) [16] steps
  have count : seals steps = 3 := rfl
  have before : seals (steps.take 3) = 2 := rfl
  have within : List.length ([1, 2] : Bytes) ≤ Gcm.maxText := by decide
  have tooLong : ¬ long.length ≤ Gcm.maxText := by
    rw [List.length_replicate]
    exact Nat.not_succ_le_self _
  clear_value long
  have first := said 0 _ e [1, 2] rfl (.bytes e _)
  have failed := said 2 _ e long rfl (.bytes e _)
  have last := said 3 _ e [1, 2] rfl (.bytes e _)
  rw [if_pos within] at first last
  rw [if_neg tooLong] at failed
  obtain ⟨envelope, h, nonce⟩ := first
  obtain ⟨envelope', h', nonce'⟩ := last
  rw [before] at nonce'
  refine ⟨?_, ?_, failed, envelope, envelope', h, h', ?_, ?_⟩
  · rw [all, count]
    rfl
  · apply nodup
    intro j k lt within
    rw [count] at within
    have fresh : ∀ k < 3, ∀ j < k,
        drawn (.counting 254) [16] j ≠ drawn (.counting 254) [16] k := by decide
    exact fresh k within j lt
  · rw [nonce']
    decide
  · rw [ne_eq, equal 0 3 _ _ e e [1, 2] [1, 2] _ _ _ _ rfl rfl (.bytes e _) (.bytes e _) rfl h h',
      nonce, nonce']
    rintro ⟨nonces, -⟩
    have apart : drawn (.counting 254) [16] 0 ≠ drawn (.counting 254) [16] 2 := by decide
    exact apart (Vector.toList_inj.1 nonces)

end Run

end Credentials.Vault
