import Credentials.Proofs.Time.Text
import Credentials.Proofs.Token.Runs
import Credentials.Proofs.Token.Verdict

/-!
# What a run logs

Only a validation logs anything, and only when it refuses a text.

* `Rejection.message_eq_iff` — the message tells the caller's two errors apart.
* `validateAccess_expired`, `openRefresh_expired` — the last second of use that a verdict of expiry
  names comes from claims that the text is signed over, and it is before the clock's.
* `exists_instant` — from the epoch on, as all such claims have it, it is a second of the calendar.
* `reported_outcome`, `length_log_run` — what one step logs, and how much a run.
* `rejections_logged` — **every refusal is logged once**, over whole runs.
-/

namespace Credentials.Token

/-! ## Refusals -/

/-- The errors of a validation: a text is refused. -/
def TokenError.isRefusal : TokenError → Bool
  | .invalid | .expired => true
  | _ => false

namespace Rejection

/-- Every rejection is the refusal of a text. -/
theorem isRefusal_error (r : Rejection) : r.error.isRefusal = true := by
  cases r <;> rfl

/-- The message of an event tells whether the text has expired. -/
theorem message_eq_iff {r : Rejection} :
    r.event.message = "token has expired" ↔ r.error = .expired := by
  cases r <;> simp [event, error, malformed]

/-- Only an expiry that is over counts as expired. -/
theorem error_eq_expired_iff {r : Rejection} : r.error = .expired ↔ ∃ last, r = .expired last := by
  cases r <;> simp [error]

end Rejection

section issuing

variable {p : Policy} {now : Instant} {user : Uuid} {role : String} {draw : Vector UInt8 16}
  {e : TokenError}

/-- Issuing a token of either kind fails, but refuses no text. -/
theorem issued_error {α : Type} {lifetime : Span} {token : Instant → α}
    (h : (if user.isNil then .error .nilIdentity else (Policy.expiry now lifetime).map token) =
      .error e) : e.isRefusal = false := by
  split at h
  case isTrue =>
    cases h
    rfl
  case isFalse =>
    rw [map_eq_error_iff, Policy.expiry] at h
    split at h
    · cases h
    · cases h
      rfl

/-- What can go wrong with a pair is no refusal of a text. -/
theorem issuePair_error (h : p.issuePair now user role draw = .error e) : e.isRefusal = false := by
  rw [issuePair_eq, bind_eq_error_iff] at h
  rcases h with access | ⟨access, -, refresh⟩
  · exact issued_error access
  · rw [map_eq_error_iff, issueRefresh_eq] at refresh
    exact issued_error refresh

end issuing

/-! ## Expired texts -/

section expired

variable {p : Policy} {now : Instant} {token : String} {last : Timestamp}

/-- Expiry is found in the claims of a text that got past its signature. -/
theorem exists_judged {α β : Type} {secret : String} {read : Json.Tree → Option α}
    {judge : α → Except Rejection β}
    (h : verified secret read token >>= judge = .error (.expired last)) :
    ∃ payload c, Signed secret token payload ∧ Says read payload c ∧
      judge c = .error (.expired last) := by
  rcases bind_eq_error_iff.1 h with fault | ⟨c, verified, h⟩
  · cases verified_invalid fault
  · obtain ⟨payload, signed, hsays⟩ := verified_eq_ok_iff.1 verified
    exact ⟨payload, c, signed, hsays, h⟩

/-- Access claims that are found expired are. -/
theorem judgeAccess_expired {c : AccessClaims} (h : judgeAccess now c = .error (.expired last)) :
    c.expires = last ∧ last.toInt < now.second := by
  by_cases user : c.user = .nil
  · rw [judgeAccess_nil user] at h
    cases h
  · rw [judgeAccess_eq user] at h
    split at h
    case isTrue => cases h
    case isFalse =>
      split at h
      case isTrue past =>
        cases h
        exact ⟨rfl, past⟩
      case isFalse => cases h

/-- Refresh claims that are found expired are. -/
theorem judgeRefresh_expired {c : RefreshClaims} (h : judgeRefresh now c = .error (.expired last)) :
    c.expires = last ∧ last.toInt < now.second := by
  by_cases named : c.Named
  · obtain ⟨user, id, subject, hnil, tokenId⟩ := named
    rw [judgeRefresh_eq subject hnil tokenId] at h
    split at h
    case isTrue past =>
      cases h
      exact ⟨rfl, past⟩
    case isFalse => cases h
  · have invalid := judgeRefresh_unnamed named now
    rw [h] at invalid
    cases invalid

/-- A text that has expired as an access token is signed over claims that say so. -/
theorem validateAccess_expired (h : p.validateAccess now token = .error (.expired last)) :
    ∃ payload c, Signed p.accessSecret token payload ∧ Says AccessClaims.ofTree? payload c ∧
      c.expires = last ∧ last.toInt < now.second := by
  rw [validateAccess_eq] at h
  obtain ⟨payload, c, signed, hsays, judged⟩ := exists_judged h
  exact ⟨payload, c, signed, hsays, judgeAccess_expired judged⟩

/-- A refresh token that is found expired is signed over claims that are. -/
theorem openRefresh_expired (h : p.openRefresh now token = .error (.expired last)) :
    ∃ payload c, Signed p.refreshSecret token payload ∧ Says RefreshClaims.ofTree? payload c ∧
      c.expires = last ∧ last.toInt < now.second := by
  rw [openRefresh_eq] at h
  obtain ⟨payload, c, signed, hsays, judged⟩ := exists_judged h
  exact ⟨payload, c, signed, hsays, judgeRefresh_expired judged⟩

/-- A second from the epoch up to that of an instant is one of the calendar. -/
theorem exists_instant (nonneg : 0 ≤ last.toInt) (past : last.toInt < now.second) :
    ∃ t : Instant, t.second = last.toInt ∧ t.nano = 0 ∧
      (Rejection.expired last).event.fields =
        [("expired_at", "Some(" ++ String.ofList t.text ++ ")")] := by
  have inRange := now.inRange
  let t : Instant := ⟨last.toInt, 0, by omega, by omega, by omega⟩
  have found : Instant.ofSecond? last.toInt = some t := Instant.ofSecond?_second t
  refine ⟨t, rfl, rfl, ?_⟩
  rw [Rejection.event, Rejection.expiryText, found]

end expired

/-! ## Steps -/

namespace Run

/-- The step validates a text. -/
def Step.Validates : Step → Prop
  | .validateAccess _ _ | .validateRefresh _ _ | .validateUser _ _ => True
  | _ => False

/-- The step validates a text that is signed over claims with this expiry. -/
inductive Step.Expires : Step → Timestamp → Prop where
  | access {p : Policy} {token : String} {payload : Bytes} {c : AccessClaims} :
      Signed p.accessSecret token payload → Says AccessClaims.ofTree? payload c →
      Expires (.validateAccess p token) c.expires
  | refresh {p : Policy} {token : String} {payload : Bytes} {c : RefreshClaims} :
      Signed p.refreshSecret token payload → Says RefreshClaims.ofTree? payload c →
      Expires (.validateRefresh p token) c.expires
  | user {p : Policy} {token : String} {payload : Bytes} {c : RefreshClaims} :
      Signed p.refreshSecret token payload → Says RefreshClaims.ofTree? payload c →
      Expires (.validateUser p token) c.expires

/-- An expiry that can be read is not before the epoch. -/
theorem Step.Expires.nonneg {step : Step} {last : Timestamp} (h : step.Expires last) :
    0 ≤ last.toInt := by
  cases h with
  | access _ hsays => exact expires_nonneg_of_access hsays
  | refresh _ hsays => exact expires_nonneg_of_refresh hsays
  | user _ hsays => exact expires_nonneg_of_refresh hsays

/-- The answer refuses a text. -/
def Answer.isRefusal : Answer → Bool
  | .failed e => e.isRefusal
  | _ => false

/-- What is logged together with an answer: one event for a refusal, which tells whether the text has
expired, and else none. -/
inductive Outcome.Reported (now : Instant) (step : Step) : Outcome → Prop where
  | silent {answer : Answer} : answer.isRefusal = false →
      (step.Validates → ∀ e, answer ≠ .failed e) → Reported now step ⟨answer, []⟩
  | refusal {r : Rejection} : step.Validates →
      (∀ last, r = .expired last → step.Expires last ∧ last.toInt < now.second) →
      Reported now step ⟨.failed r.error, [r.event]⟩

section steps

variable {now : Instant} {step : Step} {out : Outcome} {α : Type} {say : α → Answer}

/-- An issuing step logs nothing, since its errors are no refusals. -/
theorem reported_ofIssue {x : Except TokenError α} (h : ¬ step.Validates)
    (notRefused : ∀ a, (say a).isRefusal = false) (errors : ∀ e, x = .error e → e.isRefusal = false) :
    Outcome.Reported now step (.ofIssue say x) := by
  cases x with
  | ok a => exact .silent (notRefused a) (absurd · h)
  | error e => exact .silent (errors e rfl) (absurd · h)

/-- A validating step logs its refusals, and tells the expiry just when that is over. -/
theorem reported_ofValidation {x : Except Rejection α} (h : step.Validates)
    (notFailed : ∀ a e, say a ≠ .failed e) (notRefused : ∀ a, (say a).isRefusal = false)
    (expired : ∀ last, x = .error (.expired last) → step.Expires last ∧ last.toInt < now.second) :
    Outcome.Reported now step (.ofValidation say x) := by
  cases x with
  | ok a => exact .silent (notRefused a) fun _ => notFailed a
  | error r =>
    refine .refusal h fun last same => expired last ?_
    rw [same]

/-- Each step logs what belongs to its answer. -/
theorem reported_outcome (source : RandomSource) (s : State) (step : Step) :
    Outcome.Reported s.now step (outcome source s step) := by
  cases step with
  | clock c => exact .silent rfl nofun
  | issueAccess p user role =>
    exact reported_ofIssue id (fun _ => rfl) fun e h => issued_error h
  | issueRefresh p user =>
    rw [outcome_issueRefresh, issueRefresh_eq]
    exact reported_ofIssue id (fun _ => rfl) fun e h => issued_error h
  | issuePair p user role =>
    rw [outcome_issuePair]
    exact reported_ofIssue id (fun _ => rfl) fun e h => issuePair_error h
  | validateAccess p token =>
    refine reported_ofValidation trivial nofun (fun _ => rfl) fun last h => ?_
    obtain ⟨payload, c, signed, hsays, rfl, past⟩ := validateAccess_expired h
    exact ⟨.access signed hsays, past⟩
  | validateRefresh p token =>
    refine reported_ofValidation trivial nofun (fun _ => rfl) fun last h => ?_
    obtain ⟨payload, c, signed, hsays, rfl, past⟩ := openRefresh_expired (map_eq_error_iff.1 h)
    exact ⟨.refresh signed hsays, past⟩
  | validateUser p token =>
    refine reported_ofValidation trivial nofun (fun _ => rfl) fun last h => ?_
    obtain ⟨payload, c, signed, hsays, rfl, past⟩ := openRefresh_expired (map_eq_error_iff.1 h)
    exact ⟨.user signed hsays, past⟩

/-- There is one event for a refusal, and else none. -/
theorem Outcome.Reported.length_log (h : out.Reported now step) :
    out.log.length = if out.answer.isRefusal then 1 else 0 := by
  cases h with
  | silent notRefused _ => rw [notRefused]; rfl
  | refusal _ _ => rw [Answer.isRefusal, Rejection.isRefusal_error]; rfl

/-- Nothing is logged unless a validation fails. -/
theorem Outcome.Reported.log_eq_nil (h : out.Reported now step)
    (accepted : ¬ step.Validates ∨ ∀ e, out.answer ≠ .failed e) : out.log = [] := by
  cases h with
  | silent _ _ => rfl
  | refusal validates _ =>
    rcases accepted with issues | notFailed
    · exact absurd validates issues
    · exact absurd rfl (notFailed _)

/-- A validation that fails logs one event. -/
theorem Outcome.Reported.exists_event (h : out.Reported now step)
    (validates : step.Validates) {e : TokenError} (failed : out.answer = .failed e) :
    ∃ event, out.log = [event] := by
  cases h with
  | silent _ notFailed => exact absurd failed (notFailed validates e)
  | refusal _ _ => exact ⟨_, rfl⟩

/-- The message about expiry goes with the answer. -/
theorem Outcome.Reported.expired_iff (h : out.Reported now step) :
    (∃ event ∈ out.log, event.message = "token has expired") ↔ out.answer = .failed .expired := by
  cases h with
  | silent notRefused _ =>
    constructor
    · rintro ⟨_, ⟨⟩, _⟩
    · rintro rfl
      cases notRefused
  | refusal _ _ => simp [Rejection.message_eq_iff]

/-- An expired text shows an instant: its last second of use, which is over. -/
theorem Outcome.Reported.exists_last (h : out.Reported now step) {event : Event}
    (logged : event ∈ out.log) (message : event.message = "token has expired") :
    ∃ (last : Timestamp) (t : Instant), step.Expires last ∧ 0 ≤ last.toInt ∧
      last.toInt < now.second ∧ t.second = last.toInt ∧ t.nano = 0 ∧
      event.fields = [("expired_at", "Some(" ++ String.ofList t.text ++ ")")] := by
  cases h with
  | silent _ _ => cases logged
  | refusal _ expired =>
    obtain rfl := List.mem_singleton.1 logged
    obtain ⟨last, rfl⟩ := Rejection.error_eq_expired_iff.1 (Rejection.message_eq_iff.1 message)
    obtain ⟨expires, past⟩ := expired last rfl
    obtain ⟨t, second, nano, fields⟩ := exists_instant expires.nonneg past
    exact ⟨last, t, expires, expires.nonneg, past, second, nano, fields⟩

end steps

/-! ## Runs -/

/-- A run logs as many events as it refuses texts. -/
theorem length_log_run (source : RandomSource) (s : State) (steps : List Step) :
    ((run source s steps).1.flatMap Outcome.log).length =
      (run source s steps).1.countP fun out => out.answer.isRefusal := by
  induction steps generalizing s with
  | nil => rfl
  | cons step steps ih =>
    rw [run_cons, List.flatMap_cons, List.length_append, ih, List.countP_cons,
      (reported_outcome source s step).length_log, Nat.add_comm]

/-- **Rejections are logged exactly once.** In every run the clock and the issuing of tokens log
nothing, whether they fail or not, and a validation logs nothing if it accepts the text and one event
if it refuses it. That event says that the text has expired if and only if the answer does. It then
shows an instant, and never that there is none: the last second of use in the claims that the text is
signed over, which is not negative and comes before the clock's. -/
theorem rejections_logged (source : RandomSource) (s : State) (steps : List Step) :
    (∀ i step, steps[i]? = some step → ∃ out, (run source s steps).1[i]? = some out ∧
      (¬ step.Validates → out.log = []) ∧
      (step.Validates → (∀ e, out.answer ≠ .failed e) → out.log = []) ∧
      (step.Validates → ∀ e, out.answer = .failed e → ∃ event, out.log = [event]) ∧
      ((∃ event ∈ out.log, event.message = "token has expired") ↔ out.answer = .failed .expired) ∧
      ∀ event ∈ out.log, event.message = "token has expired" →
        ∃ (last : Timestamp) (t : Instant), step.Expires last ∧ 0 ≤ last.toInt ∧
          last.toInt < (clockAt source s steps i).second ∧ t.second = last.toInt ∧ t.nano = 0 ∧
          Instant.Rfc3339 last.toInt t.text ∧
          event.fields = [("expired_at", "Some(" ++ String.ofList t.text ++ ")")]) ∧
    ((run source s steps).1.flatMap Outcome.log).length =
      (run source s steps).1.countP fun out => out.answer.isRefusal := by
  refine ⟨fun i step place => ?_, length_log_run source s steps⟩
  have reported := reported_outcome source (before source s steps i) step
  refine ⟨outcome source (before source s steps i) step, ?_, fun issues => ?_,
    fun _ notFailed => ?_, fun validates e => ?_, reported.expired_iff,
    fun event logged message => ?_⟩
  · rw [getElem?_run, place]
    rfl
  · exact reported.log_eq_nil (.inl issues)
  · exact reported.log_eq_nil (.inr notFailed)
  · exact reported.exists_event validates
  · obtain ⟨last, t, expires, nonneg, past, second, nano, fields⟩ :=
      reported.exists_last logged message
    refine ⟨last, t, expires, nonneg, past, second, nano, ?_, fields⟩
    rw [← second]
    exact Instant.rfc3339_text nano

/-- A token is asked for on behalf of nobody, and one that expired an hour ago is validated. -/
theorem rejections_logged_hour_late :
    ∃ hour ∈ Span.ofUnits? 3600 1, ∃ late ∈ Instant.ofSecond? 7200,
      let p : Policy := ⟨"a", "r", hour, hour⟩
      let c : AccessClaims := ⟨⟨Vector.replicate 16 1⟩, "bidder", 0, 0, 3600⟩
      let steps : List Step := [.issueAccess p .nil "bidder", .validateAccess p (mint "a" c.toJson)]
      let outcomes := (run (RandomSource.constant 0) ⟨late, []⟩ steps).1
      (∃ out, outcomes[0]? = some out ∧ out.log = []) ∧
        ∃ out, outcomes[1]? = some out ∧ out.answer = .failed .expired ∧
          ∃ event, out.log = [event] ∧ event.message = "token has expired" ∧
            event.fields = [("expired_at", "Some(1970-01-01T01:00:00Z)")] := by
  let hour : Span := ⟨3600, 0, by omega, by omega⟩
  let late : Instant := ⟨7200, 0, by omega, by omega, by omega⟩
  refine ⟨hour, rfl, late, rfl, ?_⟩
  intro p c steps outcomes
  obtain ⟨logged, -⟩ := rejections_logged (RandomSource.constant 0) ⟨late, []⟩ steps
  obtain ⟨first, place, silent, -⟩ := logged 0 (.issueAccess p .nil "bidder") rfl
  refine ⟨⟨first, place, silent id⟩, ?_⟩
  obtain ⟨second, place, -, -, once, message, shown⟩ :=
    logged 1 (.validateAccess p (mint "a" c.toJson)) rfl
  have user : c.user ≠ .nil := by decide
  have expiry : 0 ≤ c.expires.toInt := by decide
  have verdict : p.validateAccess late (mint "a" c.toJson) = .error (.expired c.expires) := by
    have minted := @validateAccess_mint p c user expiry late
    rwa [if_neg (by decide), if_pos (by decide)] at minted
  have answer : second.answer = .failed .expired := by
    have spoken := @answerAt_validateAccess (RandomSource.constant 0) ⟨late, []⟩ steps 1 p _ rfl
    rw [answerAt, place] at spoken
    have now : clockAt (RandomSource.constant 0) ⟨late, []⟩ steps 1 = late := rfl
    rw [now, verdict] at spoken
    exact Option.some.inj spoken
  obtain ⟨event, log⟩ := once trivial _ answer
  have logged : event ∈ second.log := by
    rw [log]
    exact List.mem_singleton_self event
  have expired : event.message = "token has expired" := by
    obtain ⟨event', logged', expired⟩ := message.2 answer
    rw [log, List.mem_singleton] at logged'
    rwa [logged'] at expired
  obtain ⟨last, t, expires, -, -, hsecond, hnano, -, fields⟩ := shown event logged expired
  have same : last = c.expires := by
    cases expires with
    | access signed hsays =>
      have verified := verified_eq_ok_iff.2 ⟨_, signed, hsays⟩
      rw [verified_mint_access "a" expiry] at verified
      rw [Except.ok.inj verified]
  have instant : t = ⟨3600, 0, by omega, by omega, by omega⟩ := by
    cases t
    cases hnano
    cases hsecond.trans (congrArg Int64.toInt same)
    rfl
  have shown : (⟨3600, 0, by omega, by omega, by omega⟩ : Instant).text =
      "1970-01-01T01:00:00Z".toList := by
    rw [Instant.text_of_whole rfl]
    simp [Date.text, Date.ofDay, Date.yearOfCycle, Date.yearText, Instant.timeText, Decimal.padded,
      Decimal.ofNat, Decimal.digitChar]
  refine ⟨second, place, answer, event, log, expired, ?_⟩
  rw [fields, instant, shown]
  rfl

end Run

end Credentials.Token
