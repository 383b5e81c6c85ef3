import Credentials.Config.Settings
import Credentials.Proofs.Except
import Credentials.Proofs.Text.Blank
import Credentials.Proofs.Text.Numeral

/-!
# Settings and their variables

What settings are read from an environment, variable by variable and without the functions that read
them.

* `Denotes` — a text is a numeral, with blanks around it or not.
* `Variable` — what a reading looks at: a secret or a lifetime. A variable is `Good` or has a `Fault`.
* `SecretIs`, `LifetimeIs` — the setting that a good variable makes.
* `FirstFault` — the error of the first variable that is not good.
* `settings_read` — **settings are read if and only if all their variables are good**, and otherwise
  the error is that of the first one that is not.
-/

namespace Credentials.Config.Settings

/-! ## Integers between blanks -/

/-- The text is a numeral for this integer, with blanks around it or not. -/
def Denotes (value : String) (n : Int) : Prop :=
  ∃ front numeral back, Text.Blank front ∧ Text.Blank back ∧ Decimal.Numeral numeral n ∧
    value.toList = front ++ numeral ++ back

variable {value : String} {n m : Int}

/-- A text denotes the integer that is read between its blanks. -/
theorem denotes_iff : Denotes value n ↔ Decimal.int? (Text.trim value.toList) = some n := by
  rw [Decimal.int?_eq_some_iff]
  constructor
  · rintro ⟨front, numeral, back, hfront, hback, denotes, split⟩
    rwa [split, Text.trim_between hfront hback denotes.not_blank]
  · intro denotes
    obtain ⟨front, back, hfront, hback, split⟩ := Text.exists_trim value.toList
    exact ⟨front, _, back, hfront, hback, denotes, split⟩

/-- An integer is read just if the text denotes it and it has at most 64 bits. -/
theorem integer?_eq_some_iff : integer? value = some n ↔
    Denotes value n ∧ -9223372036854775808 ≤ n ∧ n ≤ 9223372036854775807 := by
  rw [integer?, Option.filter_eq_some_iff, denotes_iff]
  simp only [Bool.and_eq_true, decide_eq_true_eq]

/-! ## Numbers of units -/

/-- The most whole seconds that a span has. -/
def maxSeconds : Nat := 9223372036854775

/-- A number of units is a span if it is at most so many seconds, in either direction. -/
theorem ofUnits?_eq_some_iff {unit : Int} {d : Span} : Span.ofUnits? unit n = some d ↔
    (n * unit).natAbs ≤ maxSeconds ∧ d.second = n * unit ∧ d.nano = 0 := by
  unfold Span.ofUnits? Span.of? maxSeconds
  constructor
  · intro h
    split at h
    case isTrue fits =>
      cases h
      exact ⟨by omega, rfl, rfl⟩
    case isFalse => cases h
  · rcases d with ⟨second, nano, nano_lt, inRange⟩
    rintro ⟨fits, rfl, rfl⟩
    rw [dif_pos (by omega)]

/-- A number of units makes a span if its seconds are not too many. -/
theorem exists_ofUnits? {unit : Int} (fits : (n * unit).natAbs ≤ maxSeconds) :
    ∃ d, Span.ofUnits? unit n = some d := by
  refine ⟨⟨n * unit, 0, by decide, ?_⟩, ofUnits?_eq_some_iff.2 ⟨fits, rfl, rfl⟩⟩
  unfold maxSeconds at fits
  omega

/-- Of the integers that count as a span, none is beyond 64 bits. -/
theorem bind_integer?_eq_some_iff {unit : Int} (positive : 0 < unit) {d : Span} :
    (integer? value).bind (Span.ofUnits? unit) = some d ↔
      ∃ n, Denotes value n ∧ (n * unit).natAbs ≤ maxSeconds ∧ d.second = n * unit ∧ d.nano = 0 := by
  simp only [Option.bind_eq_some_iff, integer?_eq_some_iff, ofUnits?_eq_some_iff]
  refine exists_congr fun n => ⟨fun h => ⟨h.1.1, h.2⟩, fun h => ⟨⟨h.1, ?_⟩, h.2⟩⟩
  have le : n.natAbs ≤ (n * unit).natAbs := by
    rw [Int.natAbs_mul]
    exact Nat.le_mul_of_pos_right _ (by omega)
  have fits := h.2.1
  unfold maxSeconds at fits
  omega

/-! ## Good variables and faults -/

/-- A variable that is looked at when settings are read. -/
inductive Variable where
  /-- It holds a secret, which must be there and not blank. -/
  | secret (name : String)
  /-- It holds a number of units of so many seconds, if it is there. -/
  | lifetime (name : String) (unit : Int)

/-- The variable makes a setting. -/
def Variable.Good (env : Environment) : Variable → Prop
  | .secret name => ∃ value, env.text? name = some value ∧ ¬ Text.Blank value.toList
  | .lifetime name unit => ∀ value, env.text? name = some value →
      ∃ n, Denotes value n ∧ (n * unit).natAbs ≤ maxSeconds

/-- The variable makes no setting, and this is the error that says why. -/
inductive Variable.Fault (env : Environment) : Variable → SettingError → Prop where
  | missing {name : String} : env.text? name = none → Fault env (.secret name) (.missing name)
  | empty {name value : String} : env.text? name = some value → Text.Blank value.toList →
      Fault env (.secret name) (.empty name)
  | invalidNumber {name value : String} {unit : Int} : env.text? name = some value →
      (∀ n, Denotes value n → maxSeconds < (n * unit).natAbs) →
      Fault env (.lifetime name unit) (.invalidNumber name value)

/-- The secret is what the variable holds, blanks at its ends included. -/
def SecretIs (env : Environment) (name secret : String) : Prop :=
  env.text? name = some secret ∧ ¬ Text.Blank secret.toList

/-- The lifetime is as many units as the variable says, or the default if it says nothing. -/
def LifetimeIs (env : Environment) (name : String) (unit default : Int) (d : Span) : Prop :=
  d.nano = 0 ∧
    (env.text? name = none ∧ d.second = default * unit ∨
      ∃ value n, env.text? name = some value ∧ Denotes value n ∧
        (n * unit).natAbs ≤ maxSeconds ∧ d.second = n * unit)

variable {env : Environment} {name : String} {e : SettingError}

/-- A variable holds at most one secret. -/
theorem SecretIs.unique {secret secret' : String} (h : SecretIs env name secret)
    (h' : SecretIs env name secret') : secret = secret' := Option.some.inj (h.1.symm.trans h'.1)

/-! ## Secrets -/

section secret

/-- A secret that is not there is missing. -/
theorem required_of_none (h : env.text? name = none) :
    required env name = .error (.missing name) := by
  rw [required, h]

/-- A secret of blanks only is empty. -/
theorem required_of_blank (h : env.text? name = some value) (blank : Text.Blank value.toList) :
    required env name = .error (.empty name) := by
  rw [required, h]
  exact if_pos (Text.trim_eq_nil_iff.2 blank)

/-- Any other secret is taken as it is. -/
theorem required_of_not_blank (h : env.text? name = some value)
    (blank : ¬ Text.Blank value.toList) : required env name = .ok value := by
  rw [required, h]
  exact if_neg (mt Text.trim_eq_nil_iff.1 blank)

/-- A secret is read just if the variable holds it and it is not blank. -/
theorem required_eq_ok_iff {secret : String} :
    required env name = .ok secret ↔ SecretIs env name secret := by
  constructor
  · intro h
    rcases text : env.text? name with _ | held
    · rw [required_of_none text] at h
      cases h
    · by_cases blank : Text.Blank held.toList
      · rw [required_of_blank text blank] at h
        cases h
      · rw [required_of_not_blank text blank] at h
        exact ⟨text ▸ congrArg some (Except.ok.inj h), Except.ok.inj h ▸ blank⟩
  · rintro ⟨text, notBlank⟩
    exact required_of_not_blank text notBlank

/-- A secret fails just by the fault of its variable. -/
theorem required_eq_error_iff :
    required env name = .error e ↔ (Variable.secret name).Fault env e := by
  constructor
  · intro h
    rcases text : env.text? name with _ | held
    · rw [required_of_none text] at h
      cases h
      exact .missing text
    · by_cases blank : Text.Blank held.toList
      · rw [required_of_blank text blank] at h
        cases h
        exact .empty text blank
      · rw [required_of_not_blank text blank] at h
        cases h
  · rintro (text | ⟨text, blank⟩)
    · exact required_of_none text
    · exact required_of_blank text blank

/-- The variable of a secret is good just if a secret is read from it. -/
theorem good_secret_iff :
    (Variable.secret name).Good env ↔ ∃ secret, required env name = .ok secret := by
  simp only [required_eq_ok_iff]
  rfl

end secret

/-! ## Lifetimes -/

section lifetime

variable {unit default : Int} {standard d : Span}

/-- A lifetime that is not there is the standard one. -/
theorem lifetime_of_none (h : env.text? name = none) :
    lifetime env name unit standard = .ok standard := by
  rw [lifetime, h]

/-- A lifetime is the span of its number of units. -/
theorem lifetime_of_span (h : env.text? name = some value)
    (span : (integer? value).bind (Span.ofUnits? unit) = some d) :
    lifetime env name unit standard = .ok d := by
  rw [lifetime, h]
  simp only [span]

/-- A text that makes no span is no number for a lifetime. -/
theorem lifetime_of_no_span (h : env.text? name = some value)
    (noSpan : (integer? value).bind (Span.ofUnits? unit) = none) :
    lifetime env name unit standard = .error (.invalidNumber name value) := by
  rw [lifetime, h]
  simp only [noSpan]

variable (positive : 0 < unit)

include positive

/-- A lifetime is read just if it is what the variable says, or the default. -/
theorem lifetime_eq_ok_iff (h : Span.ofUnits? unit default = some standard) :
    lifetime env name unit standard = .ok d ↔ LifetimeIs env name unit default d := by
  constructor
  · intro read
    rcases text : env.text? name with _ | value
    · rw [lifetime_of_none text] at read
      cases read
      obtain ⟨-, second, whole⟩ := ofUnits?_eq_some_iff.1 h
      exact ⟨whole, .inl ⟨text, second⟩⟩
    · rcases span : (integer? value).bind (Span.ofUnits? unit) with _ | d'
      · rw [lifetime_of_no_span text span] at read
        cases read
      · rw [lifetime_of_span text span] at read
        cases read
        obtain ⟨n, denotes, fits, second, whole⟩ := (bind_integer?_eq_some_iff positive).1 span
        exact ⟨whole, .inr ⟨value, n, text, denotes, fits, second⟩⟩
  · rintro ⟨whole, ⟨text, second⟩ | ⟨value, n, text, denotes, fits, second⟩⟩
    · -- the default is the only span of that length
      obtain ⟨fits, -⟩ := ofUnits?_eq_some_iff.1 h
      have same := ofUnits?_eq_some_iff.2 ⟨fits, second, whole⟩
      rw [lifetime_of_none text, Option.some.inj (h.symm.trans same)]
    · exact lifetime_of_span text
        ((bind_integer?_eq_some_iff positive).2 ⟨n, denotes, fits, second, whole⟩)

/-- A text makes no span just if each integer that it denotes has too many seconds. -/
theorem bind_integer?_eq_none_iff : (integer? value).bind (Span.ofUnits? unit) = none ↔
    ∀ n, Denotes value n → maxSeconds < (n * unit).natAbs := by
  rw [Option.eq_none_iff_forall_ne_some]
  constructor
  · intro noSpan n denotes
    by_contra fits
    obtain ⟨d, span⟩ := exists_ofUnits? (Nat.not_lt.1 fits)
    exact noSpan d ((bind_integer?_eq_some_iff positive).2
      ⟨n, denotes, ofUnits?_eq_some_iff.1 span⟩)
  · intro outside d span
    obtain ⟨n, denotes, fits, -⟩ := (bind_integer?_eq_some_iff positive).1 span
    exact absurd fits (Nat.not_le.2 (outside n denotes))

/-- A lifetime fails just by the fault of its variable. -/
theorem lifetime_eq_error_iff : lifetime env name unit standard = .error e ↔
    (Variable.lifetime name unit).Fault env e := by
  constructor
  · intro read
    rcases text : env.text? name with _ | value
    · rw [lifetime_of_none text] at read
      cases read
    · rcases span : (integer? value).bind (Span.ofUnits? unit) with _ | d'
      · rw [lifetime_of_no_span text span] at read
        cases read
        exact .invalidNumber text ((bind_integer?_eq_none_iff positive).1 span)
      · rw [lifetime_of_span text span] at read
        cases read
  · rintro (_ | _ | ⟨text, outside⟩)
    exact lifetime_of_no_span text ((bind_integer?_eq_none_iff positive).2 outside)

/-- The variable of a lifetime is good just if a lifetime is read from it. -/
theorem good_lifetime_iff (standard : Span) : (Variable.lifetime name unit).Good env ↔
    ∃ d, lifetime env name unit standard = .ok d := by
  constructor
  · intro good
    rcases text : env.text? name with _ | value
    · exact ⟨standard, lifetime_of_none text⟩
    · obtain ⟨n, denotes, fits⟩ := good value text
      obtain ⟨d, span⟩ := exists_ofUnits? fits
      exact ⟨d, lifetime_of_span text ((bind_integer?_eq_some_iff positive).2
        ⟨n, denotes, ofUnits?_eq_some_iff.1 span⟩)⟩
  · rintro ⟨d, read⟩ value text
    rcases span : (integer? value).bind (Span.ofUnits? unit) with _ | d'
    · rw [lifetime_of_no_span text span] at read
      cases read
    · obtain ⟨n, denotes, fits, -⟩ := (bind_integer?_eq_some_iff positive).1 span
      exact ⟨n, denotes, fits⟩

end lifetime

/-! ## The first fault -/

/-- The error is that of the first variable that is not good. -/
def FirstFault (env : Environment) (vs : List Variable) (e : SettingError) : Prop :=
  ∃ before v after, vs = before ++ v :: after ∧ (∀ w ∈ before, w.Good env) ∧ v.Fault env e

/-- No variables, no fault. -/
theorem not_firstFault_nil : ¬ FirstFault env [] e := by
  rintro ⟨before, v, after, split, -⟩
  simp at split

/-- The first fault is that of the first variable, or else it is good and the fault is further
on. -/
theorem firstFault_cons {v : Variable} {vs : List Variable} :
    FirstFault env (v :: vs) e ↔ v.Fault env e ∨ v.Good env ∧ FirstFault env vs e := by
  constructor
  · rintro ⟨_ | ⟨w, before⟩, v', after, split, good, fault⟩
    · obtain ⟨rfl, rfl⟩ := List.cons.inj split
      exact .inl fault
    · obtain ⟨rfl, rfl⟩ := List.cons.inj split
      obtain ⟨first, good⟩ := List.forall_mem_cons.1 good
      exact .inr ⟨first, before, v', after, rfl, good, fault⟩
  · rintro (fault | ⟨first, before, v', after, rfl, good, fault⟩)
    · exact ⟨[], v, vs, rfl, by simp, fault⟩
    · exact ⟨v :: before, v', after, rfl, List.forall_mem_cons.2 ⟨first, good⟩, fault⟩

/-- The variables of a token policy, in the order in which they are looked at. -/
def policyVariables : List Variable :=
  [.secret "ACCESS_TOKEN_SECRET", .secret "REFRESH_TOKEN_SECRET",
    .lifetime "ACCESS_TOKEN_TTL_MINUTES" minute, .lifetime "REFRESH_TOKEN_TTL_DAYS" day]

/-- The variables of a key setting. -/
def keyVariables : List Variable := [.secret "ENCRYPTION_KEY"]

/-- The default of the access lifetime, in minutes. -/
theorem ofUnits?_minute : Span.ofUnits? minute 15 = some defaultAccessLifetime := by decide

/-- The default of the refresh lifetime, in days. -/
theorem ofUnits?_day : Span.ofUnits? day 7 = some defaultRefreshLifetime := by decide

/-- A policy is read just if each of its four settings is what its variable says. -/
theorem policy_eq_ok_iff {p : Token.Policy} : policy env = .ok p ↔
    SecretIs env "ACCESS_TOKEN_SECRET" p.accessSecret ∧
    SecretIs env "REFRESH_TOKEN_SECRET" p.refreshSecret ∧
    LifetimeIs env "ACCESS_TOKEN_TTL_MINUTES" minute 15 p.accessLifetime ∧
    LifetimeIs env "REFRESH_TOKEN_TTL_DAYS" day 7 p.refreshLifetime := by
  simp only [policy, bind_eq_ok_iff, required_eq_ok_iff,
    lifetime_eq_ok_iff (by decide) ofUnits?_minute, lifetime_eq_ok_iff (by decide) ofUnits?_day]
  constructor
  · rintro ⟨_, access, _, refresh, _, minutes, _, days, ⟨⟩⟩
    exact ⟨access, refresh, minutes, days⟩
  · rintro ⟨access, refresh, minutes, days⟩
    exact ⟨_, access, _, refresh, _, minutes, _, days, rfl⟩

/-- Some policy is read just if all its variables are good. -/
theorem exists_policy_iff :
    (∃ p, policy env = .ok p) ↔ ∀ v ∈ policyVariables, v.Good env := by
  simp only [policyVariables, List.forall_mem_cons, good_secret_iff,
    good_lifetime_iff (show 0 < minute by decide) defaultAccessLifetime,
    good_lifetime_iff (show 0 < day by decide) defaultRefreshLifetime]
  simp only [policy, bind_eq_ok_iff]
  constructor
  · rintro ⟨_, _, access, _, refresh, _, minutes, _, days, -⟩
    exact ⟨⟨_, access⟩, ⟨_, refresh⟩, ⟨_, minutes⟩, ⟨_, days⟩, by simp⟩
  · rintro ⟨⟨_, access⟩, ⟨_, refresh⟩, ⟨_, minutes⟩, ⟨_, days⟩, -⟩
    exact ⟨_, _, access, _, refresh, _, minutes, _, days, rfl⟩

/-- If both secrets are there and the lifetimes are good, there is a policy with these secrets. -/
theorem exists_policy_of_secrets {access refresh : String}
    (hAccess : SecretIs env "ACCESS_TOKEN_SECRET" access)
    (hRefresh : SecretIs env "REFRESH_TOKEN_SECRET" refresh)
    (minutes : (Variable.lifetime "ACCESS_TOKEN_TTL_MINUTES" minute).Good env)
    (days : (Variable.lifetime "REFRESH_TOKEN_TTL_DAYS" day).Good env) :
    ∃ p, policy env = .ok p ∧ p.accessSecret = access ∧ p.refreshSecret = refresh := by
  have good : ∀ v ∈ policyVariables, v.Good env := by
    simp only [policyVariables, List.forall_mem_cons]
    exact ⟨⟨access, hAccess⟩, ⟨refresh, hRefresh⟩, minutes, days, by simp⟩
  obtain ⟨p, hp⟩ := exists_policy_iff.2 good
  obtain ⟨isAccess, isRefresh, -⟩ := policy_eq_ok_iff.1 hp
  exact ⟨p, hp, isAccess.unique hAccess, isRefresh.unique hRefresh⟩

/-- A policy fails just by the first fault of its variables. -/
theorem policy_eq_error_iff : policy env = .error e ↔ FirstFault env policyVariables e := by
  have read (p : Token.Policy) : ¬ (pure p : Except SettingError Token.Policy) = .error e := by
    rintro ⟨⟩
  simp only [policy, bind_eq_error_iff, exists_and_right, ← good_secret_iff, required_eq_error_iff,
    ← good_lifetime_iff (show 0 < minute by decide) defaultAccessLifetime,
    lifetime_eq_error_iff (show 0 < minute by decide),
    lifetime_eq_error_iff (show 0 < day by decide), read]
  simp only [policyVariables, firstFault_cons, not_firstFault_nil, and_false, or_false]

/-- A key setting is read just if the variable holds its text. -/
theorem key_eq_ok_iff {k : KeySetting} :
    key env = .ok k ↔ SecretIs env "ENCRYPTION_KEY" k.text := by
  simp only [key, map_eq_ok_iff, required_eq_ok_iff]
  constructor
  · rintro ⟨_, secret, rfl⟩
    exact secret
  · exact fun secret => ⟨k.text, secret, rfl⟩

/-- Some key setting is read just if its variable is good. -/
theorem exists_key_iff : (∃ k, key env = .ok k) ↔ ∀ v ∈ keyVariables, v.Good env := by
  simp only [keyVariables, List.forall_mem_singleton, key_eq_ok_iff]
  exact ⟨fun ⟨k, secret⟩ => ⟨k.text, secret⟩, fun ⟨secret, is⟩ => ⟨⟨secret⟩, is⟩⟩

/-- A key setting fails just by the fault of its variable. -/
theorem key_eq_error_iff : key env = .error e ↔ FirstFault env keyVariables e := by
  simp only [keyVariables, firstFault_cons, not_firstFault_nil, and_false, or_false]
  rw [← required_eq_error_iff, key]
  rcases required env "ENCRYPTION_KEY" with _ | secret <;> simp [Except.map]

/-! ## What is read -/

section outcomes

variable {α : Type} {read : Environment → Except SettingError α} {loading : SettingsFile.Loading}

/-- A reading returns if loading did not break off, and then what is read from the environment. -/
theorem outcome_eq_returned_iff {result : Except SettingError α} :
    Outcome.of read loading = .returned result ↔
      loading.refused = none ∧ read loading.environment = result := by
  unfold Outcome.of
  cases loading.refused <;> simp

/-- A reading breaks off where loading did. -/
theorem outcome_eq_brokenOff_iff {name value : String} :
    Outcome.of read loading = .brokenOff name value ↔ loading.refused = some (name, value) := by
  unfold Outcome.of
  cases loading.refused <;> simp [Prod.ext_iff]

/-- A reading returns settings if loading did not break off and there are any. -/
theorem exists_outcome_iff : (∃ a, Outcome.of read loading = .returned (.ok a)) ↔
    loading.refused = none ∧ ∃ a, read loading.environment = .ok a := by
  simp only [outcome_eq_returned_iff, exists_and_left]

end outcomes

/-- **What settings are read.** They are read from the environment that the settings file has left,
unless loading it broke off: then so does the reading, at the same assignment, and else it returns.
There is a token policy if and only if its four variables are good, and then its secrets are what the
variables hold and its lifetimes so many minutes and days, or fifteen and seven. Otherwise the error
is that of the first variable that is not good. The same holds for the key, which is a secret. -/
theorem settings_read (env : Environment) (candidates : List SettingsFile.Candidate) :
    let loading := SettingsFile.loadNearest env candidates
    let loaded := loading.environment
    (readPolicy env candidates).2 = loaded ∧ (readKey env candidates).2 = loaded ∧
    (∀ name value, (readPolicy env candidates).1 = .brokenOff name value ↔
      loading.refused = some (name, value)) ∧
    (∀ name value, (readKey env candidates).1 = .brokenOff name value ↔
      loading.refused = some (name, value)) ∧
    ((∃ p, (readPolicy env candidates).1 = .returned (.ok p)) ↔
      loading.refused = none ∧ ∀ v ∈ policyVariables, v.Good loaded) ∧
    (∀ p : Token.Policy, (readPolicy env candidates).1 = .returned (.ok p) ↔
      loading.refused = none ∧
      SecretIs loaded "ACCESS_TOKEN_SECRET" p.accessSecret ∧
      SecretIs loaded "REFRESH_TOKEN_SECRET" p.refreshSecret ∧
      LifetimeIs loaded "ACCESS_TOKEN_TTL_MINUTES" minute 15 p.accessLifetime ∧
      LifetimeIs loaded "REFRESH_TOKEN_TTL_DAYS" day 7 p.refreshLifetime) ∧
    (∀ e, (readPolicy env candidates).1 = .returned (.error e) ↔
      loading.refused = none ∧ FirstFault loaded policyVariables e) ∧
    ((∃ k, (readKey env candidates).1 = .returned (.ok k)) ↔
      loading.refused = none ∧ ∀ v ∈ keyVariables, v.Good loaded) ∧
    (∀ k : KeySetting, (readKey env candidates).1 = .returned (.ok k) ↔
      loading.refused = none ∧ SecretIs loaded "ENCRYPTION_KEY" k.text) ∧
    ∀ e, (readKey env candidates).1 = .returned (.error e) ↔
      loading.refused = none ∧ FirstFault loaded keyVariables e := by
  intro loading loaded
  refine ⟨rfl, rfl, fun name value => outcome_eq_brokenOff_iff,
    fun name value => outcome_eq_brokenOff_iff, ?_, ?_, ?_, ?_, ?_, ?_⟩
  · rw [← exists_policy_iff]
    exact exists_outcome_iff
  · intro p
    rw [← policy_eq_ok_iff]
    exact outcome_eq_returned_iff
  · intro e
    rw [← policy_eq_error_iff]
    exact outcome_eq_returned_iff
  · rw [← exists_key_iff]
    exact exists_outcome_iff
  · intro k
    rw [← key_eq_ok_iff]
    exact outcome_eq_returned_iff
  · intro e
    rw [← key_eq_error_iff]
    exact outcome_eq_returned_iff

end Credentials.Config.Settings
