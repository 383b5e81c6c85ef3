import Credentials.Proofs.Config.Loading

/-!
# Reading settings again and again

Every reading loads the settings file first, into an environment that the readings before it have
changed. It makes no difference: the first reading settles the environment (`loadNearest_loadNearest`),
and in a settled environment every reading comes to what it would have come to at first
(`read_settled`). That holds also where the program breaks off at an assignment that is impossible.

* `Reading` — a reading of the one or the other kind of settings, and `readAll` a row of them.
* `readings_agree` — **each reading in a row comes to what it would come to alone**, in any order, and
  after the first one the environment stays as it is.
-/

namespace Credentials.Config.Settings

open SettingsFile

/-- A kind of settings to read. -/
inductive Reading where
  /-- The token policy. -/
  | policy
  /-- The key setting. -/
  | key

/-- What a reading has come to. -/
inductive Found where
  /-- A token policy was read for. -/
  | policy (outcome : Outcome Token.Policy)
  /-- A key setting was read for. -/
  | key (outcome : Outcome KeySetting)

/-- The assignment that a reading has broken off at, if it has. -/
def Found.brokenOff? : Found → Option (String × String)
  | policy (.brokenOff name value) | key (.brokenOff name value) => some (name, value)
  | policy (.returned _) | key (.returned _) => none

/-- What a reading comes to, and the environment that it leaves. -/
def Reading.read (candidates : List Candidate) (env : Environment) : Reading → Found × Environment
  | policy => (readPolicy env candidates).map Found.policy id
  | key => (readKey env candidates).map Found.key id

/-- What a row of readings comes to, one after the other, and the environment that they leave. A reading
that breaks off does not keep the next one from being tried. -/
def readAll (candidates : List Candidate) (env : Environment) :
    List Reading → List Found × Environment
  | [] => ([], env)
  | r :: rs =>
    let (found, env) := r.read candidates env
    let (rest, env) := readAll candidates env rs
    (found :: rest, env)

variable (candidates : List Candidate) (env : Environment)

/-- Loading the nearest file settles the environment, and comes to the same end again. -/
theorem loadNearest_loadNearest :
    loadNearest (loadNearest env candidates).environment candidates =
      loadNearest env candidates := by
  unfold loadNearest
  cases nearest? candidates with
  | none => rfl
  | some file => exact loadLines_loadLines env (lines file)

/-- A reading leaves the environment that loading has led to. -/
theorem read_snd (r : Reading) :
    (r.read candidates env).2 = (loadNearest env candidates).environment := by
  cases r <;> rfl

/-- In a settled environment a reading comes to what it would have come to at first, and changes
nothing. -/
theorem read_settled (r : Reading) :
    r.read candidates (loadNearest env candidates).environment = r.read candidates env := by
  have settled := loadNearest_loadNearest candidates env
  cases r with
  | policy => simp only [Reading.read, readPolicy, settled]
  | key => simp only [Reading.read, readKey, settled]

/-- The first reading of a row, and then the others in the environment that it leaves. -/
theorem readAll_cons (r : Reading) (rs : List Reading) :
    readAll candidates env (r :: rs) =
      ((r.read candidates env).1 ::
          (readAll candidates (loadNearest env candidates).environment rs).1,
        (readAll candidates (loadNearest env candidates).environment rs).2) := by
  rw [← read_snd candidates env r]
  rfl

/-- A row of readings in a settled environment. -/
theorem readAll_settled (rs : List Reading) :
    readAll candidates (loadNearest env candidates).environment rs =
      (rs.map fun r => (r.read candidates env).1, (loadNearest env candidates).environment) := by
  induction rs with
  | nil => rfl
  | cons r rs ih =>
    rw [readAll_cons, read_settled, loadNearest_loadNearest, ih]
    rfl

/-- All readings break off at what loading breaks off at. -/
theorem brokenOff?_read (r : Reading) :
    (r.read candidates env).1.brokenOff? = (loadNearest env candidates).refused := by
  cases r with
  | policy =>
    simp only [Reading.read, readPolicy, Outcome.of]
    cases (loadNearest env candidates).refused <;> rfl
  | key =>
    simp only [Reading.read, readKey, Outcome.of]
    cases (loadNearest env candidates).refused <;> rfl

/-- **Readings agree, in any order and however many.** Each reading in a row comes to what it would come
to as the only one, and after the first of them, of whichever kind, the environment is the one that
every single reading leaves. If one of them breaks off, then so do all, at the same assignment. -/
theorem readings_agree (rs : List Reading) :
    (readAll candidates env rs).1 = rs.map (fun r => (r.read candidates env).1) ∧
      (∀ first r : Reading,
        (readAll candidates env (first :: rs)).2 = (r.read candidates env).2) ∧
      ∀ r r' : Reading,
        (r.read candidates env).1.brokenOff? = (r'.read candidates env).1.brokenOff? := by
  refine ⟨?_, ?_, ?_⟩
  · cases rs with
    | nil => rfl
    | cons r rs =>
      rw [readAll_cons, readAll_settled]
      rfl
  · intro first r
    rw [readAll_cons, readAll_settled, read_snd]
  · intro r r'
    rw [brokenOff?_read, brokenOff?_read]

end Credentials.Config.Settings
