import Credentials.Config.Settings
import Credentials.Proofs.Config.Environment

/-!
# What loading a settings file does to the environment

* `assignments` — the assignments of a file before its first bad line, each with the value that it has
  in the environment that those above it have led to.
* `made` — those of them that are made: all, or those before the first impossible one. Loading supplies
  just these, and breaks off at the next one if there is any left (`loadLines_eq`).
* `map_fst_meaning?` — which variable a line assigns, and whether it is bad, does not depend on the
  environment; only the value does.
* `loadLines_loadLines` — so a file that is loaded again finds all variables set that it could set, and
  comes to the same end.
* `environment_after_reading` — **the environment after settings were read**, whether they were found
  good or not, and also if the reading broke off.
-/

namespace Credentials.Config.SettingsFile

/-! ## Lines in any environment -/

/-- Whether a value can be read does not depend on the environment: a name that it has no text for is
as good as any other. -/
theorem isSome_valueFrom? (env env' : Environment) (mode : Mode) (cs : List Char) :
    (valueFrom? env mode cs).isSome = (valueFrom? env' mode cs).isSome := by
  induction cs generalizing mode with
  | nil =>
    cases mode with
    | text quoted | escape quoted | name quoted soFar => cases quoted <;> rfl
    | single | braced quoted soFar | ended => rfl
  | cons c cs ih =>
    cases mode with
    | text quoted =>
      cases quoted with
      | true =>
        simp only [valueFrom?]
        repeat' split
        all_goals simp only [Option.isSome_map, ih]
      | false =>
        simp only [valueFrom?]
        repeat' split
        all_goals simp only [Option.isSome_map, ih]
    | escape quoted =>
      simp only [valueFrom?]
      cases escaped? c with
      | none => rfl
      | some e =>
        show ((valueFrom? env (.text quoted) cs).map (e :: ·)).isSome =
          ((valueFrom? env' (.text quoted) cs).map (e :: ·)).isSome
        simp only [Option.isSome_map, ih]
    | single | name quoted soFar | braced quoted soFar | ended =>
      simp only [valueFrom?]
      repeat' split
      all_goals simp only [Option.isSome_map, ih]

/-- Whether a value can be read does not depend on the environment, though its text may. -/
theorem isSome_value? (env env' : Environment) (cs : List Char) :
    (value? env cs).isSome = (value? env' cs).isSome := by
  unfold value?
  split
  · rfl
  · rfl
  · exact isSome_valueFrom? env env' _ cs

/-- What a line says, but for the value, does not depend on the environment. -/
theorem map_fst_line? (env env' : Environment) (cs : List Char) :
    (line? env cs).map (Option.map Prod.fst) = (line? env' cs).map (Option.map Prod.fst) := by
  unfold line?
  generalize Text.trimStart (Text.trimEnd cs) = body
  split
  case h_1 => rfl
  case h_2 => rfl
  case h_3 =>
    cases assignment? body with
    | none => rfl
    | some assignment =>
      obtain ⟨name, written⟩ := assignment
      have same := isSome_value? env env' written
      show ((value? env written).bind fun v => some (some (String.ofList name, String.ofList v))).map
          (Option.map Prod.fst) =
        ((value? env' written).bind fun v => some (some (String.ofList name, String.ofList v))).map
          (Option.map Prod.fst)
      cases hv : value? env written <;> cases hv' : value? env' written
      case none.none => rfl
      case some.some => rfl
      all_goals
        rw [hv, hv'] at same
        cases same

/-! ## Names -/

/-- What may begin a name may stand in it too. -/
theorem isNamePart_of_isNameStart {c : Char} (h : isNameStart c = true) : isNamePart c = true := by
  unfold isNameStart at h
  unfold isNamePart Char.isAlphanum
  simp only [Bool.or_eq_true] at h ⊢
  obtain h | h := h
  · exact .inl (.inl (.inl h))
  · exact .inl (.inr h)

/-- What is read as a name is the name of a variable. -/
theorem isName_of_name? {cs name rest : List Char} (h : name? cs = some (name, rest)) :
    Environment.IsName (String.ofList name) := by
  cases cs with
  | nil => cases h
  | cons c cs =>
    rw [name?] at h
    split at h
    case isTrue start =>
      cases h
      constructor
      case ne_empty =>
        rw [List.takeWhile_cons_of_pos (isNamePart_of_isNameStart start)]
        intro empty
        have := congrArg String.toList empty
        rw [String.toList_ofList] at this
        cases this
      case plain =>
        rw [String.toList_ofList]
        intro hmem
        have part := List.all_eq_true.1 List.all_takeWhile _ hmem
        exact absurd part (by decide)
    case isFalse => cases h

/-- The name in front of an equals sign can be that of a variable. -/
theorem isName_of_assignment? {cs name written : List Char}
    (h : assignment? cs = some (name, written)) : Environment.IsName (String.ofList name) := by
  simp only [assignment?, Option.bind_eq_bind, Option.bind_eq_some_iff, Prod.exists] at h
  obtain ⟨first, rest, hname, h⟩ := h
  split at h
  case h_1 =>
    cases h
    exact isName_of_name? hname
  case h_2 =>
    -- the first word was `export`
    split at h
    case isTrue =>
      simp only [Option.bind_eq_some_iff, Prod.exists] at h
      obtain ⟨second, rest', hname', value, -, h⟩ := h
      cases h
      exact isName_of_name? hname'
    case isFalse => cases h

/-- A line assigns to what can be the name of a variable. -/
theorem isName_of_line? {env : Environment} {cs : List Char} {name value : String}
    (h : line? env cs = some (some (name, value))) : Environment.IsName name := by
  unfold line? at h
  split at h
  case h_1 => cases h
  case h_2 => cases h
  case h_3 =>
    simp only [Option.bind_eq_bind, Option.bind_eq_some_iff, Prod.exists] at h
    obtain ⟨chars, written, hassignment, v, -, h⟩ := h
    cases h
    exact isName_of_assignment? hassignment

/-! ## Assignments -/

/-- What a line of a file says. A line that is not UTF-8 is a bad one. -/
def meaning? (env : Environment) (l : Bytes) : Option (Option (String × String)) :=
  (Utf8.decode l).toOption.bind (line? env)

/-- What a line of a file assigns to can be the name of a variable. -/
theorem isName_of_meaning? {env : Environment} {l : Bytes} {a : String × String}
    (h : meaning? env l = some (some a)) : Environment.IsName a.1 := by
  obtain ⟨cs, -, hline⟩ := Option.bind_eq_some_iff.1 h
  exact isName_of_line? hline

/-- The assignments in a row of lines before the first bad one, each with the value that it has in the
environment as the lines above have left it. -/
def assignments (env : Environment) : List Bytes → List (String × String)
  | [] => []
  | l :: ls =>
    match meaning? env l with
    | none => []
    | some none => assignments env ls
    | some (some a) => a :: assignments (env.supply a.1 a.2) ls

section lines

variable {env : Environment} {l : Bytes} {ls : List Bytes}

/-- There are no assignments from a bad line on. -/
theorem assignments_bad (h : meaning? env l = none) : assignments env (l :: ls) = [] := by
  rw [assignments, h]

/-- A line that says nothing adds no assignment. -/
theorem assignments_silent (h : meaning? env l = some none) :
    assignments env (l :: ls) = assignments env ls := by
  rw [assignments, h]

/-- A line that assigns comes first, and the lines below it are read in the environment after it. -/
theorem assignments_assigns {a : String × String} (h : meaning? env l = some (some a)) :
    assignments env (l :: ls) = a :: assignments (env.supply a.1 a.2) ls := by
  rw [assignments, h]

/-- Loading ends at a bad line. -/
theorem loadLines_bad (h : meaning? env l = none) : loadLines env (l :: ls) = ⟨env, none⟩ := by
  rw [loadLines, ← meaning?, h]

/-- A line that says nothing is passed over. -/
theorem loadLines_silent (h : meaning? env l = some none) :
    loadLines env (l :: ls) = loadLines env ls := by
  rw [loadLines, ← meaning?, h]

/-- Loading breaks off at an assignment that is impossible. -/
theorem loadLines_impossible {a : String × String} (h : meaning? env l = some (some a))
    (impossible : env.Impossible a) : loadLines env (l :: ls) = ⟨env, some a⟩ := by
  rw [loadLines, ← meaning?, h]
  simp only [env.supply?_eq a, if_pos impossible]

/-- Any other assignment is made. -/
theorem loadLines_assigns {a : String × String} (h : meaning? env l = some (some a))
    (possible : ¬ env.Impossible a) :
    loadLines env (l :: ls) = loadLines (env.supply a.1 a.2) ls := by
  rw [loadLines, ← meaning?, h]
  simp only [env.supply?_eq a, if_neg possible]

end lines

/-! ## Assignments that are made -/

/-- The assignments of a row that are made: those before the first impossible one. -/
def made (env : Environment) : List (String × String) → List (String × String)
  | [] => []
  | a :: as => if env.Impossible a then [] else a :: made (env.supply a.1 a.2) as

section made

variable {env : Environment} {a : String × String} {as : List (String × String)}

/-- No assignment is made from an impossible one on. -/
theorem made_impossible (h : env.Impossible a) : made env (a :: as) = [] := if_pos h

/-- Any other assignment is made. -/
theorem made_possible (h : ¬ env.Impossible a) :
    made env (a :: as) = a :: made (env.supply a.1 a.2) as := if_neg h

/-- The assignments that are made come first, and the next one, if there is any, is impossible. -/
theorem exists_rest (env : Environment) (as : List (String × String)) :
    ∃ rest, as = made env as ++ rest ∧
      ∀ a ∈ rest.head?, (env.supplyAll (made env as)).Impossible a := by
  induction as generalizing env with
  | nil => exact ⟨[], rfl, nofun⟩
  | cons a as ih =>
    by_cases h : env.Impossible a
    · rw [made_impossible h]
      refine ⟨a :: as, rfl, ?_⟩
      rintro _ ⟨⟩
      exact h
    · obtain ⟨rest, split, stops⟩ := ih (env.supply a.1 a.2)
      rw [made_possible h]
      exact ⟨rest, congrArg (a :: ·) split, stops⟩

/-- None of the assignments that are made is impossible when its turn comes. -/
theorem not_impossible_of_made {before behind : List (String × String)}
    (h : made env as = before ++ a :: behind) : ¬ (env.supplyAll before).Impossible a := by
  induction as generalizing env before with
  | nil =>
    rw [made] at h
    simp at h
  | cons b as ih =>
    by_cases hb : env.Impossible b
    · rw [made_impossible hb] at h
      simp at h
    · rw [made_possible hb] at h
      cases before with
      | nil =>
        obtain ⟨rfl, -⟩ := List.cons.inj h
        exact hb
      | cons c before =>
        obtain ⟨rfl, later⟩ := List.cons.inj h
        have possible := ih later
        exact possible

/-- A row with no zero byte in its values is made as a whole. -/
theorem made_eq_self (h : ∀ a ∈ as, '\x00' ∉ a.2.toList) : made env as = as := by
  induction as generalizing env with
  | nil => rfl
  | cons a as ih =>
    obtain ⟨plain, h⟩ := List.forall_mem_cons.1 h
    rw [made_possible fun impossible => plain impossible.2, ih h]

end made

/-- Loading makes the assignments that can be made, and does nothing else. It breaks off at the next
one, if there is any. -/
theorem loadLines_eq (env : Environment) (ls : List Bytes) :
    ∃ rest, assignments env ls = made env (assignments env ls) ++ rest ∧
      loadLines env ls = ⟨env.supplyAll (made env (assignments env ls)), rest.head?⟩ := by
  induction ls generalizing env with
  | nil => exact ⟨[], rfl, rfl⟩
  | cons l ls ih =>
    match h : meaning? env l with
    | none =>
      rw [assignments_bad h, loadLines_bad h]
      exact ⟨[], rfl, rfl⟩
    | some none =>
      rw [assignments_silent h, loadLines_silent h]
      exact ih env
    | some (some a) =>
      rw [assignments_assigns h]
      by_cases impossible : env.Impossible a
      · rw [made_impossible impossible, loadLines_impossible h impossible]
        exact ⟨_, rfl, rfl⟩
      · rw [made_possible impossible, loadLines_assigns h impossible]
        obtain ⟨rest, split, loaded⟩ := ih (env.supply a.1 a.2)
        exact ⟨rest, congrArg (a :: ·) split, loaded⟩

/-- The environment after loading. -/
theorem environment_loadLines (env : Environment) (ls : List Bytes) :
    (loadLines env ls).environment = env.supplyAll (made env (assignments env ls)) := by
  obtain ⟨rest, -, loaded⟩ := loadLines_eq env ls
  rw [loaded]

/-- Every variable that is assigned has a name. -/
theorem isName_of_mem_assignments {env : Environment} {ls : List Bytes} :
    ∀ a ∈ assignments env ls, Environment.IsName a.1 := by
  induction ls generalizing env with
  | nil => nofun
  | cons l ls ih =>
    intro a ha
    match h : meaning? env l with
    | none =>
      rw [assignments_bad h] at ha
      cases ha
    | some none =>
      rw [assignments_silent h] at ha
      exact ih a ha
    | some (some b) =>
      rw [assignments_assigns h, List.mem_cons] at ha
      obtain rfl | ha := ha
      · exact isName_of_meaning? h
      · exact ih a ha

/-- So has every variable of an assignment that is made. -/
theorem isName_of_mem_made {env : Environment} {ls : List Bytes} :
    ∀ a ∈ made env (assignments env ls), Environment.IsName a.1 := by
  intro a ha
  obtain ⟨rest, split, -⟩ := exists_rest env (assignments env ls)
  apply isName_of_mem_assignments a
  rw [split]
  exact List.mem_append_left _ ha

/-! ## Loading again -/

/-- What a line says, but for the value, does not depend on the environment. -/
theorem map_fst_meaning? (env env' : Environment) (l : Bytes) :
    (meaning? env l).map (Option.map Prod.fst) = (meaning? env' l).map (Option.map Prod.fst) := by
  unfold meaning?
  cases (Utf8.decode l).toOption with
  | none => rfl
  | some cs => exact map_fst_line? env env' cs

/-- A line that says nothing in one environment says nothing in all. -/
theorem meaning?_of_silent {env : Environment} {l : Bytes} (h : meaning? env l = some none)
    (env' : Environment) : meaning? env' l = some none := by
  have same := map_fst_meaning? env env' l
  rw [h] at same
  obtain ⟨_, h', unassigned⟩ := Option.map_eq_some_iff.1 same.symm
  rw [h', Option.map_eq_none_iff.1 unassigned]

/-- A line that assigns a variable in one environment assigns it in all. -/
theorem meaning?_of_assigns {env : Environment} {l : Bytes} {a : String × String}
    (h : meaning? env l = some (some a)) (env' : Environment) :
    ∃ value, meaning? env' l = some (some (a.1, value)) := by
  have same := map_fst_meaning? env env' l
  rw [h] at same
  obtain ⟨_, h', assigned⟩ := Option.map_eq_some_iff.1 same.symm
  obtain ⟨⟨name, value⟩, rfl, rfl⟩ := Option.map_eq_some_iff.1 assigned
  exact ⟨value, h'⟩

/-- A variable that holds text keeps it when lines are loaded. -/
theorem isSome_text?_loadLines {env : Environment} {name : String} (isName : Environment.IsName name)
    (h : (env.text? name).isSome) (ls : List Bytes) :
    ((loadLines env ls).environment.text? name).isSome := by
  rw [environment_loadLines, Environment.text?_supplyAll isName_of_mem_made isName,
    Option.isSome_or, h, Bool.true_or]

/-- A file that is loaded again does nothing, and comes to the same end: every line that was carried
out finds its variable set, and an assignment that could not be made is met in the environment that it
was met in first. -/
theorem loadLines_loadLines (env : Environment) (ls : List Bytes) :
    loadLines (loadLines env ls).environment ls = loadLines env ls := by
  induction ls generalizing env with
  | nil => rfl
  | cons l ls ih =>
    match h : meaning? env l with
    | none =>
      rw [loadLines_bad h]
      exact loadLines_bad h
    | some none =>
      rw [loadLines_silent h, loadLines_silent (meaning?_of_silent h _)]
      exact ih env
    | some (some a) =>
      by_cases impossible : env.Impossible a
      · rw [loadLines_impossible h impossible]
        exact loadLines_impossible h impossible
      · rw [loadLines_assigns h impossible]
        have isName := isName_of_meaning? h
        have set : ((env.supply a.1 a.2).text? a.1).isSome :=
          Environment.isSome_text?_supply isName a.2
        have text := isSome_text?_loadLines isName set ls
        obtain ⟨value, again⟩ := meaning?_of_assigns h
          (loadLines (env.supply a.1 a.2) ls).environment
        rw [loadLines_assigns again (Environment.not_impossible_of_text text),
          Environment.supply_of_text text]
        exact ih (env.supply a.1 a.2)

/-! ## Candidates -/

/-- There is a file at the place of the candidate. -/
def Candidate.IsFile (c : Candidate) : Prop := ∃ contents, c = .file contents

/-- Where there is no file, none is nearest. -/
theorem nearest?_eq_none {candidates : List Candidate} (h : ∀ c ∈ candidates, ¬ c.IsFile) :
    nearest? candidates = none := by
  induction candidates with
  | nil => rfl
  | cons c candidates ih =>
    cases c with
    | missing | directory => exact ih fun c hc => h c (List.mem_cons_of_mem _ hc)
    | file contents => exact absurd ⟨contents, rfl⟩ (h _ List.mem_cons_self)

/-- Only the nearest file counts. -/
theorem nearest?_append_file {nearer : List Candidate} (h : ∀ c ∈ nearer, ¬ c.IsFile)
    (file : Bytes) (farther : List Candidate) :
    nearest? (nearer ++ .file file :: farther) = some file := by
  induction nearer with
  | nil => rfl
  | cons c nearer ih =>
    cases c with
    | missing | directory => exact ih fun c hc => h c (List.mem_cons_of_mem _ hc)
    | file contents => exact absurd ⟨contents, rfl⟩ (h _ List.mem_cons_self)

/-! ## The environment after reading -/

/-- **What reading settings does to the environment.** Without a settings file it does nothing. With
one, it makes the assignments of the nearest file before its first bad line, up to the first that is
impossible. Whether settings are found good or not makes no difference: a variable that held text keeps
it, any other holds the value of its first assignment that was made, and one that is not assigned stays
as it was. The reading breaks off exactly if an assignment is impossible. -/
theorem environment_after_reading (env : Environment) :
    (∀ candidates : List Candidate, (∀ c ∈ candidates, ¬ c.IsFile) →
      Settings.readPolicy env candidates = (.returned (Settings.policy env), env) ∧
        Settings.readKey env candidates = (.returned (Settings.key env), env)) ∧
    ∀ (nearer : List Candidate) (file : Bytes) (farther : List Candidate),
      (∀ c ∈ nearer, ¬ c.IsFile) →
        let candidates := nearer ++ .file file :: farther
        let assigned := made env (assignments env (lines file))
        let after := (Settings.readPolicy env candidates).2
        (Settings.readKey env candidates).2 = after ∧
          after = env.supplyAll assigned ∧
          (∀ name, Environment.IsName name →
            after.get? name =
              if (env.text? name).isSome then env.get? name
              else ((assigned.lookup name).map Utf8.ofString).or (env.get? name)) ∧
          (∀ before a behind, assigned = before ++ a :: behind →
            ¬ (env.supplyAll before).Impossible a) ∧
          (assigned = assignments env (lines file) ∧
              (Settings.readPolicy env candidates).1 = .returned (Settings.policy after) ∧
              (Settings.readKey env candidates).1 = .returned (Settings.key after) ∨
            ∃ a rest, assignments env (lines file) = assigned ++ a :: rest ∧ after.Impossible a ∧
              (Settings.readPolicy env candidates).1 = .brokenOff a.1 a.2 ∧
              (Settings.readKey env candidates).1 = .brokenOff a.1 a.2) := by
  constructor
  · intro candidates noFile
    have unchanged : loadNearest env candidates = ⟨env, none⟩ := by
      rw [loadNearest, nearest?_eq_none noFile]
    rw [Settings.readPolicy, Settings.readKey, unchanged]
    exact ⟨rfl, rfl⟩
  · intro nearer file farther noFile candidates assigned after
    have found : loadNearest env candidates = loadLines env (lines file) := by
      rw [loadNearest, nearest?_append_file noFile]
      rfl
    obtain ⟨rest, split, loaded⟩ := loadLines_eq env (lines file)
    have supplied : after = env.supplyAll assigned := by
      show (loadNearest env candidates).environment = _
      rw [found, loaded]
    refine ⟨rfl, supplied, ?_, fun before a behind => not_impossible_of_made, ?_⟩
    · intro name isName
      rw [supplied]
      exact Environment.get?_supplyAll isName_of_mem_made isName
    · rw [supplied, Settings.readPolicy, Settings.readKey, found, loaded]
      cases rest with
      | nil => exact .inl ⟨(split.trans (List.append_nil _)).symm, rfl, rfl⟩
      | cons a rest =>
        obtain ⟨rest', split', stops⟩ := exists_rest env (assignments env (lines file))
        obtain rfl : a :: rest = rest' := List.append_cancel_left (split.symm.trans split')
        exact .inr ⟨a, rest, split, stops a rfl, rfl, rfl⟩

/-- A variable that is no text, one that is, and one that is not there. In the first file the fifth line
is bad; in the second one the third line would put a zero byte where there is no text. -/
theorem environment_after_reading_mixed :
    let env : Environment := ⟨[("A", [0xFF]), ("B", Utf8.ofString "kept")]⟩
    let file := Utf8.ofString "A=1\nA=2\nB=3\nC=$A$B\n=\nD=4"
    let zeros := Utf8.ofString "A=1\nB=\x00\nC=a\x00b\nD=4"
    let after := (Settings.readPolicy env [.missing, .directory, .file file, .file zeros]).2
    let read := Settings.readKey env [.file zeros]
    after.get? "A" = some (Utf8.ofString "1") ∧ after.get? "B" = some (Utf8.ofString "kept") ∧
      after.get? "C" = some (Utf8.ofString "1kept") ∧ after.get? "D" = none ∧
      (∃ name value, read.1 = .brokenOff name value) ∧ read.2.get? "A" = some (Utf8.ofString "1") ∧
      read.2.get? "C" = none := by
  intro env file zeros after read
  have noFile : ∀ c ∈ [Candidate.missing, .directory], ¬ c.IsFile := by
    intro c hc
    rw [List.mem_cons, List.mem_singleton] at hc
    obtain rfl | rfl := hc
    · rintro ⟨_, ⟨⟩⟩
    · rintro ⟨_, ⟨⟩⟩
  have assigned : made env (assignments env (lines file)) =
      [("A", "1"), ("A", "2"), ("B", "3"), ("C", "1kept")] := by decide +kernel
  have before : made env (assignments env (lines zeros)) = [("A", "1"), ("B", "\x00")] := by
    decide +kernel
  have row : assignments env (lines zeros) ≠ [("A", "1"), ("B", "\x00")] := by decide +kernel
  obtain ⟨-, loaded⟩ := environment_after_reading env
  obtain ⟨-, -, held, -⟩ := loaded [.missing, .directory] file [.file zeros] noFile
  obtain ⟨-, -, kept, -, ends⟩ := loaded [] zeros [] nofun
  rw [assigned] at held
  rw [before] at kept ends
  have broken : ∃ name value, read.1 = .brokenOff name value := by
    rcases ends with ⟨all, -⟩ | ⟨a, rest, -, -, -, broken⟩
    · exact absurd all.symm row
    · exact ⟨a.1, a.2, broken⟩
  refine ⟨?_, ?_, ?_, ?_, broken, ?_, ?_⟩
  · exact (held "A" ⟨by decide, by decide⟩).trans (by decide +kernel)
  · exact (held "B" ⟨by decide, by decide⟩).trans (by decide +kernel)
  · exact (held "C" ⟨by decide, by decide⟩).trans (by decide +kernel)
  · exact (held "D" ⟨by decide, by decide⟩).trans (by decide +kernel)
  · exact (kept "A" ⟨by decide, by decide⟩).trans (by decide +kernel)
  · exact (kept "C" ⟨by decide, by decide⟩).trans (by decide +kernel)

end Credentials.Config.SettingsFile
