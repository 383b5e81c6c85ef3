import Credentials.Proofs.Config.Loading
import Credentials.Proofs.Config.Variables
import Credentials.Proofs.Lookup

/-!
# Assignments in single quotes

What is written in single quotes in a settings file is the value, character by character.

* `valueFrom?_single` — only another single quote ends the quotes; nothing between them is replaced.
* `Ending` — what may stand behind the closing quote. It does not count (`Ending.valueFrom?_eq`).
* `Writable` — the names that can be written, with `export` before them or not.
* `Quoted` — an assignment in single quotes. Its line says that its variable has its value, in every
  environment (`Quoted.meaning?_line`), so that the lines above make no difference to it.
* `Quoted.file` — the file of a row of them, which is cut into their lines again (`lines_file`).
* `quoted_verbatim` — **every variable holds just what is written between the quotes**, and if two
  of them are the secrets, these are the secrets of the token policy.
-/

namespace Credentials.Config.SettingsFile

variable {env : Environment} {cs : List Char}

/-! ## Values -/

/-- In single quotes every character stands for itself. -/
theorem valueFrom?_single (noQuote : '\'' ∉ cs) (rest : List Char) :
    valueFrom? env .single (cs ++ '\'' :: rest) =
      (valueFrom? env (.text false) rest).map (cs ++ ·) := by
  induction cs with
  | nil =>
    rw [List.nil_append, valueFrom?, if_pos rfl]
    exact Option.map_id'.symm
  | cons c cs ih =>
    obtain ⟨other, noQuote⟩ := not_or.1 (mt List.mem_cons.2 noQuote)
    rw [List.cons_append, valueFrom?, if_neg (Ne.symm other), ih noQuote, Option.map_map]
    rfl

/-- Behind the value, spaces and a comment are passed over. -/
theorem valueFrom?_ended {gap : List Char} (spaces : ∀ c ∈ gap, c = ' ' ∨ c = '\t')
    (remark : List Char) : valueFrom? env .ended (gap ++ '#' :: remark) = some [] := by
  induction gap with
  | nil => rfl
  | cons c gap ih =>
    obtain ⟨space, spaces⟩ := List.forall_mem_cons.1 spaces
    rw [List.cons_append, valueFrom?, if_pos space]
    exact ih spaces

/-- What may stand behind the closing quote of a value. -/
inductive Ending : List Char → Prop where
  /-- Blanks, or nothing at all. -/
  | blank {cs : List Char} : Text.Blank cs → Ending cs
  /-- A comment, with spaces or tabulators before it. -/
  | comment {c : Char} {gap remark : List Char} : (∀ d ∈ c :: gap, d = ' ' ∨ d = '\t') →
      Ending (c :: gap ++ '#' :: remark)

/-- Nothing is added to the value behind the closing quote. -/
theorem Ending.valueFrom?_eq (h : Ending cs) :
    valueFrom? env (.text false) (Text.trimEnd cs) = some [] := by
  cases h with
  | blank blank =>
    rw [Text.trimEnd_of_blank blank]
    rfl
  | @comment c gap remark spaces =>
    obtain ⟨space, spaces⟩ := List.forall_mem_cons.1 spaces
    -- the first space ends the value
    have ends (rest : List Char) :
        valueFrom? env (.text false) (c :: rest) = valueFrom? env .ended rest := by
      rcases space with rfl | rfl <;> rfl
    rw [Text.trimEnd_append_cons rfl, List.cons_append, ends]
    exact valueFrom?_ended spaces _

/-- The value of what is written in single quotes, with an ending behind them. -/
theorem value?_quoted (noQuote : '\'' ∉ cs) {ending : List Char} (h : Ending ending) :
    value? env ('\'' :: (cs ++ '\'' :: Text.trimEnd ending)) = some cs := by
  have opens (rest : List Char) : value? env ('\'' :: rest) = valueFrom? env .single rest := rfl
  rw [opens, valueFrom?_single noQuote, h.valueFrom?_eq, Option.map_some, List.append_nil]

-- with no space before it, the comment would belong to the value
example : value? env "'a'#b".toList = some "a#b".toList := rfl

/-! ## Names -/

/-- The name of a variable as it can be written in a settings file: an ASCII letter or an
underscore, and then ASCII letters and digits, underscores and full stops. -/
def Writable (name : List Char) : Prop :=
  ∃ c cs, name = c :: cs ∧ isNameStart c = true ∧ ∀ d ∈ cs, isNamePart d = true

/-- All characters of a name can stand in a name. -/
theorem Writable.forall_isNamePart (h : Writable cs) : ∀ d ∈ cs, isNamePart d = true := by
  obtain ⟨first, later, rfl, start, parts⟩ := h
  exact List.forall_mem_cons.2 ⟨isNamePart_of_isNameStart start, parts⟩

/-- No letter is a blank, and the underscore is none. -/
theorem isBlank_of_isNameStart {c : Char} (h : isNameStart c = true) : Text.isBlank c = false := by
  apply Text.isBlank_of_printable
  rcases Bool.or_eq_true_iff.1 h with letter | underscore
  · rcases Bool.or_eq_true_iff.1 letter with upper | lower
    · have range : 'A'.toNat ≤ c.toNat ∧ c.toNat ≤ 'Z'.toNat := of_decide_eq_true upper
      exact ⟨Nat.le_trans (by decide) range.1, Nat.le_trans range.2 (by decide)⟩
    · have range : 'a'.toNat ≤ c.toNat ∧ c.toNat ≤ 'z'.toNat :=
        (Bool.and_eq_true_iff.1 lower).imp of_decide_eq_true of_decide_eq_true
      exact ⟨Nat.le_trans (by decide) range.1, Nat.le_trans range.2 (by decide)⟩
  · obtain rfl : c = '_' := of_decide_eq_true underscore
    decide

variable {name written : List Char}

/-- A name is read up to the first character that is no part of one. -/
theorem Writable.name?_append (h : Writable name) {c : Char} (stop : isNamePart c = false)
    (rest : List Char) : name? (name ++ c :: rest) = some (name, Text.trimStart (c :: rest)) := by
  have begins : name? (name ++ c :: rest) =
      some ((name ++ c :: rest).takeWhile isNamePart,
        Text.trimStart ((name ++ c :: rest).dropWhile isNamePart)) := by
    obtain ⟨first, later, rfl, start, -⟩ := h
    exact if_pos start
  rw [begins, List.takeWhile_append_of_pos h.forall_isNamePart,
    List.dropWhile_append_of_pos h.forall_isNamePart,
    List.takeWhile_cons_of_neg (by simp [stop]), List.dropWhile_cons_of_neg (by simp [stop]),
    List.append_nil]

/-- Nothing is trimmed away before a name. -/
theorem Writable.trimStart_append (h : Writable name) (rest : List Char) :
    Text.trimStart (name ++ rest) = name ++ rest := by
  obtain ⟨first, later, rfl, start, -⟩ := h
  exact List.dropWhile_cons_of_neg (by simp [isBlank_of_isNameStart start])

/-- What stands before a name. -/
def marking (exported : Bool) : List Char := if exported then "export ".toList else []

/-- Neither `export` nor a name begins with a blank. -/
theorem Writable.trimStart_marking_append (h : Writable name) (exported : Bool)
    (rest : List Char) : Text.trimStart (marking exported ++ (name ++ rest)) =
      marking exported ++ (name ++ rest) := by
  cases exported with
  | false => exact h.trimStart_append rest
  | true => rfl

/-- No name begins with an equals sign. -/
theorem Writable.afterEquals?_append (h : Writable name) (rest : List Char) :
    afterEquals? (name ++ rest) = none := by
  obtain ⟨first, later, rfl, start, -⟩ := h
  rw [List.cons_append, afterEquals?]
  intro cs equals
  obtain ⟨rfl, -⟩ := List.cons.inj equals
  cases start

/-- A name with an equals sign behind it is assigned to. -/
theorem assignment?_of_name {rest : List Char} (named : name? cs = some (name, rest))
    (assigned : afterEquals? rest = some written) : assignment? cs = some (name, written) := by
  simp only [assignment?, named, assigned, Option.bind_eq_bind, Option.bind_some]
  rfl

/-- The word `export` is passed over if a name with its equals sign follows. -/
theorem assignment?_of_export {word rest rest' : List Char} (isExport : word = "export".toList)
    (first : name? cs = some (word, rest)) (noEquals : afterEquals? rest = none)
    (named : name? rest = some (name, rest')) (assigned : afterEquals? rest' = some written) :
    assignment? cs = some (name, written) := by
  simp only [assignment?, first, noEquals, named, assigned, Option.bind_eq_bind, Option.bind_some]
  exact if_pos isExport

/-- An assignment is read with the word `export` before its name or without it. -/
theorem Writable.assignment?_append (h : Writable name) (exported : Bool)
    (whole : Text.trimStart written = written) :
    assignment? (marking exported ++ (name ++ '=' :: written)) = some (name, written) := by
  have named : name? (name ++ '=' :: written) = some (name, '=' :: written) :=
    h.name?_append rfl written
  have assigned : afterEquals? ('=' :: written) = some written := congrArg some whole
  cases exported with
  | false => exact assignment?_of_name named assigned
  | true =>
    have word : Writable "export".toList := ⟨'e', _, rfl, rfl, List.all_eq_true.1 rfl⟩
    have first : name? (marking true ++ (name ++ '=' :: written)) =
        some ("export".toList, name ++ '=' :: written) := by
      have space : Text.trimStart (' ' :: (name ++ '=' :: written)) = name ++ '=' :: written :=
        h.trimStart_append _
      have read := word.name?_append (c := ' ') rfl (name ++ '=' :: written)
      rwa [space] at read
    -- no equals sign stands behind the word, so that it is not the name itself
    exact assignment?_of_export rfl first (h.afterEquals?_append _) named assigned

/-! ## Lines -/

/-- The pieces of an encoded text between its line feeds. -/
theorem splitOn_encode {ls : List (List Char)} (noFeed : ∀ l ∈ ls, '\n' ∉ l) (h : ls ≠ []) :
    (Utf8.encode (['\n'].intercalate ls)).splitOn 0x0A = ls.map Utf8.encode := by
  have feed : Utf8.encode ['\n'] = [0x0A] := rfl
  rw [Utf8.encode_intercalate, feed, List.splitOn_intercalate]
  · intro l hl
    obtain ⟨cs, hcs, rfl⟩ := List.mem_map.1 hl
    exact fun hmem => noFeed cs hcs (Utf8.mem_of_mem_encode (by decide) hmem)
  · rwa [ne_eq, List.map_eq_nil_iff]

/-- A text of lines is cut into them, if none is empty. A line feed may stand behind the last. -/
theorem lines_encode {ls : List (List Char)} (noFeed : ∀ l ∈ ls, '\n' ∉ l) (noEmpty : [] ∉ ls)
    (closed : Bool) :
    lines (Utf8.encode (['\n'].intercalate (ls ++ if closed then [[]] else []))) =
      ls.map Utf8.encode := by
  cases closed with
  | true =>
    have noFeed' : ∀ l ∈ ls ++ [[]], '\n' ∉ l :=
      List.forall_mem_append.2 ⟨noFeed, List.forall_mem_singleton.2 List.not_mem_nil⟩
    have pieces : (Utf8.encode (['\n'].intercalate (ls ++ [[]]))).splitOn 0x0A =
        ls.map Utf8.encode ++ [[]] := by
      rw [splitOn_encode noFeed' (by simp), List.map_append]
      rfl
    rw [lines, if_pos rfl, pieces, List.getLast?_concat, List.dropLast_concat]
    exact if_pos rfl
  | false =>
    rw [if_neg Bool.false_ne_true, List.append_nil]
    by_cases h : ls = []
    · rw [h]
      rfl
    · rw [lines, splitOn_encode noFeed h]
      apply if_neg
      intro last
      obtain ⟨l, hl, empty⟩ := List.mem_map.1 (List.mem_of_getLast? last)
      obtain rfl : l = [] := Utf8.encode_injective empty
      exact noEmpty hl

/-- A line is its assignment, with the value read. -/
theorem line?_of_assignment? {line value : List Char}
    (trimmed : Text.trimStart (Text.trimEnd line) = cs)
    (assigned : assignment? cs = some (name, written)) (h : value? env written = some value) :
    line? env line = some (some (String.ofList name, String.ofList value)) := by
  unfold line?
  rw [trimmed]
  split
  case h_1 => cases assigned
  case h_2 => cases assigned
  case h_3 =>
    rw [assigned]
    show (value? env written).bind (fun v => some (some (String.ofList name, String.ofList v))) = _
    rw [h]
    rfl

/-- An assignment with its value in single quotes. -/
structure Quoted where
  /-- The name of the variable. -/
  name : String
  /-- What is written between the quotes. -/
  value : String
  /-- The word `export` stands before the name. -/
  exported : Bool
  /-- What stands behind the closing quote. -/
  ending : List Char
  /-- It is a name that can be written. -/
  writable : Writable name.toList
  /-- Between the quotes are any characters but single quotes, line feeds and zeros. -/
  plain : '\'' ∉ value.toList ∧ '\n' ∉ value.toList ∧ '\x00' ∉ value.toList
  /-- It does not count. -/
  ends : Ending ending
  /-- It stands on the same line. -/
  oneLine : '\n' ∉ ending

namespace Quoted

/-- The line of an assignment. -/
def line (q : Quoted) : List Char :=
  marking q.exported ++ (q.name.toList ++ '=' :: '\'' :: (q.value.toList ++ '\'' :: q.ending))

/-- The variable and its value. -/
def assignment (q : Quoted) : String × String := (q.name, q.value)

variable (q : Quoted)

/-- Of the line, only blanks at its end are trimmed away. -/
theorem trim_line : Text.trimStart (Text.trimEnd q.line) = marking q.exported ++
    (q.name.toList ++ '=' :: '\'' :: (q.value.toList ++ '\'' :: Text.trimEnd q.ending)) := by
  have split : q.line = marking q.exported ++ (q.name.toList ++ '=' :: '\'' :: q.value.toList) ++
      '\'' :: q.ending := by
    simp only [line, List.append_assoc, List.cons_append]
  rw [split, Text.trimEnd_append_cons rfl]
  simp only [List.append_assoc, List.cons_append]
  exact q.writable.trimStart_marking_append q.exported _

/-- The line of an assignment says that the variable has just the value between the quotes. No
environment makes a difference to it. -/
theorem line?_line (env : Environment) : line? env q.line = some (some q.assignment) := by
  have value : value? env ('\'' :: (q.value.toList ++ '\'' :: Text.trimEnd q.ending)) =
      some q.value.toList := value?_quoted q.plain.1 q.ends
  rw [line?_of_assignment? q.trim_line (q.writable.assignment?_append q.exported rfl) value,
    String.ofList_toList, String.ofList_toList]
  rfl

/-- A line of an assignment in quotes means that assignment, in every environment. -/
theorem meaning?_line (env : Environment) :
    meaning? env (Utf8.encode q.line) = some (some q.assignment) := by
  rw [meaning?, Utf8.decode_encode]
  exact q.line?_line env

/-- A line has no line feed in it. -/
theorem not_mem_line : '\n' ∉ q.line := by
  have outside : '\n' ∉ marking q.exported := by
    cases q.exported with
    | false => exact List.not_mem_nil
    | true => decide
  have name : '\n' ∉ q.name.toList := fun h => absurd (q.writable.forall_isNamePart _ h) (by decide)
  simp only [line, List.mem_append, List.mem_cons, not_or]
  exact ⟨outside, name, by decide, by decide, q.plain.2.1, by decide, q.oneLine⟩

/-- A line is never empty. -/
theorem line_ne_nil : q.line ≠ [] := by simp [line]

/-! ## Files -/

/-- The file of a row of assignments, one on each line. If it is closed, a line feed stands behind
the last line too. -/
def file (qs : List Quoted) (closed : Bool) : Bytes :=
  Utf8.encode (['\n'].intercalate (qs.map line ++ if closed then [[]] else []))

variable {qs : List Quoted}

/-- The file is cut into the lines of the assignments again. -/
theorem lines_file (qs : List Quoted) (closed : Bool) :
    lines (file qs closed) = qs.map fun q => Utf8.encode q.line := by
  have noFeed : ∀ l ∈ qs.map line, '\n' ∉ l := List.forall_mem_map.2 fun q _ => q.not_mem_line
  have noEmpty : [] ∉ qs.map line := fun h =>
    have ⟨q, _, empty⟩ := List.mem_map.1 h
    q.line_ne_nil empty
  rw [file, lines_encode noFeed noEmpty, List.map_map]
  rfl

/-- Every line is an assignment, and the lines above it make no difference to it. -/
theorem assignments_lines (env : Environment) (qs : List Quoted) :
    assignments env (qs.map fun q => Utf8.encode q.line) = qs.map assignment := by
  induction qs generalizing env with
  | nil => rfl
  | cons q qs ih =>
    rw [List.map_cons, assignments_assigns (q.meaning?_line env), ih]
    rfl

/-- Loading the file supplies the values between the quotes, and nothing else. As there are no zero
bytes in them, it does not break off. -/
theorem load_file (env : Environment) (qs : List Quoted) (closed : Bool) :
    load env (file qs closed) = ⟨env.supplyAll (qs.map assignment), none⟩ := by
  have possible : made env (qs.map assignment) = qs.map assignment :=
    made_eq_self (List.forall_mem_map.2 fun q _ => q.plain.2.2)
  obtain ⟨rest, split, loaded⟩ := loadLines_eq env (lines (file qs closed))
  rw [lines_file, assignments_lines, possible] at split loaded
  obtain rfl : rest = [] := List.append_cancel_left (split.symm.trans (List.append_nil _).symm)
  rw [load, lines_file]
  exact loaded

/-- The variable of an assignment has a name. -/
theorem isName (q : Quoted) : Environment.IsName q.name := isName_of_line? (q.line?_line ⟨[]⟩)

/-- What a variable holds after the file was loaded. -/
theorem get?_load_file {name : String} (isName : Environment.IsName name) (closed : Bool) :
    (load env (file qs closed)).environment.get? name =
      if (env.text? name).isSome then env.get? name
      else (((qs.map assignment).lookup name).map Utf8.ofString).or (env.get? name) := by
  rw [load_file]
  exact Environment.get?_supplyAll (List.forall_mem_map.2 fun q _ => q.isName) isName

/-- A variable that held no text holds the value between its quotes. -/
theorem get?_load_file_of_mem (distinct : (qs.map Quoted.name).Nodup) {q : Quoted} (hq : q ∈ qs)
    (unset : env.text? q.name = none) (closed : Bool) :
    (load env (file qs closed)).environment.get? q.name = some (Utf8.ofString q.value) := by
  have found : (qs.map assignment).lookup q.name = some q.value := by
    apply lookup_eq_some_of_mem
    · rwa [List.map_map]
    · exact List.mem_map_of_mem hq
  rw [get?_load_file q.isName, unset, found]
  rfl

/-- A variable that is not assigned stays as it was. -/
theorem get?_load_file_of_not_mem {name : String} (isName : Environment.IsName name)
    (h : name ∉ qs.map Quoted.name) (closed : Bool) :
    (load env (file qs closed)).environment.get? name = env.get? name := by
  have notFound : (qs.map assignment).lookup name = none := by
    rw [List.lookup_eq_none_iff]
    intro a ha
    obtain ⟨q, hq, rfl⟩ := List.mem_map.1 ha
    exact bne_iff_ne.2 fun same => h (List.mem_map.2 ⟨q, hq, same.symm⟩)
  rw [get?_load_file isName, notFound]
  exact ite_self _

end Quoted

/-! ## What is read -/

/-- **What is written in single quotes is the value, to the letter.** If none of the variables of
such a file holds text yet, and no two assignments have one name, then each variable holds just what
is written between the quotes once the file is loaded, and all others stay as they were; loading does
not break off. So when two of them are the secrets, and are not blank, and the lifetimes are good, there
is a token policy with just these secrets. -/
theorem quoted_verbatim (env : Environment) (qs : List Quoted) (closed : Bool)
    (distinct : (qs.map Quoted.name).Nodup) (unset : ∀ q ∈ qs, env.text? q.name = none)
    {nearer : List Candidate} (noFile : ∀ c ∈ nearer, ¬ c.IsFile) (farther : List Candidate) :
    let candidates := nearer ++ .file (Quoted.file qs closed) :: farther
    let after := (loadNearest env candidates).environment
    (loadNearest env candidates).refused = none ∧
    (∀ q ∈ qs, after.get? q.name = some (Utf8.ofString q.value) ∧
      after.text? q.name = some q.value) ∧
    (∀ name, Environment.IsName name → name ∉ qs.map Quoted.name →
      after.get? name = env.get? name) ∧
    ∀ access ∈ qs, ∀ refresh ∈ qs, access.name = "ACCESS_TOKEN_SECRET" →
      refresh.name = "REFRESH_TOKEN_SECRET" → ¬ Text.Blank access.value.toList →
      ¬ Text.Blank refresh.value.toList →
      (Settings.Variable.lifetime "ACCESS_TOKEN_TTL_MINUTES" Settings.minute).Good after →
      (Settings.Variable.lifetime "REFRESH_TOKEN_TTL_DAYS" Settings.day).Good after →
      ∃ p, Settings.readPolicy env candidates = (.returned (.ok p), after) ∧
        p.accessSecret = access.value ∧ p.refreshSecret = refresh.value := by
  intro candidates after
  have found : loadNearest env candidates = load env (Quoted.file qs closed) := by
    rw [loadNearest, nearest?_append_file noFile]
  have loaded : after = (load env (Quoted.file qs closed)).environment :=
    congrArg Loading.environment found
  have finished : (loadNearest env candidates).refused = none := by
    rw [found, Quoted.load_file]
  have holds (q : Quoted) (hq : q ∈ qs) : after.get? q.name = some (Utf8.ofString q.value) := by
    rw [loaded]
    exact Quoted.get?_load_file_of_mem distinct hq (unset q hq) closed
  have reads (q : Quoted) (hq : q ∈ qs) : after.text? q.name = some q.value := by
    rw [Environment.text?, holds q hq]
    exact Utf8.string?_ofString q.value
  refine ⟨finished, fun q hq => ⟨holds q hq, reads q hq⟩, ?others, ?secrets⟩
  case others =>
    intro name isName other
    rw [loaded]
    exact Quoted.get?_load_file_of_not_mem isName other closed
  case secrets =>
    intro access hAccess refresh hRefresh accessName refreshName accessText refreshText minutes days
    have accessHeld := reads access hAccess
    have refreshHeld := reads refresh hRefresh
    rw [accessName] at accessHeld
    rw [refreshName] at refreshHeld
    obtain ⟨p, hp, secrets⟩ := Settings.exists_policy_of_secrets ⟨accessHeld, accessText⟩
      ⟨refreshHeld, refreshText⟩ minutes days
    have returned : (Settings.readPolicy env candidates).1 = .returned (.ok p) :=
      Settings.outcome_eq_returned_iff.2 ⟨finished, hp⟩
    exact ⟨p, Prod.ext returned rfl, secrets⟩

/-- Two secrets full of characters that mean something elsewhere, and a variable called `export`. -/
def awkward : List Quoted := [
  { name := "ACCESS_TOKEN_SECRET"
    value := "$HOME # \"\\ "
    exported := true
    ending := ' ' :: ['\t'] ++ '#' :: " it's a comment".toList
    writable := ⟨'A', _, rfl, rfl, List.all_eq_true.1 rfl⟩
    plain := by decide
    ends := .comment (List.forall_mem_cons.2 ⟨.inl rfl, List.forall_mem_singleton.2 (.inr rfl)⟩)
    oneLine := by decide },
  { name := "REFRESH_TOKEN_SECRET"
    value := "\r$ACCESS_TOKEN_SECRET"
    exported := false
    ending := ['\r']
    writable := ⟨'R', _, rfl, rfl, List.all_eq_true.1 rfl⟩
    plain := by decide
    ends := .blank (by decide)
    oneLine := by decide },
  { name := "export"
    value := ""
    exported := true
    ending := []
    writable := ⟨'e', _, rfl, rfl, List.all_eq_true.1 rfl⟩
    plain := by decide
    ends := .blank (by decide)
    oneLine := List.not_mem_nil }]

/-- Two secrets with signs, escapes and comments in them are read back letter by letter. -/
theorem quoted_verbatim_awkward :
    let file := Utf8.ofString ("export ACCESS_TOKEN_SECRET='$HOME # \"\\ ' \t# it's a comment\n" ++
      "REFRESH_TOKEN_SECRET='\r$ACCESS_TOKEN_SECRET'\r\nexport export=''\n")
    let read := Settings.readPolicy ⟨[]⟩ [.missing, .file file]
    read.2.get? "export" = some [] ∧
      ∃ p, read.1 = .returned (.ok p) ∧ p.accessSecret = "$HOME # \"\\ " ∧
        p.refreshSecret = "\r$ACCESS_TOKEN_SECRET" := by
  intro file read
  have written : Quoted.file awkward true = file := by decide +kernel
  clear_value file
  have noFile : ∀ c ∈ [Candidate.missing], ¬ c.IsFile := by
    rw [List.forall_mem_singleton]
    rintro ⟨_, ⟨⟩⟩
  obtain ⟨-, holds, others, secrets⟩ :=
    quoted_verbatim ⟨[]⟩ awkward true (by decide) (by decide) noFile []
  rw [written] at holds others secrets
  -- the lifetimes are neither in the file nor in the environment
  have absent (name : String) (isName : Environment.IsName name)
      (other : name ∉ awkward.map Quoted.name) (unit : Int) :
      (Settings.Variable.lifetime name unit).Good read.2 := by
    intro value held
    have unset : read.2.get? name = none := (others name isName other).trans (ite_self _)
    rw [Environment.text?, unset] at held
    cases held
  obtain ⟨p, hp, access, refresh⟩ := secrets _ (.head _) _ (.tail _ (.head _)) rfl rfl
    (by decide) (by decide) (absent _ ⟨by decide, by decide⟩ (by decide) _)
    (absent _ ⟨by decide, by decide⟩ (by decide) _)
  exact ⟨(holds _ (.tail _ (.tail _ (.head _)))).1, p, congrArg Prod.fst hp, access, refresh⟩

end Credentials.Config.SettingsFile
