import Mathlib.Data.List.Forall2
import Mathlib.Data.List.Nodup
import Mathlib.Data.List.Perm.Basic
import Credentials.Proofs.Json.Records
import Credentials.Proofs.Json.Spelling

/-!
# Objects that present a record

A record can be presented by many objects, and each object has many texts.

* `ObjectText` — the texts of an object: blanks may stand between its lexemes, and characters of its
  strings may be escaped.
* `Presents` — the object gives the fields of a record in any order, and has further members with
  other names between them.
* `Presents.exists_fields?` — **its reader finds the fields**, if all names are texts (`Named`).
* `Repeats`, `Lacks` — a field is given twice, or not at all.
* `ReadsBack`, `readsBack` — what this means for a reader of records: it reads the record from
  whatever presents it, and nothing from an object that repeats or lacks a field or has a name that
  is no text.
-/

namespace Credentials.Json

/-! ## Objects -/

/-- A member of an object as read. -/
abbrev Member := List Piece × Tree

/-- The text is an object with these members. -/
def ObjectText (ms : List Member) (text : Bytes) : Prop :=
  Lexeme.RowText (Tree.object ms).lexemes text

/-- The name of the member is this one. -/
def HasName (name : String) (m : Member) : Prop := Spelling name.toList m.1

/-- The names of the members are texts. -/
def Named (ms : List Member) : Prop := ∀ m ∈ ms, ∃ name, HasName name m

/-- Two members have the name. -/
def Repeats (name : String) (ms : List Member) : Prop :=
  ∃ m m', [m, m'].Sublist ms ∧ HasName name m ∧ HasName name m'

/-- No member has the name. -/
def Lacks (name : String) (ms : List Member) : Prop := ∀ m ∈ ms, ¬ HasName name m

/-- A value that is an integer, or a text in any spelling. -/
inductive Written : Json → Tree → Prop
  | int (i : Int) : Written (.int i) (.number (.ofInt i))
  | str {s : String} {ps : List Piece} (h : Spelling s.toList ps) : Written (.str s) (.string ps)

/-- The member gives the field, with its value. -/
def Gives (field : String × Json) (m : Member) : Prop := HasName field.1 m ∧ Written field.2 m.2

/-- The members give the fields, each once and in any order, and all further members have other
names. -/
def Presents (fields : List (String × Json)) (ms : List Member) : Prop :=
  ∃ given further, ms.Perm (given ++ further) ∧ List.Forall₂ Gives fields given ∧
    ∀ name ∈ fields.map Prod.fst, Lacks name further

/-! ## Texts of objects -/

section

open Lexeme

variable {ls : List Lexeme} {text : Bytes}

/-- Whatever is no number may stand before any row. -/
theorem rowText_no_number {blanks t : Bytes} {l : Lexeme} (hb : AreBlank blanks)
    (ht : LexemeText l t) (noNumber : ∀ n, l ≠ .number n) (h : RowText ls text) :
    RowText (l :: ls) (blanks ++ t ++ text) := by
  refine .cons hb ht ?_ h
  rintro ⟨n, rfl⟩
  exact absurd rfl (noNumber n)

/-- No bytes at all are blank. -/
theorem areBlank_nil : AreBlank [] := by
  intro b hb
  cases hb

/-- The empty row has the empty text. -/
theorem rowText_end : RowText [] [] := .blank areBlank_nil

/-- A row goes on behind a comma. -/
theorem rowText_comma (h : RowText ls text) : RowText (.comma :: ls) (0x2C :: text) :=
  rowText_no_number areBlank_nil (.mark rfl) (by simp) h

/-- A row goes on behind a colon. -/
theorem rowText_colon (h : RowText ls text) : RowText (.colon :: ls) (0x3A :: text) :=
  rowText_no_number areBlank_nil (.mark rfl) (by simp) h

/-- A row goes on behind a closing brace. -/
theorem rowText_close (h : RowText ls text) : RowText (.closeBrace :: ls) (0x7D :: text) :=
  rowText_no_number areBlank_nil (.mark rfl) (by simp) h

/-- A row goes on behind an opening brace, which may have blanks before it. -/
theorem rowText_open {blanks : Bytes} (hb : AreBlank blanks) (h : RowText ls text) :
    RowText (.openBrace :: ls) (blanks ++ [0x7B] ++ text) :=
  rowText_no_number hb (.mark rfl) (by simp) h

/-- A row goes on behind a string. -/
theorem rowText_string {ps : List Piece} {t : Bytes} (ht : StringText ps t)
    (h : RowText ls text) : RowText (.string ps :: ls) (0x22 :: t ++ [0x22] ++ text) := by
  have row := rowText_no_number areBlank_nil (.string ht) (by simp) h
  rwa [List.nil_append] at row

/-- A value with a comma behind it. -/
theorem rowText_value (j : Json) (h : RowText ls text) :
    RowText ((tree j).lexemes ++ .comma :: ls) (Utf8.encode (render j) ++ 0x2C :: text) :=
  rowText_render j (rowText_comma h) (stops_cons rfl)

end

/-- A number below ten is written as one digit. -/
theorem render_int_small {n : Nat} (h : n < 10) : render (.int n) = [Decimal.digitChar n] := by
  rw [render, Decimal.ofInt, if_neg (by omega), Decimal.ofNat, if_pos (by omega)]
  rfl

/-- A member with a text in any spelling gives the text. -/
theorem gives_str (name s : String) {ps qs : List Piece} (hname : HasName name (ps, .string qs))
    (hs : Spelling s.toList qs) : Gives (name, .str s) (ps, .string qs) := ⟨hname, .str hs⟩

/-- A member as it is written gives its integer. -/
theorem gives_int (name : String) (i : Int) : Gives (name, .int i) (pieces name, tree (.int i)) :=
  ⟨spelling_pieces name, .int i⟩

/-! ## Names -/

variable {ms ms' : List Member} {named : Fields} {names : List String} {name : String}

/-- A member has one name. -/
theorem HasName.unique {name' : String} {m : Member} (h : HasName name m) (h' : HasName name' m) :
    name = name' := String.toList_inj.1 (Spelling.unique h h')

/-- The members have names if the first has one and the others have. -/
theorem namedMembers?_cons_eq_some_iff {m : Member} : namedMembers? (m :: ms) = some named ↔
    ∃ name rest, HasName name m ∧ namedMembers? ms = some rest ∧ named = (name, m.2) :: rest := by
  simp only [namedMembers?, Option.bind_eq_bind, Option.bind_eq_some_iff, text?_eq_some_iff,
    Option.pure_def, Option.some.injEq, HasName]
  constructor
  · rintro ⟨name, spelled, rest, hrest, rfl⟩
    exact ⟨name, rest, spelled, hrest, rfl⟩
  · rintro ⟨name, rest, spelled, hrest, rfl⟩
    exact ⟨name, spelled, rest, hrest, rfl⟩

/-- Members have names one by one. -/
theorem namedMembers?_eq_some_iff : namedMembers? ms = some named ↔
    List.Forall₂ (fun m n => HasName n.1 m ∧ m.2 = n.2) ms named := by
  induction ms generalizing named with
  | nil =>
    rw [namedMembers?, List.forall₂_nil_left_iff, Option.some.injEq, eq_comm]
  | cons m ms ih =>
    rw [namedMembers?_cons_eq_some_iff, List.forall₂_cons_left_iff]
    constructor
    · rintro ⟨name, rest, hname, hrest, rfl⟩
      exact ⟨_, rest, ⟨hname, rfl⟩, ih.1 hrest, rfl⟩
    · rintro ⟨⟨name, v⟩, rest, ⟨hname, rfl⟩, hrest, rfl⟩
      exact ⟨name, rest, hname, ih.2 hrest, rfl⟩

/-- All members have names if each has one. -/
theorem exists_namedMembers?_iff : (∃ named, namedMembers? ms = some named) ↔ Named ms := by
  induction ms with
  | nil => exact ⟨fun _ _ h => absurd h List.not_mem_nil, fun _ => ⟨[], rfl⟩⟩
  | cons m ms ih =>
    rw [Named, List.forall_mem_cons, ← Named, ← ih]
    simp only [namedMembers?_cons_eq_some_iff]
    constructor
    · rintro ⟨_, name, rest, hname, hrest, -⟩
      exact ⟨⟨name, hname⟩, rest, hrest⟩
    · rintro ⟨⟨name, hname⟩, rest, hrest⟩
      exact ⟨_, name, rest, hname, hrest, rfl⟩

/-- The names do not depend on the order. -/
theorem exists_named_of_perm (order : ms.Perm ms') (h : namedMembers? ms = some named) :
    ∃ named', namedMembers? ms' = some named' ∧ named'.Perm named := by
  obtain ⟨named', hnamed', order'⟩ :=
    List.perm_comp_forall₂ order.symm (namedMembers?_eq_some_iff.1 h)
  exact ⟨named', namedMembers?_eq_some_iff.2 hnamed', order'⟩

/-- If all members have names, then some of them have, and the same ones. -/
theorem exists_named_of_sublist (sub : ms'.Sublist ms) (h : namedMembers? ms = some named) :
    ∃ named', namedMembers? ms' = some named' ∧ named'.Sublist named := by
  induction sub generalizing named with
  | slnil => exact ⟨named, h, List.Sublist.refl _⟩
  | cons m _ ih =>
    obtain ⟨name, rest, -, hrest, rfl⟩ := namedMembers?_cons_eq_some_iff.1 h
    obtain ⟨named', hnamed', sub'⟩ := ih hrest
    exact ⟨named', hnamed', sub'.cons _⟩
  | cons_cons m _ ih =>
    obtain ⟨name, rest, hname, hrest, rfl⟩ := namedMembers?_cons_eq_some_iff.1 h
    obtain ⟨named', hnamed', sub'⟩ := ih hrest
    exact ⟨_, namedMembers?_cons_eq_some_iff.2 ⟨name, named', hname, hnamed', rfl⟩,
      sub'.cons_cons _⟩

/-- Every named member is a member with its name. -/
theorem exists_member_of_mem (h : namedMembers? ms = some named) {n : String × Tree}
    (hn : n ∈ named) : ∃ m ∈ ms, HasName n.1 m := by
  induction ms generalizing named with
  | nil =>
    cases h
    cases hn
  | cons m ms ih =>
    obtain ⟨name, rest, hname, hrest, rfl⟩ := namedMembers?_cons_eq_some_iff.1 h
    rcases List.mem_cons.1 hn with rfl | hn
    · exact ⟨m, List.mem_cons_self, hname⟩
    · obtain ⟨m', hm', hname'⟩ := ih hrest hn
      exact ⟨m', List.mem_cons_of_mem _ hm', hname'⟩

/-! ## Fields -/

variable {fields : List (String × Json)} {given further : List Member}

/-- The members that give the fields are known by their names. -/
theorem exists_given (gives : List.Forall₂ Gives fields given)
    (h : namedMembers? (given ++ further) = some named) :
    ∃ got rest, named = got ++ rest ∧ namedMembers? further = some rest ∧
      got.map Prod.fst = fields.map Prod.fst ∧
      ∀ f ∈ fields, ∃ v, (f.1, v) ∈ got ∧ Written f.2 v := by
  induction gives generalizing named with
  | nil => exact ⟨[], named, rfl, h, rfl, fun _ hf => absurd hf List.not_mem_nil⟩
  | @cons f m _ _ gives _ ih =>
    obtain ⟨hname, written⟩ := gives
    obtain ⟨name, tail, hname', htail, rfl⟩ := namedMembers?_cons_eq_some_iff.1 h
    obtain rfl := hname.unique hname'
    obtain ⟨got, rest, rfl, hrest, hnames, values⟩ := ih htail
    refine ⟨(f.1, m.2) :: got, rest, rfl, hrest, ?_, ?_⟩
    · rw [List.map_cons, List.map_cons, hnames]
    · rw [List.forall_mem_cons]
      refine ⟨⟨m.2, List.mem_cons_self, written⟩, fun f' hf' => ?_⟩
      obtain ⟨v, hv, written'⟩ := values f' hf'
      exact ⟨v, List.mem_cons_of_mem _ hv, written'⟩

/-- **The reader of a record finds its fields** in every object that presents it, if all names are
texts. -/
theorem Presents.exists_fields? (h : Presents fields ms) (hnamed : Named ms)
    (nodup : (fields.map Prod.fst).Nodup) :
    ∃ known, (Tree.object ms).fields? (fields.map Prod.fst) = some known ∧
      ∀ f ∈ fields, ∃ v, known.lookup f.1 = some v ∧ Written f.2 v := by
  obtain ⟨given, further, order, gives, others⟩ := h
  obtain ⟨named, hms⟩ := exists_namedMembers?_iff.2 hnamed
  obtain ⟨named', hnamed', order'⟩ := exists_named_of_perm order hms
  obtain ⟨got, rest, rfl, hrest, hnames, values⟩ := exists_given gives hnamed'
  have fieldsOnly : (got ++ rest).filter (·.1 ∈ fields.map Prod.fst) = got := by
    rw [List.filter_append, List.filter_eq_self.2, List.filter_eq_nil_iff.2, List.append_nil]
    · intro n hn
      obtain ⟨m, hm, hname⟩ := exists_member_of_mem hrest hn
      rw [decide_eq_true_eq]
      exact fun isField => others n.1 isField m hm hname
    · intro n hn
      rw [decide_eq_true_eq, ← hnames]
      exact List.mem_map_of_mem hn
  have order'' : (named.filter (·.1 ∈ fields.map Prod.fst)).Perm got := by
    rw [← fieldsOnly]
    exact (order'.filter _).symm
  have nodup' : ((named.filter (·.1 ∈ fields.map Prod.fst)).map Prod.fst).Nodup := by
    rw [(order''.map Prod.fst).nodup_iff, hnames]
    exact nodup
  refine ⟨_, fields?_object_eq_some_iff.2 ⟨named, hms, rfl, nodup'⟩, fun f hf => ?_⟩
  obtain ⟨v, hv, written⟩ := values f hf
  exact ⟨v, lookup_eq_some_of_mem nodup' (order''.mem_iff.2 hv), written⟩

/-! ## Objects that present no record -/

/-- No fields are read from an object with a name that is no text. -/
theorem fields?_eq_none_of_unnamed (h : ¬ Named ms) : (Tree.object ms).fields? names = none := by
  rw [Option.eq_none_iff_forall_ne_some]
  intro known hknown
  obtain ⟨named, hnamed, -⟩ := fields?_object_eq_some_iff.1 hknown
  exact h (exists_namedMembers?_iff.1 ⟨named, hnamed⟩)

/-- No fields are read from an object that repeats one of them. -/
theorem fields?_eq_none_of_repeats (hname : name ∈ names) (h : Repeats name ms) :
    (Tree.object ms).fields? names = none := by
  rw [Option.eq_none_iff_forall_ne_some]
  intro known hknown
  obtain ⟨named, hnamed, rfl, nodup⟩ := fields?_object_eq_some_iff.1 hknown
  obtain ⟨m, m', sub, hm, hm'⟩ := h
  obtain ⟨both, hboth, sub'⟩ := exists_named_of_sublist sub hnamed
  obtain ⟨_, _, hname', hlast, rfl⟩ := namedMembers?_cons_eq_some_iff.1 hboth
  obtain ⟨_, _, hname'', hnil, rfl⟩ := namedMembers?_cons_eq_some_iff.1 hlast
  obtain rfl := hm.unique hname'
  obtain rfl := hm'.unique hname''
  have twice := (sub'.filter (·.1 ∈ names)).map Prod.fst
  cases hnil
  simp only [List.filter_cons, hname, decide_true, if_true, List.map_cons] at twice
  exact List.nodup_iff_sublist.1 nodup name twice

/-- A field is not found if no member has its name. -/
theorem lookup_eq_none_of_lacks {known : Fields} (hname : name ∈ names) (h : Lacks name ms)
    (hknown : (Tree.object ms).fields? names = some known) : known.lookup name = none := by
  obtain ⟨named, hnamed, same⟩ := lookup_fields?_object hknown
  rw [same name hname, List.lookup_eq_none_iff]
  intro n hn
  obtain ⟨m, hm, hname'⟩ := exists_member_of_mem hnamed hn
  rw [bne_iff_ne]
  rintro rfl
  exact h m hm hname'

/-! ## Readers of records -/

/-- A field is read if it is read in whatever way its value is written. -/
theorem need_of_written {α : Type} {known : Fields} {j : Json} {read : Tree → Option α} {a : α}
    (h : ∃ v, known.lookup name = some v ∧ Written j v)
    (reads : ∀ {v}, Written j v → read v = some a) : known.need name read = some a := by
  obtain ⟨v, hv, written⟩ := h
  rw [Fields.need, hv, Option.bind_some, reads written]

/-- A field that was needed and read is there. -/
theorem lookup_ne_none_of_need {α : Type} {known : Fields} {read : Tree → Option α} {a : α}
    (h : known.need name read = some a) : known.lookup name ≠ none := by
  intro none
  rw [Fields.need, none] at h
  cases h

/-- A reader of records with these field names reads a record back in whatever form it is presented,
and reads no object that repeats or lacks a field or has a name that is no text. -/
structure ReadsBack {α : Type} (names : List String) (toJson : α → Json)
    (ofTree? : Tree → Option α) : Prop where
  /-- A record has these fields. -/
  fields (r : α) : ∃ fields, toJson r = .obj fields ∧ fields.map Prod.fst = names
  /-- The text that is written of a record is read as the record. -/
  written (r : α) : (Tree.read? (Utf8.ofString (toJson r).text)).bind ofTree? = some r
  /-- So is every text of an object that presents the record, if its names are texts. -/
  presented {r : α} {fields : List (String × Json)} (hr : toJson r = .obj fields)
    {ms : List Member} {text : Bytes} (htext : ObjectText ms text) (presents : Presents fields ms)
    (named : Named ms) : (Tree.read? text).bind ofTree? = some r
  /-- An object with a name that is no text is not read. -/
  unnamed {ms : List Member} {text : Bytes} (htext : ObjectText ms text) (h : ¬ Named ms) :
    (Tree.read? text).bind ofTree? = none
  /-- An object that gives a field twice is not read. -/
  repeated {ms : List Member} {text : Bytes} (htext : ObjectText ms text) {name : String}
    (hname : name ∈ names) (h : Repeats name ms) : (Tree.read? text).bind ofTree? = none
  /-- An object that does not give a field is not read. -/
  lacking {ms : List Member} {text : Bytes} (htext : ObjectText ms text) {name : String}
    (hname : name ∈ names) (h : Lacks name ms) : (Tree.read? text).bind ofTree? = none

section

variable {α : Type} {toJson : α → Json} {ofTree? : Tree → Option α}

/-- A reader that asks for all fields does not read an object in which one is not found. -/
theorem not_read {text : Bytes} (asks : ∀ t r, ofTree? t = some r →
      ∃ known, t.fields? names = some known ∧ ∀ name ∈ names, known.lookup name ≠ none)
    (htext : ObjectText ms text) (unfound : ∀ known, (Tree.object ms).fields? names = some known →
      ∃ name ∈ names, known.lookup name = none) :
    (Tree.read? text).bind ofTree? = none := by
  rw [Tree.read?_of_rowText htext, Option.bind_some, Option.eq_none_iff_forall_ne_some]
  intro r hr
  obtain ⟨known, hknown, all⟩ := asks _ r hr
  obtain ⟨name, hname, missing⟩ := unfound known hknown
  exact all name hname missing

/-- A reader reads records back if it makes the record of its fields in whatever way their values
are written, and asks for all fields. -/
theorem readsBack (nodup : names.Nodup)
    (hfields : ∀ r, ∃ fields, toJson r = .obj fields ∧ fields.map Prod.fst = names)
    (back : ∀ r, ofTree? (tree (toJson r)) = some r)
    (makes : ∀ r fields t known, toJson r = .obj fields → t.fields? names = some known →
      (∀ f ∈ fields, ∃ v, known.lookup f.1 = some v ∧ Written f.2 v) → ofTree? t = some r)
    (asks : ∀ t r, ofTree? t = some r → ∃ known, t.fields? names = some known ∧
      ∀ name ∈ names, known.lookup name ≠ none) :
    ReadsBack names toJson ofTree? where
  fields := hfields
  written r := by
    rw [read?_text, Option.bind_some, back]
  presented {r fields} hr ms text htext presents named := by
    obtain ⟨fields', hr', rfl⟩ := hfields r
    obtain rfl := Json.obj.inj (hr.symm.trans hr')
    obtain ⟨known, hknown, values⟩ := presents.exists_fields? named nodup
    rw [Tree.read?_of_rowText htext, Option.bind_some]
    exact makes r fields _ known hr hknown values
  unnamed {ms text} htext h := by
    refine not_read asks htext fun known hknown => ?_
    rw [fields?_eq_none_of_unnamed h] at hknown
    cases hknown
  repeated {ms text} htext name hname h := by
    refine not_read asks htext fun known hknown => ?_
    rw [fields?_eq_none_of_repeats hname h] at hknown
    cases hknown
  lacking {ms text} htext name hname h :=
    not_read asks htext fun _ hknown => ⟨name, hname, lookup_eq_none_of_lacks hname h hknown⟩

end

end Credentials.Json
