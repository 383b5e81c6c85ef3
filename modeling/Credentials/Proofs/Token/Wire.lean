import Credentials.Proofs.Json.Presentations
import Credentials.Proofs.Token.Claims

/-!
# Claims in every form of JSON

Claims are read back from every text that presents them: the members may stand in any order, with
blanks, with escapes in the strings, and with further members between them.

* `AccessClaims.readsBack`, `RefreshClaims.readsBack` — the reader of each kind reads claims back.
* `lone_surrogate_refused` — a further member must have a text for a name: a surrogate that stands
  alone in a name is refused, although the name is none of a field.
* `claims_read_back` — **claims survive JSON in every form**, and an object that repeats or lacks a
  field is not read.
-/

namespace Credentials.Token

open Json

/-! ## Values in any spelling -/

/-- A text is read in any spelling. -/
theorem text?_written {s : String} {v : Tree} (h : Written (.str s) v) : v.text? = some s := by
  cases h with
  | str spelled => exact text?_eq_some_iff.2 spelled

/-- An identifier is read in any spelling of its text. -/
theorem uuid?_written {u : Uuid} {v : Tree} (h : Written (.str (String.ofList u.text)) v) :
    uuid? v = some u := by
  rw [uuid?, text?_written h, Option.bind_some, String.toList_ofList, Uuid.parse?_text]

/-- A timestamp is read from its integer. -/
theorem timestamp?_written {t : Timestamp} {v : Tree} (h : Written (.int t.toInt) v) :
    timestamp? v = some t := by
  cases h with
  | int => exact timestamp?_tree t

/-! ## Access claims -/

namespace AccessClaims

/-- Access claims are read back from each of their presentations. -/
theorem readsBack : ReadsBack ["user_id", "role", "iat", "nbf", "exp"] toJson ofTree? := by
  refine Json.readsBack (by decide) (fun c => ⟨_, rfl, rfl⟩) ofTree?_toJson ?makes ?asks
  case makes =>
    rintro c fields t known hfields hknown values
    obtain rfl := Json.obj.inj hfields
    simp only [List.forall_mem_cons, List.not_mem_nil, false_imp_iff, implies_true, and_true]
      at values
    obtain ⟨user, role, iat, nbf, exp⟩ := values
    rw [ofTree?, hknown]
    simp only [Option.bind_eq_bind, Option.bind_some, need_of_written user uuid?_written,
      need_of_written role text?_written, need_of_written iat timestamp?_written,
      need_of_written nbf timestamp?_written, need_of_written exp timestamp?_written]
    rfl
  case asks =>
    intro t c h
    simp only [ofTree?, Option.bind_eq_bind, Option.bind_eq_some_iff] at h
    obtain ⟨known, hknown, _, user, _, role, _, iat, _, nbf, _, exp, -⟩ := h
    refine ⟨known, hknown, ?_⟩
    simp only [List.forall_mem_cons, List.not_mem_nil, false_imp_iff, implies_true, and_true]
    exact ⟨lookup_ne_none_of_need user, lookup_ne_none_of_need role, lookup_ne_none_of_need iat,
      lookup_ne_none_of_need nbf, lookup_ne_none_of_need exp⟩

end AccessClaims

/-! ## Refresh claims -/

namespace RefreshClaims

/-- Refresh claims are read back from each of their presentations. -/
theorem readsBack : ReadsBack ["sub", "jti", "iat", "exp"] toJson ofTree? := by
  refine Json.readsBack (by decide) (fun c => ⟨_, rfl, rfl⟩) ofTree?_toJson ?makes ?asks
  case makes =>
    rintro c fields t known hfields hknown values
    obtain rfl := Json.obj.inj hfields
    simp only [List.forall_mem_cons, List.not_mem_nil, false_imp_iff, implies_true, and_true]
      at values
    obtain ⟨sub, jti, iat, exp⟩ := values
    rw [ofTree?, hknown]
    simp only [Option.bind_eq_bind, Option.bind_some, need_of_written sub text?_written,
      need_of_written jti text?_written, need_of_written iat timestamp?_written,
      need_of_written exp timestamp?_written]
    rfl
  case asks =>
    intro t c h
    simp only [ofTree?, Option.bind_eq_bind, Option.bind_eq_some_iff] at h
    obtain ⟨known, hknown, _, sub, _, jti, _, iat, _, exp, -⟩ := h
    refine ⟨known, hknown, ?_⟩
    simp only [List.forall_mem_cons, List.not_mem_nil, false_imp_iff, implies_true, and_true]
    exact ⟨lookup_ne_none_of_need sub, lookup_ne_none_of_need jti, lookup_ne_none_of_need iat,
      lookup_ne_none_of_need exp⟩

end RefreshClaims

/-! ## Names that are no texts -/

/-- The fields of refresh claims with empty texts and the times zero. -/
def emptyFields : List (String × Json) :=
  [("sub", .str ""), ("jti", .str ""), ("iat", .int 0), ("exp", .int 0)]

/-- A member whose name is a surrogate that stands alone. -/
def nameless : Member := ([.unit 0xD800], .number (.ofInt 0))

/-- A surrogate that stands alone is no name. -/
theorem not_hasName_nameless (name : String) : ¬ HasName name nameless := by
  intro h
  have means := text?_eq_some_iff.2 h
  cases means

/-- The text of an object with this member before the fields. -/
theorem objectText_nameless : ObjectText (nameless :: memberTrees emptyFields)
    (Utf8.ofString "\x7b\"\\ud800\":0,\"sub\":\"\",\"jti\":\"\",\"iat\":0,\"exp\":0\x7d") := by
  have zero : render (.int 0) = ['0'] := render_int_small (by decide)
  have fields := rowText_renderMembers emptyFields rowText_end
  have rendered : renderMembers emptyFields =
      "\"sub\":\"\",\"jti\":\"\",\"iat\":0,\"exp\":0\x7d".toList := by
    simp only [emptyFields, renderMembers, zero]
    decide
  have value := rowText_colon (rowText_value (.int 0) fields)
  have name := rowText_string (.unit (w := 0x64) (x := 0x38) (y := 0x30) (z := 0x30) rfl .nil) value
  have row := rowText_open areBlank_nil name
  rw [List.append_nil, rendered, zero] at row
  exact row

/-- A member without a name does not keep the others from giving their fields. -/
theorem presents_nameless : Presents emptyFields (nameless :: memberTrees emptyFields) := by
  refine ⟨memberTrees emptyFields, [nameless], (List.perm_append_singleton _ _).symm, ?_, ?_⟩
  · have empty (name : String) : Gives (name, .str "") (pieces name, tree (.str "")) :=
      gives_str name "" (spelling_pieces name) (spelling_pieces "")
    exact .cons (empty _) (.cons (empty _) (.cons (gives_int _ 0) (.cons (gives_int _ 0) .nil)))
  · intro name _ m hm
    obtain rfl := List.mem_singleton.1 hm
    exact not_hasName_nameless name

/-- A surrogate that stands alone is the name of no field, and yet an object is refused for a
further member with this name. -/
theorem lone_surrogate_refused :
    let claims : RefreshClaims := ⟨"", "", 0, 0⟩
    let text := Utf8.ofString
      "\x7b\"\\ud800\":0,\"sub\":\"\",\"jti\":\"\",\"iat\":0,\"exp\":0\x7d"
    ∃ fields ms, claims.toJson = .obj fields ∧ ObjectText ms text ∧ Presents fields ms ∧
      (Tree.read? text).bind RefreshClaims.ofTree? = none := by
  refine ⟨emptyFields, _, rfl, objectText_nameless, presents_nameless, ?_⟩
  apply RefreshClaims.readsBack.unnamed objectText_nameless
  intro named
  obtain ⟨name, h⟩ := named nameless List.mem_cons_self
  exact not_hasName_nameless name h

/-! ## Claims in every form -/

/-- Members that give the fields of refresh claims from the last to the first, with escapes, and one
more. -/
def respelled : List Member :=
  [(pieces "x", tree (.arr [.null])), (pieces "exp", tree (.int 7)), (pieces "iat", tree (.int 0)),
    ([.unit 0x6A, .byte 0x74, .byte 0x69], .string [.unit 0xD83D, .unit 0xDE00]),
    (pieces "sub", .string [.byte 0x2F])]

/-- A text of an object with these members. -/
def respelledText : String := " \x7b\"x\":[null],\"exp\":7,\"iat\":0," ++
  "\"\\u006ati\":\"\\ud83d\\ude00\",\"sub\":\"\\/\"\x7d"

/-- The text is an object with the members, in their order. -/
theorem objectText_respelled : ObjectText respelled (Utf8.ofString respelledText) := by
  have closed := rowText_close rowText_end
  have sub := rowText_quote "sub"
    (rowText_colon (rowText_string (.short (e := 0x2F) rfl .nil) closed))
  have emoji := rowText_string (.unit (w := 0x64) (x := 0x38) (y := 0x33) (z := 0x64) rfl
    (.unit (w := 0x64) (x := 0x65) (y := 0x30) (z := 0x30) rfl .nil)) (rowText_comma sub)
  have ti : Lexeme.StringText [.byte 0x74, .byte 0x69] [0x74, 0x69] :=
    .byte (by decide) (by decide) (by decide) (.byte (by decide) (by decide) (by decide) .nil)
  have jti := rowText_string (.unit (w := 0x30) (x := 0x30) (y := 0x36) (z := 0x61) rfl ti)
    (rowText_colon emoji)
  have iat := rowText_quote "iat" (rowText_colon (rowText_value (.int 0) jti))
  have exp := rowText_quote "exp" (rowText_colon (rowText_value (.int 7) iat))
  have x := rowText_quote "x" (rowText_colon (rowText_value (.arr [.null]) exp))
  have blank : Lexeme.AreBlank [0x20] := by
    rw [Lexeme.AreBlank, List.forall_mem_singleton]
    rfl
  have row := rowText_open blank x
  have zero : render (.int 0) = ['0'] := render_int_small (by decide)
  have seven : render (.int 7) = ['7'] := render_int_small (by decide)
  rw [zero, seven] at row
  exact row

/-- A name with an escape in it is the name it spells. -/
theorem hasName_jti {v : Tree} : HasName "jti" ([.unit 0x6A, .byte 0x74, .byte 0x69], v) :=
  .unit rfl (.plain (.plain .nil))

/-- The members give the fields, though in another order and spelling. -/
theorem presents_respelled :
    Presents [("sub", .str "/"), ("jti", .str "😀"), ("iat", .int 0), ("exp", .int 7)]
      respelled := by
  have slash : Spelling "/".toList [.byte 0x2F] := .plain .nil
  have emoji : Spelling "😀".toList [.unit 0xD83D, .unit 0xDE00] :=
    .pair ⟨by decide, by decide, by decide⟩ .nil
  refine ⟨respelled.reverse.take 4, [(pieces "x", tree (.arr [.null]))],
    (List.reverse_perm respelled).symm, ?_, ?_⟩
  · exact .cons (gives_str _ _ (spelling_pieces "sub") slash) (.cons
      (gives_str _ _ hasName_jti emoji) (.cons (gives_int _ 0) (.cons (gives_int _ 7) .nil)))
  · intro name hname m hm other
    obtain rfl := List.mem_singleton.1 hm
    obtain rfl := other.unique (spelling_pieces "x")
    exact absurd hname (by decide)

/-- All members have names. -/
theorem named_respelled : Named respelled := by
  simp only [Named, respelled, List.forall_mem_cons, List.not_mem_nil, false_imp_iff, implies_true,
    and_true]
  exact ⟨⟨_, spelling_pieces "x"⟩, ⟨_, spelling_pieces "exp"⟩, ⟨_, spelling_pieces "iat"⟩,
    ⟨_, hasName_jti⟩, _, spelling_pieces "sub"⟩

/-- **Claims survive JSON in every form.** The text that is written of claims of either kind is read
as these claims, and so is every text of an object that gives their fields once each, in any order
and with any blanks and escapes, and has further members whose names are texts and none of a field.
An object that gives a field twice or not at all is not read, and neither is one with a name that is
no text. -/
theorem claims_read_back :
    ReadsBack ["user_id", "role", "iat", "nbf", "exp"] AccessClaims.toJson AccessClaims.ofTree? ∧
      ReadsBack ["sub", "jti", "iat", "exp"] RefreshClaims.toJson RefreshClaims.ofTree? :=
  ⟨AccessClaims.readsBack, RefreshClaims.readsBack⟩

/-- Refresh claims from the last field to the first, with an escape in a name, a surrogate pair, an
escaped slash, a blank, and a further member. -/
theorem claims_read_back_respelled :
    (Tree.read? (Utf8.ofString respelledText)).bind RefreshClaims.ofTree? =
      some ⟨"/", "😀", 0, 7⟩ :=
  claims_read_back.2.presented rfl objectText_respelled presents_respelled named_respelled

end Credentials.Token
