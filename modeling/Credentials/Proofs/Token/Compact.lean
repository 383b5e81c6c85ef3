import Credentials.Proofs.Text.Base64
import Credentials.Proofs.Text.Utf8
import Credentials.Token.Compact

/-!
# Taking a token apart

`split?_eq_some_iff`: the three parts of a text are those that put together to it, with no full stop
in the payload and the signature. The parts of a token that was made here are in base 64 and have
none at all, so `ofString_text` gives back the parts as they were put in, and `count_dot_text`
counts two full stops.
-/

namespace Credentials.Token.Compact

/-! ## Splitting at full stops -/

/-- A text is split at a full stop just if there is none behind it. -/
theorem splitLast?_eq_some_iff {text before behind : Bytes} :
    splitLast? text = some (before, behind) ↔ text = before ++ dot :: behind ∧ dot ∉ behind := by
  constructor
  · intro h
    have whole : text.reverse.takeWhile (· != dot) ++ text.reverse.dropWhile (· != dot) =
        text.reverse := List.takeWhile_append_dropWhile
    have noDot : dot ∉ text.reverse.takeWhile (· != dot) := fun hd => by
      simpa using List.all_eq_true.1 List.all_takeWhile dot hd
    unfold splitLast? at h
    split at h
    case h_1 => cases h
    case h_2 d rest hrest =>
      have hd : d = dot := by
        have := List.head?_dropWhile_not (· != dot) text.reverse
        rw [hrest] at this
        simpa using this
      have whole := congrArg List.reverse whole
      rw [hrest, hd] at whole
      cases h
      refine ⟨by simpa using whole.symm, ?_⟩
      rwa [List.mem_reverse]
  · rintro ⟨rfl, h⟩
    -- seen from its end, the text begins with what is behind the last full stop
    have stays : ∀ b ∈ behind.reverse, (b != dot) = true := by
      intro b hb
      rw [bne_iff_ne]
      rintro rfl
      exact h (List.mem_reverse.1 hb)
    have reversed : (before ++ dot :: behind).reverse =
        behind.reverse ++ dot :: before.reverse := by
      simp
    rw [splitLast?, reversed, List.dropWhile_append_of_pos stays,
      List.takeWhile_append_of_pos stays]
    simp

/-- The parts of a text are those that it is put together of, with no full stop in the last two. -/
theorem split?_eq_some_iff {text header payload signature : Bytes} :
    split? text = some (header, payload, signature) ↔
      text = join header payload signature ∧ dot ∉ payload ∧ dot ∉ signature := by
  simp only [split?, Option.bind_eq_bind, Option.bind_eq_some_iff, Option.pure_def, Prod.exists,
    splitLast?_eq_some_iff, Option.some.injEq, Prod.mk.injEq, join]
  constructor
  · rintro ⟨message, _, ⟨rfl, hs⟩, _, _, ⟨rfl, hp⟩, rfl, rfl, rfl⟩
    exact ⟨by simp, hp, hs⟩
  · rintro ⟨rfl, hp, hs⟩
    exact ⟨_, _, ⟨by simp, hs⟩, _, _, ⟨rfl, hp⟩, rfl, rfl, rfl⟩

/-! ## Encoded parts -/

/-- No encoded part has a full stop in it. -/
theorem dot_not_mem_encoded (bs : Bytes) : dot ∉ encoded bs := fun h =>
  Base64.dot_not_mem_url (Base64.mem_symbols_of_mem_encode h)

/-- Encoded parts are ASCII. -/
theorem encoded_ascii {bs : Bytes} {b : UInt8} (h : b ∈ encoded bs) : b.toNat < 0x80 :=
  Base64.url_ascii b (Base64.mem_symbols_of_mem_encode h)

/-- A part is decoded to some bytes just if it is their encoded form. -/
theorem decode_eq_ok_iff {part bs : Bytes} :
    Base64.decode .url part = .ok bs ↔ part = encoded bs :=
  Base64.decode_eq_ok_iff Base64.equals_not_mem_url

/-- Encoded parts tell their bytes. -/
theorem encoded_injective {as bs : Bytes} (h : encoded as = encoded bs) : as = bs := by
  have hd : Base64.decode .url (encoded as) = .ok bs := decode_eq_ok_iff.2 h
  rw [decode_eq_ok_iff.2 rfl] at hd
  exact Except.ok.inj hd

/-! ## Whole tokens -/

/-- The text of three parts. -/
def text (header payload signature : Bytes) : String :=
  String.ofList (join header payload signature).chars

/-- The text of encoded parts holds just these bytes. -/
theorem ofString_text (a b c : Bytes) :
    Utf8.ofString (text (encoded a) (encoded b) (encoded c)) =
      join (encoded a) (encoded b) (encoded c) := by
  refine Utf8.ofString_chars fun x hx => ?_
  simp only [join, List.append_assoc, List.cons_append, List.mem_append, List.mem_cons] at hx
  rcases hx with hx | rfl | hx | rfl | hx
  · exact encoded_ascii hx
  · decide
  · exact encoded_ascii hx
  · decide
  · exact encoded_ascii hx

/-- No encoded part has a full stop among its characters. -/
theorem count_dot_chars (bs : Bytes) : (encoded bs).chars.count '.' = 0 := by
  rw [List.count_eq_zero]
  intro h
  obtain ⟨b, hb, heq⟩ := List.mem_map.1 h
  have hn : b.toNat = 0x2E := by
    have hlt := encoded_ascii hb
    rw [← Utf8.toNat_ofNat_char (show b.toNat < 0xD800 by omega), heq]
    rfl
  have hdot : b = dot := UInt8.toNat_inj.1 hn
  exact dot_not_mem_encoded bs (hdot ▸ hb)

/-- The text of encoded parts has exactly two full stops. -/
theorem count_dot_text (a b c : Bytes) :
    (text (encoded a) (encoded b) (encoded c)).toList.count '.' = 2 := by
  have parts : (join (encoded a) (encoded b) (encoded c)).chars =
      (encoded a).chars ++ '.' :: (encoded b).chars ++ '.' :: (encoded c).chars := by
    simp only [join, Bytes.chars, List.map_append, List.map_cons]
    rfl
  rw [text, String.toList_ofList, parts]
  simp [List.count_append, count_dot_chars]

/-! ## Tokens in three pieces -/

/-- A token is its three parts with full stops between. -/
theorem text_eq_pieces (h p s : Bytes) :
    text h p s = String.ofList h.chars ++ "." ++ String.ofList p.chars ++ "." ++
      String.ofList s.chars := by
  apply String.toList_injective
  simp [text, join, Bytes.chars, dot]

/-- A string with the byte of a full stop has a full stop in it. -/
theorem dot_mem_ofString {s : String} (h : dot ∈ Utf8.ofString s) : '.' ∈ s.toList :=
  Utf8.mem_of_mem_ofString (by decide) h

/-- The bytes of three pieces with full stops between. -/
theorem ofString_pieces (h p s : String) :
    Utf8.ofString (h ++ "." ++ p ++ "." ++ s) =
      join (Utf8.ofString h) (Utf8.ofString p) (Utf8.ofString s) := by
  have hdot : Utf8.ofString "." = [dot] := rfl
  simp only [Utf8.ofString_append, hdot, join, List.append_assoc, List.nil_append,
    List.cons_append]

/-- A text in three pieces has its parts where the pieces are, if the last two have no full stop. -/
theorem split?_dotless {h p s : String} (hp : '.' ∉ p.toList) (hs : '.' ∉ s.toList) :
    split? (Utf8.ofString (h ++ "." ++ p ++ "." ++ s)) =
      some (Utf8.ofString h, Utf8.ofString p, Utf8.ofString s) := by
  rw [split?_eq_some_iff]
  exact ⟨ofString_pieces h p s, mt dot_mem_ofString hp, mt dot_mem_ofString hs⟩

/-- Three pieces are told apart if there are only the two full stops between them. -/
theorem split?_pieces {h p s : String} (count : (h ++ "." ++ p ++ "." ++ s).toList.count '.' = 2) :
    split? (Utf8.ofString (h ++ "." ++ p ++ "." ++ s)) =
      some (Utf8.ofString h, Utf8.ofString p, Utf8.ofString s) := by
  have hdot : ".".toList.count '.' = 1 := rfl
  simp only [String.toList_append, List.count_append, hdot] at count
  apply split?_dotless
  · exact List.count_eq_zero.1 (by omega)
  · exact List.count_eq_zero.1 (by omega)

end Credentials.Token.Compact
