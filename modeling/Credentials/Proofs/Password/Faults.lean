import Mathlib.Data.List.Basic
import Credentials.Password.Basic
import Credentials.Proofs.Password.Record

/-!
# Lines that are no stored password

Verifying a password fails because of the line it is verified against, never because of the
password. A line is looked at in seven checks, and the first that it does not pass says what is
wrong with it.

* `SpellsCost`, `Halves`, `Canonical` — what the checks ask of the parts of a line, and
  `cost?_eq_some_iff`, `cut?_eq_some_iff_halves`, `decoded_eq_error_iff`: this is what is checked.
* `Intact`, `intact_iff` — **the lines that are read**: those that pass all the checks.
* `FirstFault`, `parse_eq_error_iff` — **the fault of a line is that of the first check that it does
  not pass**.
* `verify_fault` — the same for the verification of any password.
-/

namespace Credentials.Password

namespace Record

/-! ## What is checked -/

/-- A part spells a cost: a row of digits, maybe after a plus sign, for a number of 32 bits. -/
def SpellsCost (part : List Char) (cost : Nat) : Prop :=
  cost < 4294967296 ∧ ∃ ds, Decimal.IsDigits ds ∧ cost = Decimal.value ds ∧
    (part = ds.map Decimal.digitChar ∨ part = '+' :: ds.map Decimal.digitChar)

/-- A part is a text of 22 bytes for the salt and one of 31 bytes for the digest. -/
structure Halves (part salt digest : List Char) : Prop where
  /-- One is behind the other. -/
  text : part = salt ++ digest
  /-- The length of the first in bytes. -/
  length_salt : (Utf8.encode salt).length = 22
  /-- The length of the second in bytes. -/
  length_digest : (Utf8.encode digest).length = 31

/-- A text is what is written of some bytes. -/
def Canonical (text : List Char) : Prop := ∃ bs, text = encoded bs

variable {line : String} {part text : List Char} {cost : Nat} {fault : Fault}

/-- A cost is read just if the part spells it. -/
theorem cost?_eq_some_iff : cost? part = some cost ↔ SpellsCost part cost := by
  rw [cost?, Option.filter_eq_some_iff, Decimal.nat?_eq_some_iff, decide_eq_true_eq, and_comm]
  rfl

/-- No cost is read just if the part spells none. -/
theorem cost?_eq_none_iff : cost? part = none ↔ ∀ cost, ¬ SpellsCost part cost := by
  simp only [Option.eq_none_iff_forall_ne_some, ne_eq, cost?_eq_some_iff]

/-- A part is cut just into the texts that are its halves. -/
theorem cut?_eq_some_iff_halves {saltText digestText : Bytes} :
    cut? part = some (saltText, digestText) ↔ ∃ salt digest, Halves part salt digest ∧
      Utf8.encode salt = saltText ∧ Utf8.encode digest = digestText := by
  rw [cut?_eq_some_iff]
  constructor
  · rintro ⟨bytes, hsalt, hdigest, notTail⟩
    obtain ⟨salt, digest, rfl, rfl, rfl⟩ := Utf8.encode_eq_append_iff.1 ⟨bytes, notTail⟩
    exact ⟨salt, digest, ⟨rfl, hsalt, hdigest⟩, rfl, rfl⟩
  · rintro ⟨salt, digest, ⟨rfl, hsalt, hdigest⟩, rfl, rfl⟩
    obtain ⟨bytes, notTail⟩ := Utf8.encode_eq_append_iff.2 ⟨salt, digest, rfl, rfl, rfl⟩
    exact ⟨bytes, hsalt, hdigest, notTail⟩

/-- A part is cut at the end of its salt. -/
theorem Halves.cut?_eq {salt digest : List Char} (h : Halves part salt digest) :
    cut? part = some (Utf8.encode salt, Utf8.encode digest) :=
  cut?_eq_some_iff_halves.2 ⟨salt, digest, h, rfl, rfl⟩

/-- A part is not cut just if it has no halves. -/
theorem cut?_eq_none_iff : cut? part = none ↔ ∀ salt digest, ¬ Halves part salt digest := by
  constructor
  · intro none salt digest halves
    rw [halves.cut?_eq] at none
    cases none
  · intro noHalves
    rcases h : cut? part with _ | ⟨saltText, digestText⟩
    · rfl
    · obtain ⟨salt, digest, halves, -⟩ := cut?_eq_some_iff_halves.1 h
      exact absurd halves (noHalves salt digest)

/-- A text in base 64 is read as bytes if it is what is written of them. -/
theorem decoded_encode_eq_ok_iff {bs : Bytes} :
    decoded (Utf8.encode text) = .ok bs ↔ text = encoded bs := by
  rw [decoded_eq_ok_iff, ← encode_encoded]
  exact ⟨Utf8.encode_injective, fun h => h ▸ rfl⟩

/-- A text fails with the fault that the decoder finds in it. -/
theorem decoded_eq_error_iff {bytes : Bytes} : decoded bytes = .error fault ↔
    ∃ wrong, Base64.decode .bcrypt bytes = .error wrong ∧ Fault.encoding wrong = fault := by
  rw [decoded]
  cases Base64.decode .bcrypt bytes <;> simp [Except.mapError]

/-- A line whose parts pass the checks up to the cut is laid out as a record. -/
theorem Halves.laid {scheme costPart last salt digest : List Char}
    (halves : Halves last salt digest) (hparts : parts line = [scheme, costPart, last])
    (known : scheme ∈ schemes) (spells : SpellsCost costPart cost) :
    Laid line cost (Utf8.encode salt) (Utf8.encode digest) :=
  ⟨scheme, known, costPart, last, hparts, cost?_eq_some_iff.2 spells, halves.cut?_eq⟩

/-- Behind a salt in base 64, the range of the cost decides, and then the digest. -/
theorem Laid.parse_of_canonical {digestText : Bytes}
    (h : Laid line cost (Utf8.encode text) digestText) (hsalt : Canonical text) :
    ∃ salt : Bcrypt.Salt, parse line =
      if cost < 4 ∨ 31 < cost then .error (.costRange cost)
      else (decoded digestText).map fun digest => ⟨cost, salt, digest⟩ := by
  obtain ⟨bytes, rfl⟩ := hsalt
  have read := decoded_encode_eq_ok_iff.2 (Eq.refl (encoded bytes))
  obtain ⟨salt, rfl⟩ := h.exists_salt read
  exact ⟨salt, h.parse_of_salt read⟩

/-! ## Lines that pass the checks -/

/-- The line has three parts that are not empty: a name of the scheme, a cost from 4 to 31, and a
salt and a digest in base 64. -/
def Intact (line : String) : Prop :=
  ∃ scheme ∈ schemes, ∃ costPart last, parts line = [scheme, costPart, last] ∧
    ∃ cost, SpellsCost costPart cost ∧ 4 ≤ cost ∧ cost ≤ 31 ∧
      ∃ salt digest, Halves last salt digest ∧ Canonical salt ∧ Canonical digest

/-- These are the lines that are read. -/
theorem intact_iff : Intact line ↔ ∃ r, parse line = .ok r := by
  constructor
  · rintro ⟨scheme, known, costPart, last, hparts, cost, spells, low, high, salt, digest, halves,
      hsalt, ⟨digestBytes, hdigest⟩⟩
    obtain ⟨salt, hparse⟩ := (halves.laid hparts known spells).parse_of_canonical hsalt
    rw [hparse, if_neg (by omega), decoded_encode_eq_ok_iff.2 hdigest]
    exact ⟨_, rfl⟩
  · rintro ⟨r, read⟩
    obtain ⟨⟨scheme, known, costPart, last, hparts, hcost, hcut⟩, low, high⟩ :=
      parse_eq_ok_iff.1 read
    obtain ⟨salt, digest, halves, hsalt, hdigest⟩ := cut?_eq_some_iff_halves.1 hcut
    rw [← encode_encoded] at hsalt hdigest
    exact ⟨scheme, known, costPart, last, hparts, r.cost, cost?_eq_some_iff.1 hcost, low, high,
      salt, digest, halves, ⟨_, Utf8.encode_injective hsalt⟩, ⟨_, Utf8.encode_injective hdigest⟩⟩

/-! ## Lines that do not -/

/-- The fault of the first check that a line does not pass. The salt is checked before the range of
the cost, and the digest after it. -/
inductive FirstFault (line : String) : Fault → Prop
  /-- There are not three parts. -/
  | count (number : (parts line).length ≠ 3) : FirstFault line (.form line)
  /-- The first names no scheme. -/
  | scheme {scheme costPart last} (hparts : parts line = [scheme, costPart, last])
      (unknown : scheme ∉ schemes) : FirstFault line (.scheme (String.ofList scheme))
  /-- The second spells no cost. -/
  | costText {scheme costPart last} (hparts : parts line = [scheme, costPart, last])
      (known : scheme ∈ schemes) (noCost : ∀ cost, ¬ SpellsCost costPart cost) :
      FirstFault line (.costText (String.ofList costPart))
  /-- The third has not two halves. -/
  | cut {scheme costPart last cost} (hparts : parts line = [scheme, costPart, last])
      (known : scheme ∈ schemes) (spells : SpellsCost costPart cost)
      (noHalves : ∀ salt digest, ¬ Halves last salt digest) : FirstFault line (.form line)
  /-- The salt is not in base 64. -/
  | salt {scheme costPart last cost salt digest wrong}
      (hparts : parts line = [scheme, costPart, last]) (known : scheme ∈ schemes)
      (spells : SpellsCost costPart cost) (halves : Halves last salt digest)
      (hsalt : Base64.decode .bcrypt (Utf8.encode salt) = .error wrong) :
      FirstFault line (.encoding wrong)
  /-- The cost is out of range. -/
  | costRange {scheme costPart last cost salt digest}
      (hparts : parts line = [scheme, costPart, last]) (known : scheme ∈ schemes)
      (spells : SpellsCost costPart cost) (halves : Halves last salt digest)
      (hsalt : Canonical salt) (range : cost < 4 ∨ 31 < cost) : FirstFault line (.costRange cost)
  /-- The digest is not in base 64. -/
  | digest {scheme costPart last cost salt digest wrong}
      (hparts : parts line = [scheme, costPart, last]) (known : scheme ∈ schemes)
      (spells : SpellsCost costPart cost) (halves : Halves last salt digest)
      (hsalt : Canonical salt) (low : 4 ≤ cost) (high : cost ≤ 31)
      (hdigest : Base64.decode .bcrypt (Utf8.encode digest) = .error wrong) :
      FirstFault line (.encoding wrong)

/-- The fault of the first check that a line does not pass is the one it is refused for. -/
theorem FirstFault.parse_eq (h : FirstFault line fault) : parse line = .error fault := by
  cases h with
  | count number =>
    unfold parse
    split
    case h_1 hparts => exact absurd (congrArg List.length hparts) number
    case h_2 => rfl
  | scheme hparts unknown =>
    simp only [parse, hparts]
    rw [if_pos unknown]
    rfl
  | costText hparts known noCost =>
    simp only [parse, hparts, cost?_eq_none_iff.2 noCost]
    rw [if_neg (not_not.2 known)]
    rfl
  | cut hparts known spells noHalves =>
    simp only [parse, hparts, cost?_eq_some_iff.2 spells, cut?_eq_none_iff.2 noHalves]
    rw [if_neg (not_not.2 known)]
    rfl
  | salt hparts known spells halves hsalt =>
    exact (halves.laid hparts known spells).parse_of_error
      (decoded_eq_error_iff.2 ⟨_, hsalt, rfl⟩)
  | costRange hparts known spells halves hsalt range =>
    obtain ⟨salt, hparse⟩ := (halves.laid hparts known spells).parse_of_canonical hsalt
    rw [hparse, if_pos range]
  | digest hparts known spells halves hsalt low high hdigest =>
    obtain ⟨salt, hparse⟩ := (halves.laid hparts known spells).parse_of_canonical hsalt
    rw [hparse, if_neg (by omega), decoded_eq_error_iff.2 ⟨_, hdigest, rfl⟩]
    rfl

/-- Every line that is not read has such a fault. -/
theorem exists_firstFault (h : ¬ Intact line) : ∃ fault, FirstFault line fault := by
  by_cases number : (parts line).length = 3
  case neg => exact ⟨_, .count number⟩
  obtain ⟨scheme, costPart, last, hparts⟩ := List.length_eq_three.1 number
  by_cases known : scheme ∈ schemes
  case neg => exact ⟨_, .scheme hparts known⟩
  by_cases hcost : ∃ cost, SpellsCost costPart cost
  case neg => exact ⟨_, .costText hparts known (not_exists.1 hcost)⟩
  obtain ⟨cost, spells⟩ := hcost
  by_cases hcut : ∃ salt digest, Halves last salt digest
  case neg =>
    exact ⟨_, .cut hparts known spells fun salt digest halves => hcut ⟨salt, digest, halves⟩⟩
  obtain ⟨salt, digest, halves⟩ := hcut
  rcases hsalt : decoded (Utf8.encode salt) with fault | saltBytes
  case error =>
    obtain ⟨wrong, hwrong, -⟩ := decoded_eq_error_iff.1 hsalt
    exact ⟨_, .salt hparts known spells halves hwrong⟩
  have saltCanonical : Canonical salt := ⟨saltBytes, decoded_encode_eq_ok_iff.1 hsalt⟩
  by_cases range : cost < 4 ∨ 31 < cost
  case pos => exact ⟨_, .costRange hparts known spells halves saltCanonical range⟩
  rw [not_or, Nat.not_lt, Nat.not_lt] at range
  rcases hdigest : decoded (Utf8.encode digest) with fault | digestBytes
  case error =>
    obtain ⟨wrong, hwrong, -⟩ := decoded_eq_error_iff.1 hdigest
    exact ⟨_, .digest hparts known spells halves saltCanonical range.1 range.2 hwrong⟩
  case ok =>
    exact absurd ⟨scheme, known, costPart, last, hparts, cost, spells, range.1, range.2, salt,
      digest, halves, saltCanonical, digestBytes, decoded_encode_eq_ok_iff.1 hdigest⟩ h

/-- A line is refused for the first check that it does not pass. -/
theorem parse_eq_error_iff : parse line = .error fault ↔ FirstFault line fault := by
  constructor
  · intro refused
    have notIntact : ¬ Intact line := by
      intro intact
      obtain ⟨r, read⟩ := intact_iff.1 intact
      rw [read] at refused
      cases refused
    obtain ⟨fault', first⟩ := exists_firstFault notIntact
    rw [first.parse_eq] at refused
    obtain rfl := Except.error.inj refused
    exact first
  · exact FirstFault.parse_eq

end Record

/-! ## Verifying -/

open Record

/-- **Whether verifying fails depends on the line alone.** If the line is intact, there is a verdict
for every password. If it is not, one of the seven checks is the first that it does not pass, and
verifying fails with the fault of this check, whatever the password. -/
theorem verify_fault (line : String) :
    (Intact line ∧ ∀ password, ∃ verdict, verify password line = .ok verdict) ∨
    (¬ Intact line ∧ ∃ fault, (∀ fault', FirstFault line fault' ↔ fault' = fault) ∧
      ∀ password, verify password line = .error fault) := by
  rcases h : parse line with fault | r
  · refine .inr ⟨?notIntact, fault, ?first, ?refused⟩
    case notIntact =>
      rw [intact_iff, h]
      simp
    case first =>
      intro fault'
      rw [← parse_eq_error_iff, h, Except.error.injEq, eq_comm]
    case refused =>
      intro password
      rw [verify, h]
      rfl
  · refine .inl ⟨intact_iff.2 ⟨r, h⟩, fun password => ?_⟩
    rw [verify, h]
    exact ⟨_, rfl⟩

end Credentials.Password
