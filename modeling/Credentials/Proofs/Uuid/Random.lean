import Credentials.Proofs.Uuid

/-!
# Random identifiers

A random identifier is what was drawn, with six bits imposed on it.

* `bit`, `imposed?` — the bits of a block of sixteen bytes, and which of them are imposed.
* `bit_ofRandom` — every other bit of a random identifier is as it was drawn.
* `ofRandom_ne_nil`, `version_ofRandom` — so it is never the nil identifier, and of version 4.
* `ofRandom_eq_iff` — **two random identifiers are equal if and only if their draws agree in every bit
  that is not imposed**.
-/

namespace Credentials.Uuid

/-! ## Bits -/

/-- A bit of a block: bit 0 is the lowest of its byte. -/
def bit (block : Vector UInt8 16) (i : Fin 16) (b : Fin 8) : Bool := block[i].toNat.testBit b

/-- The bits that a random identifier has by force: the high half of byte 6 is 4, the version, and
the two high bits of byte 8 are 10, the variant. -/
def imposed? (i : Fin 16) (b : Fin 8) : Option Bool :=
  if i = 6 ∧ 4 ≤ b then some (b = 6)
  else if i = 8 ∧ 6 ≤ b then some (b = 7)
  else none

/-- Blocks with the same bits are the same. -/
theorem eq_of_bit_eq {block block' : Vector UInt8 16}
    (h : ∀ i b, bit block i b = bit block' i b) : block = block' := by
  apply Vector.ext
  intro i hi
  apply UInt8.toNat_inj.1
  apply Nat.eq_of_testBit_eq
  intro b
  by_cases hb : b < 8
  · exact h ⟨i, hi⟩ ⟨b, hb⟩
  · have beyond (x : UInt8) : x.toNat.testBit b = false := by
      apply Nat.testBit_lt_two_pow
      exact Nat.lt_of_lt_of_le x.toNat_lt (Nat.pow_le_pow_right (by decide) (by omega))
    rw [beyond, beyond]

/-! ## Bits of random identifiers -/

/-- A bit is kept or cleared by the first mask, and set by the second. -/
theorem testBit_marked (x keep mark : UInt8) (b : Nat) :
    (x &&& keep ||| mark).toNat.testBit b =
      (x.toNat.testBit b && keep.toNat.testBit b || mark.toNat.testBit b) := by
  rw [UInt8.toNat_or, UInt8.toNat_and, Nat.testBit_or, Nat.testBit_and]

/-- The masks of byte 6 keep and mark what they are meant to. -/
theorem getD_imposed?_version : ∀ (b : Fin 8) (drawn : Bool),
    (imposed? 6 b).getD drawn =
      (drawn && (0x0F : UInt8).toNat.testBit b || (0x40 : UInt8).toNat.testBit b) := by
  decide

/-- The masks of byte 8 keep and mark what they are meant to. -/
theorem getD_imposed?_variant : ∀ (b : Fin 8) (drawn : Bool),
    (imposed? 8 b).getD drawn =
      (drawn && (0x3F : UInt8).toNat.testBit b || (0x80 : UInt8).toNat.testBit b) := by
  decide

/-- The bytes of a random identifier. -/
theorem getElem_ofRandom (draw : Vector UInt8 16) (i : Fin 16) :
    (ofRandom draw).bytes[i] =
      if i = 6 then draw[i] &&& 0x0F ||| 0x40
      else if i = 8 then draw[i] &&& 0x3F ||| 0x80
      else draw[i] := by
  unfold ofRandom
  rw [Fin.getElem_fin, Vector.getElem_set, Vector.getElem_set]
  by_cases h8 : i = 8
  · subst h8
    rfl
  · rw [if_neg h8, if_neg fun h => h8 (Fin.ext h.symm)]
    by_cases h6 : i = 6
    · subst h6
      rfl
    · rw [if_neg h6, if_neg fun h => h6 (Fin.ext h.symm)]
      rfl

/-- The bits of a random identifier: those that are imposed, and the others as they were drawn. -/
theorem bit_ofRandom (draw : Vector UInt8 16) (i : Fin 16) (b : Fin 8) :
    bit (ofRandom draw).bytes i b = (imposed? i b).getD (bit draw i b) := by
  unfold bit
  rw [getElem_ofRandom]
  by_cases h6 : i = 6
  · subst h6
    rw [if_pos rfl, testBit_marked, getD_imposed?_version]
  · by_cases h8 : i = 8
    · subst h8
      rw [if_neg h6, if_pos rfl, testBit_marked, getD_imposed?_variant]
    · simp only [imposed?, h6, h8, if_false, false_and, Option.getD_none]

/-- The version that a random identifier carries. -/
theorem version_ofRandom (draw : Vector UInt8 16) : (ofRandom draw).version = 4 := by
  have byte : (ofRandom draw).bytes[6] = draw[6] &&& 0x0F ||| 0x40 := getElem_ofRandom draw 6
  have low : draw[6].toNat >>> 4 &&& 0x0F >>> 4 = 0 := Nat.and_zero _
  rw [version, byte, UInt8.toNat_or, UInt8.toNat_and]
  show (draw[6].toNat &&& 0x0F ||| 0x40) / 2 ^ 4 = 4
  rw [← Nat.shiftRight_eq_div_pow, Nat.shiftRight_or_distrib, Nat.shiftRight_and_distrib, low]
  rfl

/-- A random identifier is never the nil one, since its version is not zero. -/
theorem ofRandom_ne_nil (draw : Vector UInt8 16) : ofRandom draw ≠ nil := by
  intro h
  have imposed := bit_ofRandom draw 6 6
  rw [h] at imposed
  cases imposed

/-- Random identifiers are equal if and only if their draws agree in every bit that is not
imposed. -/
theorem ofRandom_eq_iff {draw draw' : Vector UInt8 16} :
    ofRandom draw = ofRandom draw' ↔
      ∀ i b, imposed? i b = none → bit draw i b = bit draw' i b := by
  constructor
  · intro h i b free
    have bits := congrArg (fun u => bit u.bytes i b) h
    simpa only [bit_ofRandom, free, Option.getD_none] using bits
  · intro h
    apply congrArg mk
    apply eq_of_bit_eq
    intro i b
    refine (bit_ofRandom draw i b).trans (.trans ?_ (bit_ofRandom draw' i b).symm)
    cases imposed : imposed? i b with
    | some value => rfl
    | none => exact h i b imposed

end Credentials.Uuid
