import Credentials.Text.Decimal

/-!
# The digits of a number

`digits` gives the decimal digits of a natural number as numbers below ten, the most significant
first. They are what `Decimal.ofNat` writes (`ofNat_eq_map_digits`), they spell the number
(`foldl_digits`), and they begin with zero only for zero itself (`digits_head`).
-/

namespace Credentials.Decimal

/-- The decimal digits of a number, the most significant first. -/
def digits (n : Nat) : List Nat :=
  if n < 10 then [n] else digits (n / 10) ++ [n % 10]

/-- A number is written digit by digit. -/
theorem ofNat_eq_map_digits (n : Nat) : ofNat n = (digits n).map digitChar := by
  fun_induction digits n with
  | case1 n h => rw [ofNat, if_pos h, List.map_singleton]
  | case2 n h ih => rw [ofNat, if_neg h, ih, List.map_append, List.map_singleton]

/-- Decimal digits are below ten. -/
theorem lt_of_mem_digits {n d : Nat} (h : d ∈ digits n) : d < 10 := by
  fun_induction digits n with
  | case1 n hn =>
    rw [List.mem_singleton] at h
    omega
  | case2 n hn ih =>
    rcases List.mem_append.1 h with h | h
    · exact ih h
    · rw [List.mem_singleton] at h
      omega

/-- The digits of a number make the number again. -/
theorem foldl_digits (n : Nat) : (digits n).foldl (fun m d => m * 10 + d) 0 = n := by
  fun_induction digits n with
  | case1 n h => simp
  | case2 n h ih =>
    rw [List.foldl_append, ih, List.foldl_cons, List.foldl_nil]
    omega

/-- Only the digits of zero begin with zero, and they are nothing but that. -/
theorem digits_head (n : Nat) :
    n = 0 ∧ digits n = [0] ∨ ∃ d ds, 0 < d ∧ digits n = d :: ds := by
  fun_induction digits n with
  | case1 n h =>
    rcases Nat.eq_zero_or_pos n with rfl | hn
    · exact .inl ⟨rfl, rfl⟩
    · exact .inr ⟨n, [], hn, rfl⟩
  | case2 n h ih =>
    rcases ih with ⟨hn, -⟩ | ⟨d, ds, hd, heq⟩
    · omega
    · exact .inr ⟨d, ds ++ [n % 10], hd, by rw [heq, List.cons_append]⟩

end Credentials.Decimal
