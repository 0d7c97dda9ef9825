import Mathlib.Data.Nat.Log
import Mathlib.Tactic.Ring

namespace SignalPods.Foundation

/-- The distance of the numbers with a significand of some bits around one of them. -/
def ulp (precision n : Nat) : Nat := 2 ^ (Nat.log2 n + 1 - precision)

/-- The nearest number with a significand of some bits, of two as near the even one. -/
def roundToEven (precision n : Nat) : Nat :=
  let quotient := n / ulp precision n
  let rest := n % ulp precision n
  if 2 * rest < ulp precision n ∨ 2 * rest = ulp precision n ∧ quotient % 2 = 0 then quotient * ulp precision n
  else (quotient + 1) * ulp precision n

/-- A natural number converted to a `double`. -/
@[irreducible] def doubleValue (n : Nat) : Nat := roundToEven 53 n

section Rounding

variable {precision n : Nat}

theorem ulp_pos : 0 < ulp precision n := Nat.two_pow_pos _

/-- Rounding is wrong by half a unit at most. -/
theorem roundToEven_near (precision n : Nat) :
    2 * roundToEven precision n ≤ 2 * n + ulp precision n ∧ 2 * n ≤ 2 * roundToEven precision n + ulp precision n := by
  have split : n / ulp precision n * ulp precision n + n % ulp precision n = n := Nat.div_add_mod' _ _
  have rest : n % ulp precision n < ulp precision n := Nat.mod_lt _ ulp_pos
  unfold roundToEven
  dsimp only
  split
  · omega
  · have next : (n / ulp precision n + 1) * ulp precision n = n / ulp precision n * ulp precision n + ulp precision n :=
      Nat.succ_mul _ _
    omega

theorem log2_le_of_lt {bits : Nat} (bound : n < 2 ^ (precision + bits)) : Nat.log2 n + 1 ≤ precision + bits ∨ n = 0 := by
  by_cases zero : n = 0
  · exact Or.inr zero
  · exact Or.inl ((Nat.log2_lt zero).mpr bound)

theorem ulp_le {bits : Nat} (bound : n < 2 ^ (precision + bits)) (positive : 0 < precision) :
    ulp precision n ≤ 2 ^ bits := by
  refine Nat.pow_le_pow_right (by omega) ?_
  rcases log2_le_of_lt bound with few | rfl
  · omega
  · have log : Nat.log2 0 = 0 := by decide
    omega

/-- A number that fits the significand is kept. -/
theorem roundToEven_of_lt (bound : n < 2 ^ precision) (positive : 0 < precision) : roundToEven precision n = n := by
  have unit : ulp precision n ≤ 2 ^ 0 := ulp_le bound positive
  have near := roundToEven_near precision n
  omega

theorem ulp_le_self (positive : 0 < precision) (some : n ≠ 0) : ulp precision n ≤ n := by
  calc ulp precision n ≤ 2 ^ Nat.log2 n := Nat.pow_le_pow_right (by omega) (by omega)
    _ ≤ n := Nat.log2_self_le some

theorem roundToEven_le (positive : 0 < precision) : roundToEven precision n ≤ 2 * n := by
  by_cases some : n = 0
  · rw [some, roundToEven_of_lt (Nat.two_pow_pos _) positive]
  · have unit := ulp_le_self positive some
    have near := (roundToEven_near precision n).1
    omega

end Rounding

theorem doubleValue_of_lt {n : Nat} (bound : n < 2 ^ 53) : doubleValue n = n := by
  unfold doubleValue
  exact roundToEven_of_lt bound (by omega)

theorem doubleValue_le (n : Nat) : doubleValue n ≤ 2 * n := by
  unfold doubleValue
  exact roundToEven_le (by omega)

theorem doubleValue_near {n : Nat} (bound : n < 2 ^ 60) : doubleValue n ≤ n + 64 ∧ n ≤ doubleValue n + 64 := by
  have unit : ulp 53 n ≤ 2 ^ 7 := ulp_le bound (by omega)
  have near := roundToEven_near 53 n
  unfold doubleValue
  omega

end SignalPods.Foundation
