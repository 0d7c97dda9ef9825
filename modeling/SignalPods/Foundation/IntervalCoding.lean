import Mathlib.Tactic.Ring
import Mathlib.Algebra.Order.Ring.Nat

namespace SignalPods.Foundation

/-- The fractions from one on, so many units of two to the minus `depth`. -/
structure CodeInterval where
  low : Nat
  size : Nat
  depth : Nat

namespace CodeInterval

/-- The first binary digits of a number that has so many of them. -/
def digits (number length depth : Nat) : Nat := number * 2 ^ depth / 2 ^ length

theorem digits_add (number length depth more : Nat) :
    digits number length depth = digits number length (depth + more) / 2 ^ more := by
  unfold digits
  rw [Nat.div_div_eq_div_mul, Nat.pow_add, ← Nat.mul_assoc, Nat.mul_div_mul_right _ _ (Nat.two_pow_pos more)]

def Contains (i : CodeInterval) (number length : Nat) : Prop :=
  i.low ≤ digits number length i.depth ∧ digits number length i.depth < i.low + i.size

def narrow (i : CodeInterval) (split : Nat) (bit : Bool) : CodeInterval :=
  if bit then { i with low := i.low + split, size := i.size - split } else { i with size := split }

def scale (i : CodeInterval) (shift : Nat) : CodeInterval :=
  { low := i.low * 2 ^ shift, size := i.size * 2 ^ shift, depth := i.depth + shift }

@[simp] theorem scale_zero (i : CodeInterval) : i.scale 0 = i := by simp [scale]

variable {i : CodeInterval} {number length : Nat}

/-- A bit is told by where a number in its part of the interval is. -/
theorem Contains.of_narrow {split : Nat} {bit : Bool} (inside : split ≤ i.size)
    (contains : (i.narrow split bit).Contains number length) :
    i.Contains number length ∧ bit = decide (i.low + split ≤ digits number length i.depth) := by
  cases bit with
  | false =>
    obtain ⟨above, below⟩ := contains
    have inLow : digits number length i.depth < i.low + split := below
    have fromLow : i.low ≤ digits number length i.depth := above
    refine ⟨⟨fromLow, by omega⟩, ?_⟩
    rw [eq_comm, decide_eq_false_iff_not]
    omega
  | true =>
    obtain ⟨above, below⟩ := contains
    have inHigh : i.low + split ≤ digits number length i.depth := above
    have toHigh : digits number length i.depth < i.low + split + (i.size - split) := below
    refine ⟨⟨by omega, by omega⟩, ?_⟩
    rw [eq_comm, decide_eq_true_eq]
    exact inHigh

theorem Contains.of_scale {shift : Nat} (contains : (i.scale shift).Contains number length) :
    i.Contains number length := by
  obtain ⟨above, below⟩ := contains
  have positive := Nat.two_pow_pos shift
  have less : digits number length (i.depth + shift) < (i.low + i.size) * 2 ^ shift := by
    rw [Nat.add_mul]
    exact below
  unfold Contains
  rw [digits_add number length i.depth shift]
  exact ⟨(Nat.le_div_iff_mul_le positive).mpr above, (Nat.div_lt_iff_lt_mul positive).mpr less⟩

section Coding

variable {P : Type} (split : Nat → P → Nat) (shift : Nat → Nat)

/-- A part of the interval for the bit, brought back to the usual size. -/
def code (i : CodeInterval) (entry : P × Bool) : CodeInterval :=
  let part := i.narrow (split i.size entry.1) entry.2
  part.scale (shift part.size)

variable {split shift}

theorem Contains.of_code {entry : P × Bool} (inside : split i.size entry.1 ≤ i.size)
    (contains : (i.code split shift entry).Contains number length) :
    i.Contains number length ∧
      entry.2 = decide (i.low + split i.size entry.1 ≤ digits number length i.depth) :=
  Contains.of_narrow inside contains.of_scale

end Coding

end CodeInterval

end SignalPods.Foundation
