import Mathlib.Data.Nat.Digits.Lemmas

namespace SignalPods.Foundation

/-- So many digits of a number in a base, the most significant first. -/
def positional (base : Nat) : Nat → Nat → List Nat
  | 0, _ => []
  | length + 1, n => n / base ^ length % base :: positional base length n

/-- What digits make of a number that was read before them. -/
def positionalValue (base start : Nat) (digits : List Nat) : Nat := digits.foldl (fun value digit => value * base + digit) start

variable {base : Nat}

@[simp] theorem length_positional (length n : Nat) : (positional base length n).length = length := by
  induction length with
  | zero => rfl
  | succ length ih => rw [positional, List.length_cons, ih]

theorem positional_lt (positive : 0 < base) {length n digit : Nat} (member : digit ∈ positional base length n) :
    digit < base := by
  induction length with
  | zero => cases member
  | succ length ih =>
    rcases List.mem_cons.mp member with rfl | later
    · exact Nat.mod_lt _ positive
    · exact ih later

/-- The digits that were written are read as what of the number they have room for. -/
theorem positionalValue_positional (start length n : Nat) :
    positionalValue base start (positional base length n) = start * base ^ length + n % base ^ length := by
  induction length generalizing start with
  | zero => simp [positional, positionalValue, Nat.mod_one]
  | succ length ih =>
    have split : n % base ^ (length + 1) = n % base ^ length + base ^ length * (n / base ^ length % base) :=
      Nat.mod_pow_succ
    calc positionalValue base start (positional base (length + 1) n)
        = positionalValue base (start * base + n / base ^ length % base) (positional base length n) := rfl
      _ = (start * base + n / base ^ length % base) * base ^ length + n % base ^ length := ih _
      _ = start * base ^ (length + 1) + n % base ^ (length + 1) := by rw [split]; ring

theorem positionalValue_of_lt {length n : Nat} (fits : n < base ^ length) :
    positionalValue base 0 (positional base length n) = n := by
  rw [positionalValue_positional, Nat.zero_mul, Nat.zero_add, Nat.mod_eq_of_lt fits]

/-- Reading never goes down. -/
theorem le_positionalValue (positive : 0 < base) (start : Nat) (digits : List Nat) :
    start ≤ positionalValue base start digits := by
  induction digits generalizing start with
  | nil => exact Nat.le_refl start
  | cons digit digits ih =>
    have here : start ≤ start * base := Nat.le_mul_of_pos_right start positive
    have later := ih (start * base + digit)
    have step : positionalValue base start (digit :: digits) = positionalValue base (start * base + digit) digits := rfl
    omega

theorem positionalValue_append (start : Nat) (first rest : List Nat) :
    positionalValue base start (first ++ rest) = positionalValue base (positionalValue base start first) rest :=
  List.foldl_append

theorem positionalValue_start (start : Nat) (digits : List Nat) :
    positionalValue base start digits = start * base ^ digits.length + positionalValue base 0 digits := by
  induction digits using List.reverseRecOn with
  | nil => simp [positionalValue]
  | append_singleton digits digit ih =>
    rw [positionalValue_append, ih, positionalValue_append, List.length_append, List.length_singleton, Nat.pow_succ]
    simp only [positionalValue, List.foldl_cons, List.foldl_nil]
    ring

theorem positionalValue_lt {digits : List Nat} (each : ∀ digit ∈ digits, digit < base) :
    positionalValue base 0 digits < base ^ digits.length := by
  induction digits with
  | nil => exact Nat.one_pos
  | cons digit digits ih =>
    obtain ⟨here, later⟩ := List.forall_mem_cons.mp each
    have value : positionalValue base 0 (digit :: digits) =
      digit * base ^ digits.length + positionalValue base 0 digits := by
      have first : positionalValue base 0 (digit :: digits) = positionalValue base (0 * base + digit) digits := rfl
      rw [first, positionalValue_start, Nat.zero_mul, Nat.zero_add]
    have most : digit * base ^ digits.length + base ^ digits.length ≤ base * base ^ digits.length := by
      rw [← Nat.succ_mul]
      exact Nat.mul_le_mul_right _ here
    have rest := ih later
    rw [value, List.length_cons, Nat.pow_succ, Nat.mul_comm (base ^ digits.length) base]
    omega

/-- The highest number of so many digits is followed by the lowest with one more. -/
theorem positionalValue_highest (length : Nat) :
    positionalValue (base + 1) 0 (List.replicate length base) + 1 = (base + 1) ^ length := by
  induction length with
  | zero => rfl
  | succ length ih =>
    rw [List.replicate_succ', positionalValue_append, Nat.pow_succ, ← ih]
    simp only [positionalValue, List.foldl_cons, List.foldl_nil]
    ring

theorem positionalValue_zeros (start length : Nat) :
    positionalValue base start (List.replicate length 0) = start * base ^ length := by
  induction length with
  | zero => simp [positionalValue]
  | succ length ih =>
    rw [List.replicate_succ', positionalValue_append, ih, Nat.pow_succ]
    simp only [positionalValue, List.foldl_cons, List.foldl_nil]
    ring

section Carries

variable {k s i : Nat}

theorem mod_of_testBit (set : k.testBit i = true) : k % 2 ^ (i + 1) = 2 ^ i + k % 2 ^ i := by
  rw [Nat.testBit_eq_decide_div_mod_eq, decide_eq_true_eq] at set
  rw [Nat.mod_pow_succ, set, Nat.mul_one, Nat.add_comm]

theorem mod_of_not_testBit (clear : k.testBit i = false) : k % 2 ^ (i + 1) = k % 2 ^ i := by
  rw [Nat.testBit_eq_decide_div_mod_eq, decide_eq_false_iff_not] at clear
  have zero : k / 2 ^ i % 2 = 0 := by omega
  rw [Nat.mod_pow_succ, zero, Nat.mul_zero, Nat.add_zero]

theorem testBit_eq_decide_mod : k.testBit i = decide (2 ^ i ≤ k % 2 ^ (i + 1)) := by
  have less := Nat.mod_lt k (Nat.two_pow_pos i)
  cases bit : k.testBit i with
  | false =>
    rw [mod_of_not_testBit bit, decide_eq_false (by omega)]
  | true =>
    rw [mod_of_testBit bit, decide_eq_true (by omega)]

/-- One more than a number whose lowest bits are set up to one that is not. -/
theorem succ_mod_of_carry (ones : k % 2 ^ s + 1 = 2 ^ s) (zero : k.testBit s = false) : (k + 1) % 2 ^ (s + 1) =
    2 ^ s := by
  have less : 2 ^ s < 2 ^ (s + 1) := Nat.pow_lt_pow_succ (by decide)
  rw [← Nat.mod_add_mod, mod_of_not_testBit zero, ones, Nat.mod_eq_of_lt less]

theorem succ_mod_above (ones : k % 2 ^ s + 1 = 2 ^ s) (zero : k.testBit s = false) (above : s < i) :
    (k + 1) % 2 ^ i = k % 2 ^ i + 1 := by
  have less : k % 2 ^ i + 1 ≤ 2 ^ i := Nat.mod_lt k (Nat.two_pow_pos i)
  rw [← Nat.mod_add_mod]
  rcases less.lt_or_eq with less | full
  · exact Nat.mod_eq_of_lt less
  · have carried := succ_mod_of_carry ones zero
    have positive := Nat.two_pow_pos s
    rw [← Nat.mod_mod_of_dvd (k + 1) (Nat.pow_dvd_pow 2 (Nat.succ_le_of_lt above)), ← Nat.mod_add_mod, full,
      Nat.mod_self,
      Nat.zero_mod] at carried
    omega

theorem testBit_succ_above (ones : k % 2 ^ s + 1 = 2 ^ s) (zero : k.testBit s = false) (above : s < i) :
    (k + 1).testBit i = k.testBit i := by
  have low := succ_mod_above ones zero above
  have less := Nat.mod_lt (k + 1) (Nat.two_pow_pos i)
  rw [testBit_eq_decide_mod, succ_mod_above ones zero (Nat.lt_succ_of_lt above)]
  cases bit : k.testBit i with
  | false =>
    rw [mod_of_not_testBit bit, decide_eq_false (by omega)]
  | true =>
    rw [mod_of_testBit bit, decide_eq_true (by omega)]

theorem testBit_succ_below (ones : k % 2 ^ s + 1 = 2 ^ s) (zero : k.testBit s = false) (below : i < s) :
    (k + 1).testBit i = false := by
  have carried := succ_mod_of_carry ones zero
  have whole : (k + 1) % 2 ^ (i + 1) = 0 := by
    rw [← Nat.mod_mod_of_dvd (k + 1) (Nat.pow_dvd_pow 2 (show i + 1 ≤ s + 1 by omega)), carried]
    exact Nat.mod_eq_zero_of_dvd (Nat.pow_dvd_pow 2 below)
  have positive := Nat.two_pow_pos i
  rw [testBit_eq_decide_mod, whole, decide_eq_false (by omega)]

end Carries

end SignalPods.Foundation
