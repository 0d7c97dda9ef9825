import SignalPods.Foundation.Strings

namespace SignalPods.Foundation

theorem isAsciiDigit_iff {c : unichar} : isAsciiDigit c = true ↔ 48 ≤ c.toNat ∧ c.toNat ≤ 57 := by
  unfold isAsciiDigit
  rw [Bool.and_eq_true, decide_eq_true_eq, decide_eq_true_eq, UInt16.le_iff_toNat_le, UInt16.le_iff_toNat_le]
  rfl

theorem digitValue_lt {c : unichar} (isDigit : isAsciiDigit c = true) : digitValue c < 10 := by
  have bounds := isAsciiDigit_iff.mp isDigit
  unfold digitValue
  omega

theorem digit_digitValue {c : unichar} (isDigit : isAsciiDigit c = true) : digit (digitValue c) = c := by
  have bounds := isAsciiDigit_iff.mp isDigit
  have whole : 48 + (c.toNat - 48) = c.toNat := by omega
  unfold digit digitValue
  rw [whole, UInt16.ofNat_toNat]

theorem forall_digit {P : unichar → Prop} (each : ∀ d < 10, P (digit d)) {c : unichar}
    (isDigit : isAsciiDigit c = true) : P c := by
  rw [← digit_digitValue isDigit]
  exact each _ (digitValue_lt isDigit)

theorem digitValue_digit {d : Nat} (bound : d < 10) : digitValue (digit d) = d := by
  unfold digitValue digit
  rw [UInt16.toNat_ofNat']
  omega

theorem digitsValue_append (s rest : NSString) :
    digitsValue (s ++ rest) = digitsValue s * 10 ^ rest.length + digitsValue rest := by
  induction rest using List.reverseRecOn with
  | nil => simp [digitsValue]
  | append_singleton rest c ih =>
    unfold digitsValue at ih ⊢
    rw [← List.append_assoc, List.foldl_concat, ih, List.foldl_concat, List.length_append, List.length_singleton,
      Nat.pow_succ]
    ring

theorem digitsValue_eq_ofDigits (s : NSString) : digitsValue s = Nat.ofDigits 10 (s.reverse.map digitValue) := by
  induction s with
  | nil => rfl
  | cons c s ih =>
    have first : digitsValue [c] = digitValue c := Nat.zero_add _
    have split : digitsValue (c :: s) = digitsValue [c] * 10 ^ s.length + digitsValue s := digitsValue_append [c] s
    rw [split, first, ih, List.reverse_cons, List.map_append, Nat.ofDigits_append, List.length_map, List.length_reverse,
      List.map_singleton, Nat.ofDigits_singleton]
    ring

/-- A number is spelled by its digits, and by no other string without zeros before it. -/
theorem decimalDigits_digitsValue {s : NSString} (digits : s.all isAsciiDigit) (nonempty : s ≠ [])
    (leading : s.head? ≠ some 48 ∨ s.length = 1) : decimalDigits (digitsValue s) = s := by
  rw [List.all_eq_true] at digits
  have single (c : unichar) (isDigit : isAsciiDigit c = true) : decimalDigits (digitsValue [c]) = [c] := by
    have value : digitsValue [c] = digitValue c := Nat.zero_add _
    have same := digit_digitValue isDigit
    have bound := digitValue_lt isDigit
    rw [value]
    unfold decimalDigits
    by_cases zero : digitValue c = 0
    · rw [if_pos zero, ← same, zero]
    · rw [if_neg zero, Nat.digits_of_lt 10 _ zero bound, List.reverse_singleton, List.map_singleton, same]
  cases s with
  | nil => exact absurd rfl nonempty
  | cons c rest =>
    by_cases alone : rest = []
    · rw [alone]
      exact single c (digits c List.mem_cons_self)
    · have notZero : c ≠ 48 := by
        rintro rfl
        rcases leading with leading | leading
        · exact leading rfl
        · exact alone (List.length_eq_zero_iff.mp (Nat.succ.inj leading))
      have first : digitValue c ≠ 0 := by
        intro zero
        have same := digit_digitValue (digits c List.mem_cons_self)
        rw [zero] at same
        exact notZero same.symm
      have spelled : Nat.digits 10 (digitsValue (c :: rest)) = (c :: rest).reverse.map digitValue := by
        rw [digitsValue_eq_ofDigits]
        refine Nat.digits_ofDigits 10 (by omega) _ ?_ ?_
        · intro d listed
          obtain ⟨c', member, rfl⟩ := List.mem_map.mp listed
          exact digitValue_lt (digits c' (List.mem_reverse.mp member))
        · intro _
          simp only [List.reverse_cons, List.map_append, List.map_singleton, List.getLast_append_singleton]
          exact first
      have positive : digitsValue (c :: rest) ≠ 0 := by
        intro zero
        rw [zero, Nat.digits_zero] at spelled
        have lengths := congrArg List.length spelled
        simp at lengths
      unfold decimalDigits
      rw [if_neg positive, spelled, ← List.map_reverse, List.reverse_reverse, List.map_map]
      calc (c :: rest).map (digit ∘ digitValue)
          = (c :: rest).map id := List.map_congr_left fun c' member => digit_digitValue (digits c' member)
        _ = c :: rest := List.map_id _

theorem digitsValue_lt {s : NSString} (digits : s.all isAsciiDigit) : digitsValue s < 10 ^ s.length := by
  induction s with
  | nil => decide
  | cons c s ih =>
    rw [List.all_cons, Bool.and_eq_true] at digits
    have value := digitsValue_append [c] s
    have first : digitsValue [c] = digitValue c := Nat.zero_add _
    have bound := digitValue_lt digits.1
    have rest := ih digits.2
    rw [List.singleton_append, first] at value
    rw [value, List.length_cons, Nat.pow_succ]
    have most : digitValue c * 10 ^ s.length ≤ 9 * 10 ^ s.length := Nat.mul_le_mul_right _ (by omega)
    omega

theorem digitsValue_zeros (zeros : Nat) (s : NSString) : digitsValue (List.replicate zeros 48 ++ s) = digitsValue s := by
  induction zeros with
  | zero => rfl
  | succ zeros ih =>
    have value := digitsValue_append [48] (List.replicate zeros 48 ++ s)
    have first : digitsValue [48] = 0 := by decide
    rw [first, Nat.zero_mul, Nat.zero_add, ih] at value
    exact value

/-- A string of digits alone is read to its end. -/
theorem longLongValue_digits {s : NSString} (digits : s.all isAsciiDigit) (short : s.length ≤ 18) :
    longLongValue s = digitsValue s := by
  have bound := digitsValue_lt digits
  have small : 10 ^ s.length ≤ 10 ^ 18 := Nat.pow_le_pow_right (by omega) short
  rw [List.all_eq_true] at digits
  have blank : ∀ c : unichar, isAsciiDigit c = true → isWhitespace c = false ∧ c ≠ 45 ∧ c ≠ 43 := by
    intro c isDigit
    have value := digit_digitValue isDigit
    have less := digitValue_lt isDigit
    have each : ∀ d < 10, isWhitespace (digit d) = false ∧ digit d ≠ 45 ∧ digit d ≠ 43 := by decide
    rw [← value]
    exact each _ less
  have whole : s.dropWhile isWhitespace = s := by
    cases s with
    | nil => rfl
    | cons c rest =>
      rw [List.dropWhile_cons, if_neg]
      rw [(blank c (digits c List.mem_cons_self)).1]
      decide
  have taken : s.takeWhile isAsciiDigit = s := List.takeWhile_eq_self_iff.mpr digits
  unfold longLongValue
  rw [whole]
  split
  · exact absurd rfl (blank 45 (digits 45 List.mem_cons_self)).2.1
  · exact absurd rfl (blank 43 (digits 43 List.mem_cons_self)).2.2
  · rw [taken]
    omega

theorem decimalDigits_all (n : Nat) : (decimalDigits n).all isAsciiDigit := by
  have each : ∀ d < 10, isAsciiDigit (digit d) = true := by decide
  rw [List.all_eq_true]
  intro c member
  unfold decimalDigits at member
  split at member
  · obtain rfl := List.mem_singleton.mp member
    exact each 0 (by omega)
  · obtain ⟨d, listed, rfl⟩ := List.mem_map.mp member
    exact each d (Nat.digits_lt_base (by omega) (List.mem_reverse.mp listed))

theorem decimalDigits_ne_nil (n : Nat) : decimalDigits n ≠ [] := by
  unfold decimalDigits
  split
  · exact List.cons_ne_nil _ _
  · rename_i positive
    simpa [Nat.digits_eq_nil_iff_eq_zero] using positive

theorem digitsValue_decimalDigits (n : Nat) : digitsValue (decimalDigits n) = n := by
  rw [digitsValue_eq_ofDigits]
  unfold decimalDigits
  split
  · rename_i zero
    rw [zero]
    decide
  · have read : (Nat.digits 10 n).map (digitValue ∘ digit) = (Nat.digits 10 n).map id :=
      List.map_congr_left fun d listed => digitValue_digit (Nat.digits_lt_base (by omega) listed)
    rw [← List.map_reverse, List.reverse_reverse, List.map_map, read, List.map_id, Nat.ofDigits_digits]

/-- No zero comes before the digits of a positive number. -/
theorem head_decimalDigits {n : Nat} (positive : n ≠ 0) : (decimalDigits n).head? ≠ some 48 := by
  have some_digits : Nat.digits 10 n ≠ [] := Nat.digits_ne_nil_iff_ne_zero.mpr positive
  have last := Nat.getLast_digit_ne_zero 10 positive
  have listed := List.getLast_mem some_digits
  intro zero
  unfold decimalDigits at zero
  rw [if_neg positive, List.head?_map, List.head?_reverse, List.getLast?_eq_some_getLast some_digits] at zero
  have value := digitValue_digit (Nat.digits_lt_base (by omega) listed)
  rw [Option.some.inj zero] at value
  exact last value.symm

/-- Digits without zeros before them are written as they were read. -/
theorem stringValue_longLongValue {s : NSString} (digits : s.all isAsciiDigit) (nonempty : s ≠ [])
    (leading : s.head? ≠ some 48) (short : s.length ≤ 18) : stringValue (longLongValue s) = s := by
  rw [longLongValue_digits digits short]
  unfold stringValue
  rw [if_neg (by omega), Int.natAbs_natCast]
  exact decimalDigits_digitsValue digits nonempty (Or.inl leading)

end SignalPods.Foundation
