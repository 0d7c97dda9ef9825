import SignalPods.PhoneNumber.ParsingSafety
import SignalPods.Foundation.Decimals

namespace SignalPods.PhoneNumber

open Foundation

namespace NBPhoneNumberUtil

variable {u : NBPhoneNumberUtil}

theorem callingCodeOfLength_spells {s : NSString} (digits : s.all isAsciiDigit) (leading : s.head? ≠ some 48)
    {lengths : List Nat} (bounds : ∀ i ∈ lengths, 1 ≤ i ∧ i ≤ 18) {code : Int} {rest : NSString}
    (found : u.callingCodeOfLength s lengths = .ok (some (code, rest))) :
    formatted (some code) ++ rest = s ∧ rest.all isAsciiDigit := by
  induction lengths with
  | nil => cases found
  | cons i lengths ih =>
    unfold callingCodeOfLength at found
    split at found
    · rename_i short
      have inside : NSRange.Inside s ⟨0, i⟩ := by
        rw [NSRange.Inside, Nat.zero_add]
        exact short
      rw [substringWithRange_of_inside inside, slice_zero] at found
      simp only [bind, Except.bind] at found
      split at found
      · rw [substringFromIndex_of_le short] at found
        obtain ⟨rfl, rfl⟩ := Prod.mk.inj (Option.some.inj (Except.ok.inj found))
        have bound := bounds i List.mem_cons_self
        rw [List.all_eq_true] at digits
        have taken : (s.take i).all isAsciiDigit :=
          List.all_eq_true.mpr fun c member => digits c (List.mem_of_mem_take member)
        have nonempty : s.take i ≠ [] := by
          intro empty
          have lengths := congrArg List.length empty
          rw [List.length_take, List.length_nil] at lengths
          omega
        have first : (s.take i).head? ≠ some 48 := by
          rw [List.head?_take, if_neg (by omega)]
          exact leading
        have few : (s.take i).length ≤ 18 := by
          rw [List.length_take]
          omega
        refine ⟨?_, List.all_eq_true.mpr fun c member => digits c (List.mem_of_mem_drop member)⟩
        unfold formatted
        rw [Option.map_some, Option.getD_some, stringValue_longLongValue taken nonempty first few, List.take_append_drop]
      · exact ih (fun i member => bounds i (List.mem_cons_of_mem _ member)) found
    · cases found

theorem hasPrefix_plus_digits {s : NSString} (digits : s.all isAsciiDigit) :
    u.unicode.hasPrefix s (ns "+") = false := by
  rw [u.unicode.hasPrefix_plain s (ns "+") (all_isPlain_of_digits digits) (by decide)]
  cases s with
  | nil => rfl
  | cons c s =>
    rw [List.all_cons, Bool.and_eq_true] at digits
    have different : ((43 : unichar) == c) = false := by
      rw [beq_eq_false_iff_ne]
      rintro rfl
      exact absurd digits.1 (by decide)
    have head : (ns "+").isPrefixOf (c :: s) = (((43 : unichar) == c) && List.isPrefixOf [] s) := rfl
    rw [head, different]
    rfl

/-- A calling code and what follows it are the number they were read from. -/
theorem extractCountryCode_spells {s : NSString} (digits : s.all isAsciiDigit) {code : Int} {rest : NSString}
    (extracted : u.extractCountryCode s [] = .ok (code, rest)) (known : code ≠ 0) :
    formatted (some code) ++ rest = s ∧ rest.all isAsciiDigit := by
  unfold extractCountryCode at extracted
  rw [u.normalizeNonBreakingSpace_of_absent (ne_of_digits digits (by decide))] at extracted
  dsimp only at extracted
  split at extracted
  · obtain ⟨rfl, _⟩ := Prod.mk.inj (Except.ok.inj extracted)
    exact absurd rfl known
  · rename_i nonempty
    obtain ⟨start, atStart, extracted⟩ := bind_eq_ok_iff.mp extracted
    split at extracted
    · obtain ⟨rfl, _⟩ := Prod.mk.inj (Except.ok.inj extracted)
      exact absurd rfl known
    · rename_i noZero
      have leading : s.head? ≠ some 48 := by
        cases s with
        | nil => exact absurd rfl nonempty
        | cons c s =>
          rintro same
          obtain rfl := Option.some.inj same
          obtain rfl := Except.ok.inj ((substringToIndex_of_le (by simp)).symm.trans atStart)
          exact noZero rfl
      rw [hasPrefix_plus_digits digits] at extracted
      obtain ⟨found, atCode, extracted⟩ := bind_eq_ok_iff.mp extracted
      cases found with
      | none =>
        obtain ⟨rfl, _⟩ := Prod.mk.inj (Except.ok.inj extracted)
        exact absurd rfl known
      | some pair =>
        obtain ⟨code', rest'⟩ := pair
        obtain ⟨rfl, rfl⟩ := Prod.mk.inj (Except.ok.inj extracted)
        exact callingCodeOfLength_spells digits leading (by decide) atCode

/-- Calling codes are positive, have three digits at most, and none starts another. -/
structure PrefixFree (u : NBPhoneNumberUtil) : Prop where
  positive : ∀ code, u.hasValidCountryCallingCode (some code) → 0 < code
  short : ∀ code, u.hasValidCountryCallingCode (some code) → (stringValue code).length ≤ MAX_LENGTH_COUNTRY_CODE
  prefixFree : ∀ code other, u.hasValidCountryCallingCode (some code) → u.hasValidCountryCallingCode (some other) →
    stringValue code <+: stringValue other → code = other

section Read

variable {code : Int}

theorem stringValue_positive (positive : 0 < code) :
    (stringValue code).all isAsciiDigit ∧ stringValue code ≠ [] ∧ (stringValue code).head? ≠ some 48 ∧
      digitsValue (stringValue code) = code := by
  have same : stringValue code = decimalDigits code.natAbs := if_neg (by omega)
  rw [same, digitsValue_decimalDigits]
  exact ⟨decimalDigits_all _, decimalDigits_ne_nil _, head_decimalDigits (by omega), by omega⟩

/-- The first part of a number that is a calling code is the one that was written. -/
theorem callingCodeOfLength_of_code (codes : u.PrefixFree) (known : u.hasValidCountryCallingCode (some code))
    (digits : NSString) (count start : Nat) (first : 1 ≤ start)
    (before : start ≤ (stringValue code).length) (last : (stringValue code).length < start + count) :
    u.callingCodeOfLength (stringValue code ++ digits) (List.range' start count) = .ok (some (code, digits)) := by
  obtain ⟨codeDigits, some_digits, leading, value⟩ := stringValue_positive (codes.positive code known)
  have few := codes.short code known
  unfold MAX_LENGTH_COUNTRY_CODE at few
  induction count generalizing start with
  | zero => omega
  | succ count ih =>
    have inside : start ≤ (stringValue code ++ digits).length := by
      rw [List.length_append]
      omega
    have front : substringWithRange (stringValue code ++ digits) ⟨0, start⟩ = .ok ((stringValue code).take start) := by
      have within : NSRange.Inside (stringValue code ++ digits) ⟨0, start⟩ := by
        rw [NSRange.Inside, Nat.zero_add]
        exact inside
      rw [substringWithRange_of_inside within, slice_zero, List.take_append_of_le_length before]
    have taken : ((stringValue code).take start).all isAsciiDigit := by
      rw [List.all_eq_true] at codeDigits ⊢
      exact fun c member => codeDigits c (List.mem_of_mem_take member)
    have length : ((stringValue code).take start).length = start := by
      rw [List.length_take]
      omega
    have read := longLongValue_digits taken (by omega)
    rw [List.range'_succ, callingCodeOfLength, if_pos inside, front]
    simp only [bind, Except.bind]
    by_cases whole : start = (stringValue code).length
    · have all : (stringValue code).take start = stringValue code := List.take_of_length_le (by omega)
      rw [all] at read
      have same : integerValue (stringValue code) = code := read.trans value
      rw [all, same]
      have found : (u.regionCodeFromCountryCode (some code)).isSome = true := known
      rw [if_pos found, substringFromIndex_of_le inside, whole, List.drop_left]
      rfl
    · -- a shorter part would be a calling code that starts this one
      have unknown : ¬ (u.regionCodeFromCountryCode (some (integerValue ((stringValue code).take start)))).isSome = true := by
        intro other
        have spelled : stringValue (longLongValue ((stringValue code).take start)) = (stringValue code).take start := by
          refine stringValue_longLongValue taken ?_ ?_ (by omega)
          · intro empty
            rw [empty, List.length_nil] at length
            omega
          · rw [List.head?_take, if_neg (by omega)]
            exact leading
        have starts : stringValue (longLongValue ((stringValue code).take start)) <+: stringValue code := by
          rw [spelled]
          exact List.take_prefix _ _
        have same : longLongValue ((stringValue code).take start) = code :=
          codes.prefixFree _ code other known starts
        rw [same] at spelled
        rw [← spelled] at length
        exact whole length.symm
      rw [if_neg unknown]
      exact ih (start + 1) (by omega) (by omega) (by omega)

/-- A calling code that was written before digits is read again. -/
theorem extractCountryCode_of_code (codes : u.PrefixFree) (known : u.hasValidCountryCallingCode (some code))
    {digits : NSString} (areDigits : digits.all isAsciiDigit) :
    u.extractCountryCode (stringValue code ++ digits) [] = .ok (code, digits) := by
  obtain ⟨codeDigits, some_digits, leading, _⟩ := stringValue_positive (codes.positive code known)
  have few := codes.short code known
  have written : 1 ≤ (stringValue code).length := List.length_pos_of_ne_nil some_digits
  have whole : (stringValue code ++ digits).all isAsciiDigit := by
    rw [List.all_append, codeDigits, areDigits]
    rfl
  have nonempty : ¬ (stringValue code ++ digits).isEmpty := by simp [some_digits]
  have found := callingCodeOfLength_of_code codes known digits MAX_LENGTH_COUNTRY_CODE 1 le_rfl written (by omega)
  have start : substringToIndex (stringValue code ++ digits) 1 = .ok ((stringValue code).take 1) := by
    rw [substringToIndex_of_le (by rw [List.length_append]; omega), List.take_append_of_le_length written]
  have noZero : (stringValue code).take 1 ≠ ns "0" := by
    intro zero
    have head := congrArg List.head? zero
    rw [List.head?_take, if_neg (by omega)] at head
    exact leading head
  unfold extractCountryCode
  rw [u.normalizeNonBreakingSpace_of_absent (ne_of_digits whole (by decide))]
  dsimp only
  rw [if_neg nonempty, start]
  simp only [bind, Except.bind]
  rw [if_neg noZero, hasPrefix_plus_digits whole, if_neg Bool.false_ne_true, found]
  rfl

end Read

end NBPhoneNumberUtil

end SignalPods.PhoneNumber
