import SignalPods.PhoneNumber.ParserExpressions

namespace SignalPods.PhoneNumber

open Foundation

/-- A Bengali or Devanagari digit. -/
def isIndicDigit (c : unichar) : Bool := (0x9e6 ≤ c && c ≤ 0x9ef) || (0x966 ≤ c && c ≤ 0x96f)

/-- What the keypad has for a capital letter. -/
def keypad (c : unichar) : Option unichar :=
  if 65 ≤ c && c ≤ 90 then (ns "22233344455566677778889999")[c.toNat - 65]? else none

section Tables

/-- The digits that both tables know. -/
def commonDigit (c : unichar) : Option unichar :=
  (digitInBlock 48 c).or <| (digitInBlock 0xff10 c).or <| (digitInBlock 0x660 c).or <| digitInBlock 0x6f0 c

def indicDigit (c : unichar) : Option unichar := (digitInBlock 0x9e6 c).or <| digitInBlock 0x966 c

theorem DIGIT_MAPPINGS_eq (c : unichar) : DIGIT_MAPPINGS c = (commonDigit c).or (indicDigit c) := by
  unfold DIGIT_MAPPINGS commonDigit indicDigit
  rw [Option.or_assoc, Option.or_assoc, Option.or_assoc]

theorem ALL_NORMALIZATION_MAPPINGS_eq (c : unichar) : ALL_NORMALIZATION_MAPPINGS c = (commonDigit c).or (keypad c) := by
  unfold ALL_NORMALIZATION_MAPPINGS commonDigit keypad
  rw [Option.or_assoc, Option.or_assoc, Option.or_assoc]

theorem isSome_digitInBlock {start c : unichar} (bound : start.toNat < 2 ^ 16 - 9) :
    (digitInBlock start c).isSome ↔ start.toNat ≤ c.toNat ∧ c.toNat ≤ start.toNat + 9 := by
  have stop : (start + 9).toNat = start.toNat + 9 := by
    rw [UInt16.toNat_add]
    exact Nat.mod_eq_of_lt (by simp only [UInt16.reduceToNat]; omega)
  unfold digitInBlock
  rw [← stop]
  split
  · rename_i inside
    rw [Bool.and_eq_true, decide_eq_true_eq, decide_eq_true_eq, UInt16.le_iff_toNat_le, UInt16.le_iff_toNat_le] at inside
    exact iff_of_true rfl inside
  · rename_i outside
    rw [Bool.and_eq_true, decide_eq_true_eq, decide_eq_true_eq, UInt16.le_iff_toNat_le, UInt16.le_iff_toNat_le] at outside
    exact iff_of_false (by decide) outside

theorem isSome_indicDigit {c : unichar} : (indicDigit c).isSome ↔ isIndicDigit c := by
  have bengali : (digitInBlock 0x9e6 c).isSome ↔ 0x9e6 ≤ c.toNat ∧ c.toNat ≤ 0x9e6 + 9 := isSome_digitInBlock (by decide)
  have devanagari : (digitInBlock 0x966 c).isSome ↔ 0x966 ≤ c.toNat ∧ c.toNat ≤ 0x966 + 9 := isSome_digitInBlock (by decide)
  unfold indicDigit isIndicDigit
  rw [Option.isSome_or, Bool.or_eq_true, bengali, devanagari]
  simp only [Bool.or_eq_true, Bool.and_eq_true, decide_eq_true_eq, UInt16.le_iff_toNat_le, UInt16.reduceToNat]

/-- An Indic digit is in the table of digits alone. -/
theorem indicDigit_alone {c : unichar} (indic : isIndicDigit c) : commonDigit c = none ∧ keypad c = none := by
  have ascii : (digitInBlock 48 c).isSome ↔ 48 ≤ c.toNat ∧ c.toNat ≤ 48 + 9 := isSome_digitInBlock (by decide)
  have fullwidth : (digitInBlock 0xff10 c).isSome ↔ 0xff10 ≤ c.toNat ∧ c.toNat ≤ 0xff10 + 9 :=
    isSome_digitInBlock (by decide)
  have arabic : (digitInBlock 0x660 c).isSome ↔ 0x660 ≤ c.toNat ∧ c.toNat ≤ 0x660 + 9 := isSome_digitInBlock (by decide)
  have eastern : (digitInBlock 0x6f0 c).isSome ↔ 0x6f0 ≤ c.toNat ∧ c.toNat ≤ 0x6f0 + 9 := isSome_digitInBlock (by decide)
  simp only [isIndicDigit, Bool.or_eq_true, Bool.and_eq_true, decide_eq_true_eq, UInt16.le_iff_toNat_le,
    UInt16.reduceToNat] at indic
  constructor
  · rw [← Option.not_isSome_iff_eq_none]
    unfold commonDigit
    rw [Option.isSome_or, Option.isSome_or, Option.isSome_or, Bool.or_eq_true, Bool.or_eq_true, Bool.or_eq_true, ascii,
      fullwidth, arabic, eastern]
    omega
  · unfold keypad
    refine if_neg ?_
    simp only [Bool.and_eq_true, decide_eq_true_eq, UInt16.le_iff_toNat_le, UInt16.reduceToNat]
    omega

end Tables

namespace NBPhoneNumberUtil

variable (u : NBPhoneNumberUtil)

/-- What the keypad has for a unit whose upper case is a letter. -/
def keypadDigit (c : unichar) : Option unichar :=
  match u.unicode.uppercaseString [c] with
  | [upper] => keypad upper
  | _ => none

/-- The normalization of a string has, in order and once each, the values of its
digits; with letters enough, what the keypad has for the letters stands between them. -/
structure KeepsDigits (s : NSString) : Prop where
  digits : (u.normalize s).all isAsciiDigit
  again : u.normalize (u.normalize s) = u.normalize s
  values : u.normalize s = s.filterMap fun c =>
    (DIGIT_MAPPINGS c).or (if u.matchesPattern VALID_ALPHA_PHONE_PATTERN_STRING s then u.keypadDigit c else none)

/-- Digits have no case, and nothing has a digit as its upper case but the digit itself. -/
def DigitsHaveNoCase : Prop :=
  ∀ c d, (DIGIT_MAPPINGS d).isSome → (u.unicode.uppercaseString [c] = [d] ↔ c = d)

/-- There are no letters in digits. -/
def NoLettersInDigits : Prop :=
  ∀ s, s.all isAsciiDigit → u.matchesPattern VALID_ALPHA_PHONE_PATTERN_STRING s = false

variable {u}

theorem normalizeDigitsOnly_eq (s : NSString) : u.normalizeDigitsOnly s = s.filterMap DIGIT_MAPPINGS := by
  unfold normalizeDigitsOnly normalizeNonBreakingSpace
  exact Unicode.filterMap_stringByReplacingUnit (by decide)

theorem normalize_of_digits (letters : u.NoLettersInDigits) {s : NSString} (digits : s.all isAsciiDigit) :
    u.normalize s = s := by
  have same : s.filterMap DIGIT_MAPPINGS = s.filterMap some := by
    rw [List.all_eq_true] at digits
    exact List.filterMap_congr fun c member => DIGIT_MAPPINGS_digit (digits c member)
  unfold normalize
  rw [letters s digits, if_neg Bool.false_ne_true, normalizeDigitsOnly_eq, same, List.filterMap_some]

/-- What is made of a unit when there are letters: the digits of the Indic blocks are lost. -/
theorem normalizeHelper_eq (caseless : u.DigitsHaveNoCase) (s : NSString) :
    u.normalizeHelper ALL_NORMALIZATION_MAPPINGS true s = s.filterMap fun c =>
      if isIndicDigit c then none else (DIGIT_MAPPINGS c).or (u.keypadDigit c) := by
  rw [normalizeHelper_removing]
  refine List.filterMap_congr fun c _ => ?_
  unfold newDigit
  by_cases digit : (DIGIT_MAPPINGS c).isSome
  · have upper : u.unicode.uppercaseString [c] = [c] := (caseless c c digit).mpr rfl
    unfold keypadDigit
    rw [upper]
    dsimp only
    rw [ALL_NORMALIZATION_MAPPINGS_eq]
    by_cases indic : isIndicDigit c
    · obtain ⟨common, letter⟩ := indicDigit_alone indic
      rw [if_pos indic, common, letter]
      rfl
    · have none : indicDigit c = none := by
        rw [← Option.not_isSome_iff_eq_none, isSome_indicDigit]
        exact indic
      rw [if_neg indic, DIGIT_MAPPINGS_eq, none, Option.or_none]
  · have noIndic : ¬ isIndicDigit c = true := by
      rw [← isSome_indicDigit]
      intro found
      rw [DIGIT_MAPPINGS_eq, Option.isSome_or, found, Bool.or_true] at digit
      exact digit rfl
    rw [if_neg noIndic, Option.not_isSome_iff_eq_none.mp digit, Option.none_or]
    split
    · rename_i upper same
      have here : u.keypadDigit c = keypad upper := by
        unfold keypadDigit
        rw [same]
      have common : commonDigit upper = none := by
        rw [← Option.not_isSome_iff_eq_none]
        intro found
        have isDigit : (DIGIT_MAPPINGS upper).isSome := by
          rw [DIGIT_MAPPINGS_eq, Option.isSome_or, found, Bool.true_or]
        exact digit ((caseless c upper isDigit).mp same ▸ isDigit)
      rw [here, ALL_NORMALIZATION_MAPPINGS_eq, common, Option.none_or]
    · rename_i several
      unfold keypadDigit
      split
      · rename_i upper same
        exact absurd same (several upper)
      · rfl

/-- Fewer units are left when some are dropped that were kept. -/
theorem length_filterMap_lt {f g : unichar → Option unichar} (fewer : ∀ c, (f c).isSome → (g c).isSome) {s : NSString}
    {c : unichar} (member : c ∈ s) (dropped : f c = none) (kept : (g c).isSome) :
    (s.filterMap f).length < (s.filterMap g).length := by
  have le (s : NSString) : (s.filterMap f).length ≤ (s.filterMap g).length := by
    rw [List.length_filterMap_eq_countP, List.length_filterMap_eq_countP]
    exact List.countP_mono_left fun d _ => fewer d
  obtain ⟨front, back, rfl⟩ := List.append_of_mem member
  obtain ⟨d, value⟩ := Option.isSome_iff_exists.mp kept
  have before := le front
  have after := le back
  rw [List.filterMap_append, List.filterMap_append, List.filterMap_cons_none dropped, List.filterMap_cons_some value,
    List.length_append, List.length_append, List.length_cons]
  omega

/-- The digits are kept unless there are letters and Indic digits among them. -/
theorem normalize_keeps_digits_iff (caseless : u.DigitsHaveNoCase) (letters : u.NoLettersInDigits) (s : NSString) :
    u.KeepsDigits s ↔ (u.matchesPattern VALID_ALPHA_PHONE_PATTERN_STRING s → ∀ c ∈ s, isIndicDigit c = false) := by
  have digits := u.normalize_digits s
  constructor
  · intro keeps alpha c member
    rw [← Bool.not_eq_true]
    intro indic
    have values := keeps.values
    rw [normalize, if_pos alpha, normalizeHelper_eq caseless] at values
    simp only [if_pos alpha] at values
    have value : (DIGIT_MAPPINGS c).isSome := by
      rw [DIGIT_MAPPINGS_eq, Option.isSome_or, isSome_indicDigit.mpr indic, Bool.or_true]
    refine absurd (congrArg List.length values) (Nat.ne_of_lt (length_filterMap_lt ?_ member ?_ ?_))
    · intro d kept
      split at kept
      · cases kept
      · exact kept
    · exact if_pos indic
    · rw [Option.isSome_or, value, Bool.true_or]
  · intro fits
    refine ⟨digits, normalize_of_digits letters digits, ?_⟩
    by_cases alpha : u.matchesPattern VALID_ALPHA_PHONE_PATTERN_STRING s
    · rw [normalize, if_pos alpha, normalizeHelper_eq caseless]
      simp only [if_pos alpha]
      refine List.filterMap_congr fun c member => if_neg ?_
      rw [fits alpha c member]
      decide
    · rw [normalize, if_neg alpha, normalizeDigitsOnly_eq]
      simp only [if_neg alpha]
      exact List.filterMap_congr fun c _ => (Option.or_none).symm

section Ascii

/-- The parser over no metadata. -/
def unknownRegions : NBPhoneNumberUtil :=
  parserRegions plainExpressions { countryCodeToRegionCodeMap := fun _ => none, countryToMetadata := fun _ => none }

theorem unknownRegions_caseless : unknownRegions.DigitsHaveNoCase := by
  intro c d isDigit
  have ascii : (digitInBlock 48 d).isSome ↔ 48 ≤ d.toNat ∧ d.toNat ≤ 48 + 9 := isSome_digitInBlock (by decide)
  have fullwidth : (digitInBlock 0xff10 d).isSome ↔ 0xff10 ≤ d.toNat ∧ d.toNat ≤ 0xff10 + 9 :=
    isSome_digitInBlock (by decide)
  have arabic : (digitInBlock 0x660 d).isSome ↔ 0x660 ≤ d.toNat ∧ d.toNat ≤ 0x660 + 9 := isSome_digitInBlock (by decide)
  have eastern : (digitInBlock 0x6f0 d).isSome ↔ 0x6f0 ≤ d.toNat ∧ d.toNat ≤ 0x6f0 + 9 := isSome_digitInBlock (by decide)
  have bengali : (digitInBlock 0x9e6 d).isSome ↔ 0x9e6 ≤ d.toNat ∧ d.toNat ≤ 0x9e6 + 9 := isSome_digitInBlock (by decide)
  have devanagari : (digitInBlock 0x966 d).isSome ↔ 0x966 ≤ d.toNat ∧ d.toNat ≤ 0x966 + 9 := isSome_digitInBlock (by decide)
  unfold DIGIT_MAPPINGS at isDigit
  simp only [Option.isSome_or, Bool.or_eq_true, ascii, fullwidth, arabic, eastern, bengali, devanagari] at isDigit
  exact ascii_uppercaseString_eq_iff (by omega) (by omega)

theorem unknownRegions_letters : unknownRegions.NoLettersInDigits := by
  intro s digits
  rw [List.all_eq_true] at digits
  exact (parserExpressions_encoded rfl).letters s fun c member =>
    isLetter_of_isValidDigit (isValidDigit_of_isAsciiDigit (digits c member))

theorem normalize_keeps_flowers : unknownRegions.KeepsDigits (ns "1-800-FLOWERS") := by
  refine (normalize_keeps_digits_iff unknownRegions_caseless unknownRegions_letters _).mpr ?_
  intro _ c member
  have none : (ns "1-800-FLOWERS").all (fun c => !isIndicDigit c) = true := by decide
  rw [List.all_eq_true] at none
  exact Bool.not_eq_true' _ ▸ none c member

/-- A Bengali one is lost behind three letters. -/
theorem bengali_digit_lost : unknownRegions.normalize (ns "ABC" ++ [0x9e7]) = ns "222" ∧
    ¬ unknownRegions.KeepsDigits (ns "ABC" ++ [0x9e7]) := by
  refine ⟨by decide +kernel, fun keeps => ?_⟩
  exact absurd keeps.values (by decide +kernel)

end Ascii

end NBPhoneNumberUtil

end SignalPods.PhoneNumber
