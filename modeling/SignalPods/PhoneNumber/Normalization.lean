import SignalPods.PhoneNumber.PhoneNumberUtil
import SignalPods.Foundation.Decimals

namespace SignalPods.PhoneNumber

open Foundation

theorem digitInBlock_isAsciiDigit {start c d : unichar} (bound : start.toNat < 2 ^ 16 - 9)
    (found : digitInBlock start c = some d) : isAsciiDigit d = true := by
  unfold digitInBlock at found
  split at found
  · rename_i inside
    cases found
    simp only [Bool.and_eq_true, decide_eq_true_eq, UInt16.le_iff_toNat_le, UInt16.toNat_add] at inside
    simp only [isAsciiDigit, Bool.and_eq_true, decide_eq_true_eq, UInt16.le_iff_toNat_le, UInt16.toNat_add,
      UInt16.toNat_sub_of_le _ _ (UInt16.le_iff_toNat_le.mpr inside.1)]
    have := c.toNat_lt
    simp at *
    omega
  · cases found

theorem DIGIT_MAPPINGS_isAsciiDigit {c d : unichar} (found : DIGIT_MAPPINGS c = some d) : isAsciiDigit d = true := by
  simp only [DIGIT_MAPPINGS, Option.or_eq_some_iff] at found
  rcases found with block | ⟨_, block | ⟨_, block | ⟨_, block | ⟨_, block | ⟨_, block⟩⟩⟩⟩⟩ <;>
    exact digitInBlock_isAsciiDigit (by decide) block

theorem DIGIT_MAPPINGS_digit {c : unichar} (isDigit : isAsciiDigit c = true) : DIGIT_MAPPINGS c = some c :=
  forall_digit (P := fun c => DIGIT_MAPPINGS c = some c) (by decide) isDigit

theorem keypad_isAsciiDigit : (ns "22233344455566677778889999").all isAsciiDigit = true := by decide +kernel

theorem ALL_NORMALIZATION_MAPPINGS_isAsciiDigit {c d : unichar} (found : ALL_NORMALIZATION_MAPPINGS c = some d) :
    isAsciiDigit d = true := by
  simp only [ALL_NORMALIZATION_MAPPINGS, Option.or_eq_some_iff] at found
  rcases found with block | ⟨_, block | ⟨_, block | ⟨_, block | ⟨_, letter⟩⟩⟩⟩
  · exact digitInBlock_isAsciiDigit (by decide) block
  · exact digitInBlock_isAsciiDigit (by decide) block
  · exact digitInBlock_isAsciiDigit (by decide) block
  · exact digitInBlock_isAsciiDigit (by decide) block
  · split at letter
    · exact List.all_eq_true.mp keypad_isAsciiDigit d (List.mem_of_getElem? letter)
    · cases letter

theorem isPlain_of_isAsciiDigit {c : unichar} (isDigit : isAsciiDigit c = true) : isPlain c = true := by
  simp only [isAsciiDigit, Bool.and_eq_true, decide_eq_true_eq] at isDigit
  have ascii : c < 0x80 := UInt16.lt_of_le_of_lt isDigit.2 (by decide)
  simp [isPlain, ascii]

theorem ne_of_digits {s : NSString} (digits : s.all isAsciiDigit) {t : unichar} (other : isAsciiDigit t = false) :
    ∀ c ∈ s, c ≠ t := by
  rw [List.all_eq_true] at digits
  rintro c member rfl
  rw [digits c member] at other
  cases other

theorem all_isPlain_of_digits {s : NSString} (digits : s.all isAsciiDigit) : s.all isPlain = true := by
  rw [List.all_eq_true] at digits ⊢
  intro c member
  exact isPlain_of_isAsciiDigit (digits c member)

namespace NBPhoneNumberUtil

variable (u : NBPhoneNumberUtil)

theorem normalizeNonBreakingSpace_of_absent {s : NSString} (absent : ∀ c ∈ s, c ≠ 0xa0) :
    u.normalizeNonBreakingSpace s = s :=
  Unicode.stringByReplacingUnit_of_absent absent

theorem normalizeDigitsOnly_digits (number : NSString) : (u.normalizeDigitsOnly number).all isAsciiDigit = true := by
  rw [List.all_eq_true]
  intro d member
  obtain ⟨c, _, mapped⟩ := List.mem_filterMap.mp member
  exact DIGIT_MAPPINGS_isAsciiDigit mapped

/-- With nothing kept but what is replaced, the units are looked up one by one. -/
theorem normalizeHelper_removing (normalizationReplacements : unichar → Option unichar) (s : NSString) :
    u.normalizeHelper normalizationReplacements true s = s.filterMap (u.newDigit normalizationReplacements) := by
  induction s with
  | nil => rfl
  | cons c s ih =>
    unfold normalizeHelper at ih ⊢
    rw [List.flatMap_cons, List.filterMap_cons, ih]
    cases u.newDigit normalizationReplacements c <;> rfl

theorem normalizeHelper_digits (s : NSString) :
    (u.normalizeHelper ALL_NORMALIZATION_MAPPINGS true s).all isAsciiDigit = true := by
  rw [normalizeHelper_removing, List.all_eq_true]
  intro d member
  obtain ⟨c, _, mapped⟩ := List.mem_filterMap.mp member
  unfold newDigit at mapped
  cases upper : u.unicode.uppercaseString [c] with
  | nil => simp [upper] at mapped
  | cons first rest =>
    cases rest with
    | nil => exact ALL_NORMALIZATION_MAPPINGS_isAsciiDigit (by simpa [upper] using mapped)
    | cons second rest => simp [upper] at mapped

/-- Nothing but digits is left by the normalization. -/
theorem normalize_digits (number : NSString) : (u.normalize number).all isAsciiDigit = true := by
  unfold normalize
  split
  · exact u.normalizeHelper_digits number
  · exact u.normalizeDigitsOnly_digits number

end NBPhoneNumberUtil

end SignalPods.PhoneNumber
