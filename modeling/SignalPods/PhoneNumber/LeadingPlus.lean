import SignalPods.PhoneNumber.Parsing
import SignalPods.PhoneNumber.Normalization
import SignalPods.PhoneNumber.RunExpressions
import SignalPods.Foundation.Returns

namespace SignalPods.PhoneNumber

open Foundation

def isPlusChar (c : unichar) : Bool := c == 43 || c == 0xff0b

namespace NBPhoneNumberUtil

/-- The expression for leading plus signs matches all of them at once. -/
def MatchesLeadingPlus (u : NBPhoneNumberUtil) : Prop :=
  ∀ s length, length ≤ s.length → u.regex.matchesInString LEADING_PLUS_CHARS_PATTERN s ⟨0, length⟩ =
    if (s.take length).takeWhile isPlusChar = [] then []
    else [{ range := ⟨0, ((s.take length).takeWhile isPlusChar).length⟩ }]

variable {u : NBPhoneNumberUtil} (law : u.MatchesLeadingPlus)

include law

theorem allMatches_leadingPlus (s : NSString) :
    u.regex.allMatches LEADING_PLUS_CHARS_PATTERN s =
      if s.takeWhile isPlusChar = [] then [] else [{ range := ⟨0, (s.takeWhile isPlusChar).length⟩ }] := by
  unfold NSRegularExpressions.allMatches
  rw [law s s.length le_rfl, List.take_length]

theorem isStartingStringByRegex_leadingPlus (s : NSString) :
    u.isStartingStringByRegex s LEADING_PLUS_CHARS_PATTERN = s.head?.any isPlusChar := by
  unfold isStartingStringByRegex
  rw [allMatches_leadingPlus law]
  cases s with
  | nil => rfl
  | cons c rest =>
    by_cases plus : isPlusChar c
    · simp [plus]
    · simp [plus]

/-- Replacing the plus signs by nothing drops them. -/
theorem replaceStringByRegex_leadingPlus (s : NSString) :
    u.replaceStringByRegex s LEADING_PLUS_CHARS_PATTERN [] = s.dropWhile isPlusChar :=
  replaceStringByRegex_leadingRun law s

omit law in
theorem head_dropWhile_isPlusChar (s : NSString) : (s.dropWhile isPlusChar).head?.any isPlusChar = false := by
  cases rest : s.dropWhile isPlusChar with
  | nil => rfl
  | cons c tail =>
    have first := List.head_dropWhile_not isPlusChar (l := s) (by rw [rest]; exact List.cons_ne_nil _ _)
    simp only [rest, List.head_cons] at first
    simpa using first

omit law in
/-- Taking off an extension leaves the first unit. -/
theorem maybeStripExtension_head {candidate extension number : NSString}
    (stripped : u.maybeStripExtension candidate = .ok (extension, number)) : number.head? = candidate.head? := by
  unfold maybeStripExtension at stripped
  dsimp only at stripped
  split at stripped
  · obtain ⟨tokenedString, token, stripped⟩ := bind_eq_ok_iff.mp stripped
    split at stripped
    · rename_i viable
      have same : number = tokenedString ∨ number = candidate := by
        split at stripped
        · obtain ⟨captured, _, stripped⟩ := bind_eq_ok_iff.mp stripped
          cases captured with
          | none => exact Or.inr (Prod.mk.inj (Except.ok.inj stripped)).2.symm
          | some matchString => exact Or.inl (Prod.mk.inj (Except.ok.inj stripped)).2.symm
        · exact Or.inr (Prod.mk.inj (Except.ok.inj stripped)).2.symm
      obtain rfl | rfl := same
      · have inside := returns_substringWithRange_iff.mp ⟨_, token⟩
        rw [substringWithRange_of_inside inside, slice_zero] at token
        obtain rfl := Except.ok.inj token
        -- a viable number is not empty
        have nonempty : (candidate.take (u.stringPositionByRegex candidate EXTN_PATTERN).toNat) ≠ [] := by
          intro empty
          rw [empty] at viable
          cases viable
        have first : (u.stringPositionByRegex candidate EXTN_PATTERN).toNat ≠ 0 := by
          intro zero
          rw [zero] at nonempty
          exact nonempty rfl
        rw [List.head?_take, if_neg first]
      · rfl
    · exact congrArg List.head? (Prod.mk.inj (Except.ok.inj stripped)).2.symm
  · exact congrArg List.head? (Prod.mk.inj (Except.ok.inj stripped)).2.symm

theorem maybeStripInternationalPrefix_signed {number : NSString} (signed : number.head?.any isPlusChar)
    (possibleIddPrefix : NSString) :
    u.maybeStripInternationalPrefixAndNormalize number possibleIddPrefix =
      .ok (.FROM_NUMBER_WITH_PLUS_SIGN, u.normalize (number.dropWhile isPlusChar)) := by
  have nonempty : ¬ number.isEmpty := by
    intro empty
    rw [List.isEmpty_iff.mp empty] at signed
    cases signed
  unfold maybeStripInternationalPrefixAndNormalize
  rw [if_neg nonempty, isStartingStringByRegex_leadingPlus law, if_pos signed,
    replaceStringByRegex_leadingPlus law]
  rfl

theorem maybeExtractCountryCode_signed {number : NSString} (signed : number.head?.any isPlusChar)
    (metadata : Option NBPhoneMetaData) (nationalNumber : NSString) (keepRawInput : Bool) (phoneNumber : NBPhoneNumber) :
    u.maybeExtractCountryCode number metadata nationalNumber keepRawInput phoneNumber =
      u.extractInternational (u.normalize (number.dropWhile isPlusChar)) nationalNumber
        (if keepRawInput then { phoneNumber with countryCodeSource := some .FROM_NUMBER_WITH_PLUS_SIGN }
        else phoneNumber) := by
  have nonempty : ¬ number.isEmpty := by
    intro empty
    rw [List.isEmpty_iff.mp empty] at signed
    cases signed
  unfold maybeExtractCountryCode
  rw [if_neg nonempty, maybeStripInternationalPrefix_signed law signed]
  rfl

/-- Without a plus sign or a region no calling code is looked for. -/
theorem maybeExtractCountryCode_unsigned {number : NSString} (unsigned : number.head?.any isPlusChar = false)
    (nationalNumber : NSString) (keepRawInput : Bool) (phoneNumber : NBPhoneNumber) :
    ∃ extraction, u.maybeExtractCountryCode number none nationalNumber keepRawInput phoneNumber = .ok extraction ∧
      extraction.countryCode = some 0 ∧ extraction.error = none ∧
      (number ≠ [] → extraction.phoneNumber.countryCode = some 0) := by
  unfold maybeExtractCountryCode
  by_cases empty : number.isEmpty
  · rw [if_pos empty]
    exact ⟨_, rfl, rfl, rfl, fun nonempty => absurd (List.isEmpty_iff.mp empty) nonempty⟩
  · have position : u.stringPositionByRegex (u.normalize number) (possibleCountryIddPrefix none) = -1 := by
      unfold stringPositionByRegex possibleCountryIddPrefix
      simp
    rw [if_neg empty, maybeStripInternationalPrefixAndNormalize, if_neg empty,
      isStartingStringByRegex_leadingPlus law, unsigned, parsePrefixAsIdd, position]
    exact ⟨_, rfl, rfl, rfl, fun _ => rfl⟩

omit law in
theorem extractInternational_fields {fullNumber nationalNumber : NSString} {phoneNumber : NBPhoneNumber}
    {extraction : Extraction} (extracted : u.extractInternational fullNumber nationalNumber phoneNumber = .ok extraction) :
    extraction.phoneNumber.rawInput = phoneNumber.rawInput ∧
      extraction.phoneNumber.countryCodeSource = phoneNumber.countryCodeSource ∧
      (extraction.error = none → isEqualToNumber extraction.countryCode (some 0) = false) := by
  unfold extractInternational at extracted
  split at extracted
  · obtain rfl := Except.ok.inj extracted
    exact ⟨rfl, rfl, fun absent => by cases absent⟩
  · obtain ⟨⟨code, rest⟩, _, extracted⟩ := bind_eq_ok_iff.mp extracted
    dsimp only at extracted
    split at extracted
    · rename_i found
      obtain rfl := Except.ok.inj extracted
      exact ⟨rfl, rfl, fun _ => by simpa [isEqualToNumber] using found⟩
    · obtain rfl := Except.ok.inj extracted
      exact ⟨rfl, rfl, fun absent => by cases absent⟩

/-- Without a region only the number after the plus signs is tried with success. -/
theorem extractInternational_of_without_region {number : NSString} (signed : number.head?.any isPlusChar)
    {keepRawInput : Bool} {phoneNumber : NBPhoneNumber} {extraction : Extraction}
    (extracted : u.extractForParsing number none keepRawInput phoneNumber = .ok (.ok extraction)) :
    u.extractInternational (u.normalize (number.dropWhile isPlusChar)) []
      (if keepRawInput then { phoneNumber with countryCodeSource := some .FROM_NUMBER_WITH_PLUS_SIGN }
        else phoneNumber) = .ok extraction ∧ extraction.error = none := by
  unfold extractForParsing at extracted
  rw [maybeExtractCountryCode_signed law signed] at extracted
  obtain ⟨first, international, extracted⟩ := bind_eq_ok_iff.mp extracted
  cases atError : first.error with
  | none =>
    rw [atError] at extracted
    obtain rfl := Except.ok.inj (Except.ok.inj extracted)
    exact ⟨international, atError⟩
  | some anError =>
    rw [atError] at extracted
    dsimp only at extracted
    split at extracted
    · -- the number without its plus signs has no calling code either
      rw [replaceStringByRegex_leadingPlus law] at extracted
      obtain ⟨again, retried, extracted⟩ := bind_eq_ok_iff.mp extracted
      obtain ⟨second, unsigned, code, _⟩ := maybeExtractCountryCode_unsigned law (head_dropWhile_isPlusChar number)
        first.nationalNumber keepRawInput first.phoneNumber
      obtain rfl := Except.ok.inj (unsigned.symm.trans retried)
      rw [code] at extracted
      cases extracted
    · cases extracted

/-- Without a region the calling code comes from a plus sign. -/
theorem extractForParsing_without_region {number : NSString} (signed : number.head?.any isPlusChar)
    {keepRawInput : Bool} {phoneNumber : NBPhoneNumber} {extraction : Extraction}
    (extracted : u.extractForParsing number none keepRawInput phoneNumber = .ok (.ok extraction)) :
    isEqualToNumber extraction.countryCode (some 0) = false := by
  obtain ⟨international, absent⟩ := extractInternational_of_without_region law signed extracted
  obtain ⟨_, _, specified⟩ := extractInternational_fields international
  exact specified absent

/-- What a plus sign gives without a region it gives in every region. -/
theorem extractForParsing_in_region {number : NSString} (signed : number.head?.any isPlusChar) {keepRawInput : Bool}
    {phoneNumber : NBPhoneNumber} {extraction : Extraction}
    (extracted : u.extractForParsing number none keepRawInput phoneNumber = .ok (.ok extraction))
    (metadata : Option NBPhoneMetaData) :
    u.extractForParsing number metadata keepRawInput phoneNumber = .ok (.ok extraction) := by
  obtain ⟨international, absent⟩ := extractInternational_of_without_region law signed extracted
  unfold extractForParsing
  rw [maybeExtractCountryCode_signed law signed, international]
  simp only [bind, Except.bind, absent]
  rfl

end NBPhoneNumberUtil

end SignalPods.PhoneNumber
