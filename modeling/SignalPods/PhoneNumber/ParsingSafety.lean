import SignalPods.PhoneNumber.Parsing
import SignalPods.PhoneNumber.Normalization
import SignalPods.Foundation.Returns

namespace SignalPods.PhoneNumber

open Foundation

/-- The general pattern is there, and the general list of lengths is not empty. -/
def NBPhoneMetaData.Complete (metadata : NBPhoneMetaData) : Prop :=
  metadata.generalDesc.nationalNumberPattern.isSome ∧ metadata.generalDesc.possibleLength ≠ some []

def NBMetadataHelper.Complete (helper : NBMetadataHelper) : Prop :=
  ∀ region metadata, helper.countryToMetadata region = some metadata → metadata.Complete

namespace NBPhoneNumberUtil

variable {u : NBPhoneNumberUtil}

theorem complete_of_getMetadataForRegion (complete : u.helper.Complete) {region : Option NSString}
    {metadata : NBPhoneMetaData} (found : u.getMetadataForRegion region = some metadata) : metadata.Complete := by
  unfold getMetadataForRegion at found
  cases region with
  | none => cases found
  | some region =>
    dsimp only at found
    split at found
    · cases found
    · exact complete _ _ found

/-- A position is that of a match, inside the string. -/
theorem stringPositionByRegex_cases (u : NBPhoneNumberUtil) (s pattern : NSString) :
    u.stringPositionByRegex s pattern = -1 ∨
      ∃ result results, u.regex.allMatches pattern s = result :: results ∧ result.range.Inside s ∧
        u.stringPositionByRegex s pattern = result.range.location := by
  unfold stringPositionByRegex
  split
  · exact Or.inl rfl
  · cases found : u.regex.allMatches pattern s with
    | nil => exact Or.inl rfl
    | cons result results =>
      have inside := NSRegularExpressions.inside_of_mem_allMatches (found ▸ List.mem_cons_self)
      exact Or.inr ⟨result, results, rfl, inside 0 _ rfl, rfl⟩

theorem stringPositionByRegex_le (u : NBPhoneNumberUtil) (s pattern : NSString) :
    (u.stringPositionByRegex s pattern).toNat ≤ s.length := by
  rcases u.stringPositionByRegex_cases s pattern with absent | ⟨result, _, _, inside, position⟩
  · rw [absent]
    exact Nat.zero_le _
  · unfold NSRange.Inside at inside
    omega

theorem indexOfStringByString_le (u : NBPhoneNumberUtil) (s target : NSString) :
    (u.indexOfStringByString s target).toNat ≤ s.length := by
  unfold indexOfStringByString
  cases found : u.unicode.rangeOfString s target with
  | none => exact Nat.zero_le _
  | some index => exact u.unicode.rangeOfString_le s target index found

theorem extractPossibleNumber_returns (u : NBPhoneNumberUtil) (number : NSString) :
    Returns (u.extractPossibleNumber number) := by
  refine Returns.ite (fun _ => ?_) (fun _ => returns_pure _)
  refine (returns_substringFromIndex_iff.mpr (u.stringPositionByRegex_le _ _)).bind fun possibleNumber _ => ?_
  refine Returns.ite (fun _ => ?_) (fun _ => returns_pure _)
  rw [returns_substringWithRange_iff, NSRange.Inside, Nat.zero_add]
  exact u.stringPositionByRegex_le _ _

section Extension

theorem capturedExtension_returns {number : NSString} {groups : List (Option NSRange)}
    (inside : ∀ range, some range ∈ groups → range.Inside number) : Returns (capturedExtension number groups) := by
  induction groups with
  | nil => exact returns_ok _
  | cons group groups ih =>
    have rest := ih fun range member => inside range (List.mem_cons_of_mem _ member)
    cases group with
    | none => exact rest
    | some range =>
      refine Returns.ite (fun _ => ?_) (fun _ => rest)
      exact (returns_substringWithRange_iff.mpr (inside range List.mem_cons_self)).map _

theorem inside_groups {s : NSString} {result : NSTextCheckingResult} (inside : result.Inside s) {range : NSRange}
    (member : some range ∈ result.groups) : range.Inside s := by
  obtain ⟨index, atIndex⟩ := List.mem_iff_getElem?.mp member
  exact inside (index + 1) range (by simp [NSTextCheckingResult.rangeAtIndex, atIndex])

theorem maybeStripExtension_returns (u : NBPhoneNumberUtil) (number : NSString) :
    Returns (u.maybeStripExtension number) := by
  refine Returns.ite (fun _ => ?_) (fun _ => returns_pure _)
  have token : NSRange.Inside number ⟨0, (u.stringPositionByRegex number EXTN_PATTERN).toNat⟩ := by
    rw [NSRange.Inside, Nat.zero_add]
    exact u.stringPositionByRegex_le _ _
  refine (returns_substringWithRange_iff.mpr token).bind fun tokenedString _ => ?_
  refine Returns.ite (fun _ => ?_) (fun _ => returns_pure _)
  cases found : u.regex.allMatches EXTN_PATTERN number with
  | nil => exact returns_pure _
  | cons firstMatch others =>
    have inside := NSRegularExpressions.inside_of_mem_allMatches (found ▸ List.mem_cons_self)
    refine (capturedExtension_returns fun range => inside_groups inside).bind fun captured _ => ?_
    cases captured <;> exact returns_pure _

end Extension

section Prefixes

theorem parsePrefixAsIdd_returns (u : NBPhoneNumberUtil) (iddPattern number : NSString) :
    Returns (u.parsePrefixAsIdd iddPattern number) := by
  refine Returns.ite (fun atStart => ?_) (fun _ => returns_pure _)
  rcases u.stringPositionByRegex_cases number iddPattern with absent | ⟨matched, others, found, inside, _⟩
  · omega
  · rw [found]
    refine (returns_substringWithRange_iff.mpr inside).bind fun matchedString read => ?_
    have short : matchedString.length ≤ number.length := by
      rw [substringWithRange_of_inside inside] at read
      cases read
      rw [length_slice_of_inside inside]
      unfold NSRange.Inside at inside
      omega
    refine (returns_substringFromIndex_iff.mpr short).bind fun remainString _ => ?_
    cases digits : u.regex.allMatches CAPTURING_DIGIT_PATTERN remainString with
    | nil => exact returns_pure _
    | cons matchedGroup groups =>
      have groupInside := NSRegularExpressions.inside_of_mem_allMatches (digits ▸ List.mem_cons_self)
      refine (returns_substringWithRange_iff.mpr (groupInside 0 _ rfl)).bind fun digitMatched _ => ?_
      exact Returns.ite (fun _ => returns_pure _) (fun _ => returns_pure _)

theorem maybeStripInternationalPrefixAndNormalize_returns (u : NBPhoneNumberUtil) (number idd : NSString) :
    Returns (u.maybeStripInternationalPrefixAndNormalize number idd) := by
  refine Returns.ite (fun _ => returns_pure _) (fun _ => ?_)
  refine Returns.ite (fun _ => returns_pure _) (fun _ => ?_)
  exact (u.parsePrefixAsIdd_returns idd (u.normalize number)).bind fun _ _ => returns_pure _

theorem lastGroup_returns {number : NSString} {firstMatch : NSTextCheckingResult} (inside : firstMatch.Inside number) :
    Returns (lastGroup number firstMatch) := by
  unfold lastGroup
  cases found : firstMatch.rangeAtIndex (firstMatch.numberOfRanges - 1) with
  | none => exact returns_ok _
  | some range =>
    refine Returns.ite (fun _ => ?_) (fun _ => returns_ok _)
    exact (returns_substringWithRange_iff.mpr (inside _ range found)).map _

theorem transformedNumber_returns {number firstMatchString : NSString} (metadata : NBPhoneMetaData)
    (pattern : NSString) (group : Option NSString) (short : firstMatchString.length ≤ number.length) :
    Returns (u.transformedNumber number metadata pattern firstMatchString group) := by
  unfold transformedNumber
  cases metadata.nationalPrefixTransformRule with
  | none => exact (returns_substringFromIndex_iff.mpr short).map _
  | some rule =>
    refine Returns.ite (fun _ => ?_) (fun _ => returns_ok _)
    exact (returns_substringFromIndex_iff.mpr short).map _

theorem appendCarrierCode_returns (carrierCode : Option NSString) (text : NSString) :
    Returns (appendCarrierCode carrierCode (some text)) := by
  cases carrierCode with
  | none => exact returns_ok _
  | some code => exact returns_ok _

/-- Without a group that has a value the number is not transformed. -/
theorem group_of_transformed {number pattern firstMatchString transformed : NSString} {metadata : NBPhoneMetaData}
    {group : Option NSString}
    (result : u.transformedNumber number metadata pattern firstMatchString group = .ok (false, transformed)) :
    hasValue group = true := by
  unfold transformedNumber at result
  cases rule : metadata.nationalPrefixTransformRule with
  | none =>
    simp only [rule] at result
    cases taken : substringFromIndex number firstMatchString.length with
    | error exception => simp [taken, Except.map] at result
    | ok rest => simp [taken, Except.map] at result
  | some rule' =>
    simp only [rule] at result
    split at result
    · cases taken : substringFromIndex number firstMatchString.length with
      | error exception => simp [taken, Except.map] at result
      | ok rest => simp [taken, Except.map] at result
    · rename_i transforms
      simp only [Bool.or_eq_true, not_or, Bool.not_eq_true', Bool.not_eq_false] at transforms
      simpa using transforms.2

theorem maybeStripNationalPrefixAndCarrierCode_returns (u : NBPhoneNumberUtil) (number : NSString)
    (metadata : NBPhoneMetaData) (carrierCode : Option NSString) :
    Returns (u.maybeStripNationalPrefixAndCarrierCode number metadata carrierCode) := by
  refine Returns.ite (fun _ => returns_pure _) (fun _ => ?_)
  cases found : u.regex.allMatches (nationalPrefixPattern (metadata.nationalPrefixForParsing.getD [])) number with
  | nil => exact returns_pure _
  | cons firstMatch others =>
    have inside := NSRegularExpressions.inside_of_mem_allMatches (found ▸ List.mem_cons_self)
    have whole := inside 0 _ rfl
    refine (returns_substringWithRange_iff.mpr whole).bind fun firstMatchString read => ?_
    have short : firstMatchString.length ≤ number.length := by
      rw [substringWithRange_of_inside whole] at read
      cases read
      rw [length_slice_of_inside whole]
      unfold NSRange.Inside at whole
      omega
    refine (lastGroup_returns inside).bind fun group _ => ?_
    refine (transformedNumber_returns metadata _ group short).bind ?_
    rintro ⟨noTransform, transformed⟩ result
    refine Returns.ite (fun _ => returns_pure _) (fun _ => ?_)
    refine Returns.ite (fun captured => ?_) (fun _ => ?_)
    · -- either way the group has a value, so that it is not nil
      have value : hasValue group = true := by
        rcases Bool.or_eq_true_iff.mp captured with plain | rule
        · exact (Bool.and_eq_true_iff.mp plain).2
        · cases noTransform with
          | false => exact group_of_transformed result
          | true => cases (Bool.and_eq_true_iff.mp rule).1
      cases group with
      | none => cases value
      | some text => exact (appendCarrierCode_returns _ _).bind fun _ _ => returns_pure _
    · refine Returns.ite (fun _ => ?_) (fun _ => returns_pure _)
      exact (appendCarrierCode_returns _ _).bind fun _ _ => returns_pure _

end Prefixes

section CountryCode

theorem callingCodeOfLength_returns (u : NBPhoneNumberUtil) (fullNumber : NSString) (lengths : List Nat) :
    Returns (u.callingCodeOfLength fullNumber lengths) := by
  induction lengths with
  | nil => exact returns_ok _
  | cons i lengths ih =>
    refine Returns.ite (fun short => ?_) (fun _ => returns_ok _)
    have head : NSRange.Inside fullNumber ⟨0, i⟩ := by
      rw [NSRange.Inside, Nat.zero_add]
      exact short
    refine (returns_substringWithRange_iff.mpr head).bind fun digits _ => ?_
    refine Returns.ite (fun _ => ?_) (fun _ => ih)
    exact (returns_substringFromIndex_iff.mpr short).bind fun _ _ => returns_pure _

theorem extractCountryCode_returns (u : NBPhoneNumberUtil) (fullNumber nationalNumber : NSString) :
    Returns (u.extractCountryCode fullNumber nationalNumber) := by
  refine Returns.ite (fun _ => returns_pure _) (fun nonempty => ?_)
  have first : 1 ≤ (u.normalizeNonBreakingSpace fullNumber).length := by
    have present := List.isEmpty_eq_false_iff.mp (Bool.eq_false_iff.mpr nonempty)
    exact List.length_pos_iff.mpr present
  refine (returns_substringToIndex_iff.mpr first).bind fun start _ => ?_
  refine Returns.ite (fun _ => returns_pure _) (fun _ => ?_)
  refine (u.callingCodeOfLength_returns _ _).bind fun found _ => ?_
  cases found <;> exact returns_pure _

theorem extractInternational_returns (u : NBPhoneNumberUtil) (fullNumber nationalNumber : NSString)
    (phoneNumber : NBPhoneNumber) : Returns (u.extractInternational fullNumber nationalNumber phoneNumber) := by
  refine Returns.ite (fun _ => returns_pure _) (fun _ => ?_)
  refine (u.extractCountryCode_returns _ _).bind fun _ _ => ?_
  exact Returns.ite (fun _ => returns_pure _) (fun _ => returns_pure _)

theorem formatted_plain (n : Option Int) : (formatted n).all isPlain = true := by
  cases n with
  | none => decide
  | some n =>
    have digits := all_isPlain_of_digits (decimalDigits_all n.natAbs)
    unfold formatted stringValue
    rw [Option.map_some, Option.getD_some]
    split
    · rw [List.all_cons, digits]
      decide
    · exact digits

/-- A prefix of plain units is no longer than the string. -/
theorem length_le_of_hasPrefix {s start : NSString} (plain : s.all isPlain) (plainStart : start.all isPlain)
    (starts : u.unicode.hasPrefix s start = true) : start.length ≤ s.length := by
  rw [u.unicode.hasPrefix_plain s start plain plainStart, List.isPrefixOf_iff_prefix] at starts
  exact starts.length_le

theorem matchesEntirely_returns {metadata : NBPhoneMetaData} (complete : metadata.Complete) (s : NSString) :
    Returns (u.matchesEntirely metadata.generalDesc.nationalNumberPattern s) := by
  obtain ⟨pattern, found⟩ := Option.isSome_iff_exists.mp complete.1
  rw [found]
  exact returns_ok _

theorem testNumberLength_returns {metadata : NBPhoneMetaData} (complete : metadata.Complete) (number : NSString) :
    Returns (testNumberLength number metadata.generalDesc) := by
  refine Returns.ite (fun _ => returns_ok _) (fun _ => ?_)
  cases lengths : metadata.generalDesc.possibleLength with
  | none => exact returns_ok _
  | some lengths' =>
    cases lengths' with
    | nil => exact absurd lengths complete.2
    | cons minimumLength longer =>
      refine Returns.ite (fun _ => returns_ok _) (fun _ => ?_)
      refine Returns.ite (fun _ => returns_ok _) (fun _ => ?_)
      refine Returns.ite (fun _ => returns_ok _) (fun _ => ?_)
      exact Returns.ite (fun _ => returns_ok _) (fun _ => returns_ok _)

theorem withoutDefaultCountryCode_returns {fullNumber : NSString} {metadata : NBPhoneMetaData}
    (complete : metadata.Complete) (digits : fullNumber.all isAsciiDigit) :
    Returns (u.withoutDefaultCountryCode fullNumber metadata) := by
  refine Returns.ite (fun starts => ?_) (fun _ => returns_pure _)
  have short := length_le_of_hasPrefix (all_isPlain_of_digits digits) (formatted_plain _) starts
  refine (returns_substringFromIndex_iff.mpr short).bind fun _ _ => ?_
  refine (u.maybeStripNationalPrefixAndCarrierCode_returns _ _ _).bind fun stripped _ => ?_
  refine (matchesEntirely_returns complete _).bind fun _ _ => ?_
  refine (matchesEntirely_returns complete _).bind fun _ _ => ?_
  refine Returns.ite (fun _ => returns_pure _) (fun _ => ?_)
  refine (testNumberLength_returns complete _).bind fun _ _ => ?_
  exact Returns.ite (fun _ => returns_pure _) (fun _ => returns_pure _)

/-- A number without an international prefix is normalized. -/
theorem maybeStripInternationalPrefixAndNormalize_digits {number idd fullNumber : NSString}
    (result : u.maybeStripInternationalPrefixAndNormalize number idd = .ok (.FROM_DEFAULT_COUNTRY, fullNumber)) :
    fullNumber.all isAsciiDigit = true := by
  unfold maybeStripInternationalPrefixAndNormalize at result
  split at result
  · rename_i nothing
    cases result
    rw [List.isEmpty_iff.mp nothing]
    rfl
  · split at result
    · cases result
    · obtain ⟨⟨stripped, rest⟩, parsed, answer⟩ := bind_eq_ok_iff.mp result
      cases stripped with
      | true => cases answer
      | false =>
        cases answer
        have kept : fullNumber = u.normalize number := by
          unfold parsePrefixAsIdd at parsed
          split at parsed
          · split at parsed
            · cases parsed
            · obtain ⟨_, _, parsed⟩ := bind_eq_ok_iff.mp parsed
              obtain ⟨_, _, parsed⟩ := bind_eq_ok_iff.mp parsed
              split at parsed
              · cases parsed
              · obtain ⟨_, _, parsed⟩ := bind_eq_ok_iff.mp parsed
                split at parsed
                · cases parsed
                  rfl
                · cases parsed
          · cases parsed
            rfl
        rw [kept]
        exact u.normalize_digits number

theorem maybeExtractCountryCode_returns {metadata : Option NBPhoneMetaData}
    (complete : ∀ m, metadata = some m → m.Complete) (number nationalNumber : NSString) (keepRawInput : Bool)
    (phoneNumber : NBPhoneNumber) :
    Returns (u.maybeExtractCountryCode number metadata nationalNumber keepRawInput phoneNumber) := by
  refine Returns.ite (fun _ => returns_pure _) (fun _ => ?_)
  refine (u.maybeStripInternationalPrefixAndNormalize_returns _ _).bind ?_
  rintro ⟨source, fullNumber⟩ result
  refine Returns.ite (fun _ => u.extractInternational_returns _ _ _) (fun default => ?_)
  cases metadata with
  | none => exact returns_pure _
  | some m =>
    rw [not_not.mp default] at result
    refine (withoutDefaultCountryCode_returns (complete m rfl)
      (maybeStripInternationalPrefixAndNormalize_digits result)).bind fun found _ => ?_
    cases found <;> exact returns_pure _

theorem extractForParsing_returns {metadata : Option NBPhoneMetaData}
    (complete : ∀ m, metadata = some m → m.Complete) (number : NSString) (keepRawInput : Bool)
    (phoneNumber : NBPhoneNumber) : Returns (u.extractForParsing number metadata keepRawInput phoneNumber) := by
  refine (maybeExtractCountryCode_returns complete _ _ _ _).bind fun extraction _ => ?_
  cases extraction.error with
  | none => exact returns_pure _
  | some anError =>
    refine Returns.ite (fun _ => ?_) (fun _ => returns_pure _)
    refine (maybeExtractCountryCode_returns complete _ _ _ _).bind fun again _ => ?_
    exact Returns.ite (fun _ => returns_pure _) (fun _ => returns_pure _)

end CountryCode

theorem stripForParsing_returns (u : NBPhoneNumberUtil) (number : NSString) (metadata : Option NBPhoneMetaData)
    (keepRawInput : Bool) (phoneNumber : NBPhoneNumber) :
    Returns (u.stripForParsing number metadata keepRawInput phoneNumber) := by
  cases metadata with
  | none => exact returns_pure _
  | some metadata =>
    refine (u.maybeStripNationalPrefixAndCarrierCode_returns _ _ _).bind fun stripped _ => ?_
    exact Returns.ite (fun _ => returns_pure _) (fun _ => returns_pure _)

theorem parseViable_returns (complete : u.helper.Complete) (candidate : NSString) (defaultRegion : Option NSString)
    (keepRawInput : Bool) (phoneNumber : NBPhoneNumber) :
    Returns (u.parseViable candidate defaultRegion keepRawInput phoneNumber) := by
  refine (u.maybeStripExtension_returns candidate).bind fun split _ => ?_
  refine (extractForParsing_returns
    (fun m found => complete_of_getMetadataForRegion complete found) _ _ _).bind fun extraction _ => ?_
  cases extraction with
  | error error => exact returns_pure _
  | ok extraction =>
    refine Returns.ite (fun _ => returns_pure _) (fun _ => ?_)
    refine (u.stripForParsing_returns _ _ _ _).bind fun _ _ => ?_
    refine Returns.ite (fun _ => returns_pure _) (fun _ => ?_)
    exact Returns.ite (fun _ => returns_pure _) (fun _ => returns_pure _)

end NBPhoneNumberUtil

end SignalPods.PhoneNumber
