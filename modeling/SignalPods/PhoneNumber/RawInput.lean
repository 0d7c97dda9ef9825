import SignalPods.PhoneNumber.Parsing
import SignalPods.Foundation.Returns

namespace SignalPods.PhoneNumber

open Foundation

/-- Without the fields that only a parse that keeps the raw input fills. -/
def NBPhoneNumber.withoutRaw (number : NBPhoneNumber) : NBPhoneNumber :=
  { number with rawInput := none, countryCodeSource := none, preferredDomesticCarrierCode := none }

namespace NBPhoneNumberUtil

def Extraction.withoutRaw (extraction : Extraction) : Extraction :=
  { extraction with phoneNumber := extraction.phoneNumber.withoutRaw }

variable {u : NBPhoneNumberUtil}

theorem extractInternational_withoutRaw (fullNumber nationalNumber : NSString) (phoneNumber : NBPhoneNumber) :
    u.extractInternational fullNumber nationalNumber phoneNumber.withoutRaw =
      (u.extractInternational fullNumber nationalNumber phoneNumber).map Extraction.withoutRaw := by
  unfold extractInternational
  by_cases short : fullNumber.length ≤ MIN_LENGTH_FOR_NSN
  · rw [if_pos short, if_pos short]
    rfl
  rw [if_neg short, if_neg short]
  cases u.extractCountryCode fullNumber nationalNumber with
  | error exception => rfl
  | ok extracted =>
    obtain ⟨code, rest⟩ := extracted
    by_cases found : code ≠ 0
    · simp only [bind, Except.bind, if_pos found]
      rfl
    · simp only [bind, Except.bind, if_neg found]
      rfl

theorem maybeExtractCountryCode_withoutRaw (number : NSString) (metadata : Option NBPhoneMetaData)
    (nationalNumber : NSString) (phoneNumber : NBPhoneNumber) :
    u.maybeExtractCountryCode number metadata nationalNumber false phoneNumber.withoutRaw =
      (u.maybeExtractCountryCode number metadata nationalNumber true phoneNumber).map Extraction.withoutRaw := by
  unfold maybeExtractCountryCode
  by_cases empty : number.isEmpty
  · rw [if_pos empty, if_pos empty]
    rfl
  rw [if_neg empty, if_neg empty]
  cases u.maybeStripInternationalPrefixAndNormalize number (possibleCountryIddPrefix metadata) with
  | error exception => rfl
  | ok normalized =>
    obtain ⟨countryCodeSource, fullNumber⟩ := normalized
    simp only [bind, Except.bind]
    by_cases international : countryCodeSource ≠ .FROM_DEFAULT_COUNTRY
    · rw [if_pos international, if_pos international]
      exact extractInternational_withoutRaw fullNumber nationalNumber
        { phoneNumber with countryCodeSource := some countryCodeSource }
    rw [if_neg international, if_neg international]
    cases metadata with
    | none => rfl
    | some metadata =>
      dsimp only
      cases u.withoutDefaultCountryCode fullNumber metadata with
      | error exception => rfl
      | ok potential =>
        cases potential with
        | none => rfl
        | some potentialNationalNumber => rfl

theorem extractForParsing_withoutRaw (number : NSString) (metadata : Option NBPhoneMetaData)
    (phoneNumber : NBPhoneNumber) :
    u.extractForParsing number metadata false phoneNumber.withoutRaw =
      (u.extractForParsing number metadata true phoneNumber).map (Except.map Extraction.withoutRaw) := by
  unfold extractForParsing
  rw [maybeExtractCountryCode_withoutRaw]
  cases u.maybeExtractCountryCode number metadata [] true phoneNumber with
  | error exception => rfl
  | ok extraction =>
    simp only [bind, Except.bind, Except.map]
    have error : extraction.withoutRaw.error = extraction.error := rfl
    rw [error]
    cases extraction.error with
    | none => rfl
    | some anError =>
      dsimp only
      split
      · have again := maybeExtractCountryCode_withoutRaw (u := u)
          (u.replaceStringByRegex number LEADING_PLUS_CHARS_PATTERN []) metadata extraction.nationalNumber
          extraction.phoneNumber
        change u.maybeExtractCountryCode _ _ extraction.withoutRaw.nationalNumber _ extraction.withoutRaw.phoneNumber =
          _ at again
        rw [again]
        cases u.maybeExtractCountryCode (u.replaceStringByRegex number LEADING_PLUS_CHARS_PATTERN []) metadata
          extraction.nationalNumber true extraction.phoneNumber with
        | error exception => rfl
        | ok extraction =>
          have code : extraction.withoutRaw.countryCode = extraction.countryCode := rfl
          dsimp only [Except.map]
          rw [code]
          split <;> rfl
      · rfl

theorem resolveRegion_withoutRaw (nationalNumber : NSString) (defaultRegion : Option NSString)
    (metadata : Option NBPhoneMetaData) (extraction : Extraction) :
    u.resolveRegion nationalNumber defaultRegion metadata false extraction.withoutRaw =
      let resolved := u.resolveRegion nationalNumber defaultRegion metadata true extraction
      (resolved.1, resolved.2.1, resolved.2.2.withoutRaw) := by
  have code : extraction.withoutRaw.countryCode = extraction.countryCode := rfl
  unfold resolveRegion
  rw [code]
  by_cases found : (!isEqualToNumber extraction.countryCode (some 0)) = true
  · rw [if_pos found, if_pos found]
    rfl
  · rw [if_neg found, if_neg found]
    cases defaultRegion <;> rfl

theorem stripForParsing_withoutRaw (number : NSString) (metadata : Option NBPhoneMetaData) (phoneNumber : NBPhoneNumber) :
    u.stripForParsing number metadata false phoneNumber.withoutRaw =
      (u.stripForParsing number metadata true phoneNumber).map fun stripped => (stripped.1, stripped.2.withoutRaw) := by
  unfold stripForParsing
  cases metadata with
  | none => rfl
  | some metadata =>
    dsimp only
    cases u.maybeStripNationalPrefixAndCarrierCode number metadata (some []) with
    | error exception => rfl
    | ok stripped =>
      simp only [bind, Except.bind]
      split <;> rfl

theorem setItalianLeadingZerosForPhoneNumber_withoutRaw (number : NSString) (phoneNumber : NBPhoneNumber) :
    u.setItalianLeadingZerosForPhoneNumber number phoneNumber.withoutRaw =
      (u.setItalianLeadingZerosForPhoneNumber number phoneNumber).withoutRaw := by
  unfold setItalianLeadingZerosForPhoneNumber
  split <;> rfl

theorem parseViable_withoutRaw (candidate : NSString) (defaultRegion : Option NSString) (phoneNumber : NBPhoneNumber) :
    u.parseViable candidate defaultRegion false phoneNumber.withoutRaw =
      (u.parseViable candidate defaultRegion true phoneNumber).map (Except.map NBPhoneNumber.withoutRaw) := by
  unfold parseViable
  cases u.maybeStripExtension candidate with
  | error exception => rfl
  | ok stripped =>
    obtain ⟨number, nationalNumber⟩ := stripped
    simp only [bind, Except.bind]
    have extended : withExtension number phoneNumber.withoutRaw = (withExtension number phoneNumber).withoutRaw := by
      unfold withExtension
      split <;> rfl
    rw [extended, extractForParsing_withoutRaw]
    cases u.extractForParsing nationalNumber (u.getMetadataForRegion defaultRegion) true
      (withExtension number phoneNumber) with
    | error exception => rfl
    | ok result =>
      cases result with
      | error anError => rfl
      | ok extraction =>
        dsimp only [Except.map]
        rw [resolveRegion_withoutRaw]
        obtain ⟨digits, metadata, resolved⟩ :=
          u.resolveRegion nationalNumber defaultRegion (u.getMetadataForRegion defaultRegion) true extraction
        dsimp only
        by_cases short : digits.length < MIN_LENGTH_FOR_NSN
        · rw [if_pos short, if_pos short]
          rfl
        rw [if_neg short, if_neg short, stripForParsing_withoutRaw]
        cases u.stripForParsing digits metadata true resolved with
        | error exception => rfl
        | ok kept =>
          obtain ⟨rest, last⟩ := kept
          dsimp only [Except.map]
          by_cases short : rest.length < MIN_LENGTH_FOR_NSN
          · rw [if_pos short, if_pos short]
            rfl
          rw [if_neg short, if_neg short]
          by_cases long : rest.length > MAX_LENGTH_FOR_NSN
          · rw [if_pos long, if_pos long]
            rfl
          rw [if_neg long, if_neg long, setItalianLeadingZerosForPhoneNumber_withoutRaw]
          rfl

/-- Keeping the raw input only adds to the number. -/
theorem parseHelper_withoutRaw (numberToParse defaultRegion : Option NSString) (checkRegion : Bool) :
    u.parseHelper numberToParse defaultRegion false checkRegion =
      (u.parseHelper numberToParse defaultRegion true checkRegion).map (Except.map NBPhoneNumber.withoutRaw) := by
  unfold parseHelper
  cases numberToParse.map u.normalizeNonBreakingSpace with
  | none => rfl
  | some s =>
    dsimp only
    by_cases long : s.length > MAX_INPUT_STRING_LENGTH
    · rw [if_pos long, if_pos long]
      rfl
    rw [if_neg long, if_neg long]
    cases u.buildNationalNumberForParsing s with
    | error exception => rfl
    | ok candidate =>
      simp only [bind, Except.bind]
      by_cases viable : (!u.isViablePhoneNumber candidate) = true
      · rw [if_pos viable, if_pos viable]
        rfl
      rw [if_neg viable, if_neg viable]
      by_cases missing : (checkRegion && !u.checkRegionForParsing candidate defaultRegion) = true
      · rw [if_pos missing, if_pos missing]
        rfl
      rw [if_neg missing, if_neg missing]
      exact parseViable_withoutRaw candidate defaultRegion { rawInput := some s }

end NBPhoneNumberUtil

end SignalPods.PhoneNumber
