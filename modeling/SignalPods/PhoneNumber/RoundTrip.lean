import SignalPods.PhoneNumber.ParserExpressions

namespace SignalPods.PhoneNumber

open Foundation

namespace NBPhoneNumberUtil

variable {u : NBPhoneNumberUtil}

section Parsed

theorem capturedExtension_slice {number matchString : NSString} {groups : List (Option NSRange)}
    (captured : capturedExtension number groups = .ok (some matchString)) :
    ∃ range, some range ∈ groups ∧ matchString = slice number range := by
  induction groups with
  | nil => cases captured
  | cons group groups ih =>
    have later : capturedExtension number groups = .ok (some matchString) →
        ∃ range, some range ∈ group :: groups ∧ matchString = slice number range := by
      intro after
      obtain ⟨range, member, text⟩ := ih after
      exact ⟨range, List.mem_cons_of_mem _ member, text⟩
    cases group with
    | none => exact later captured
    | some range =>
      unfold capturedExtension at captured
      split at captured
      · refine ⟨range, List.mem_cons_self, ?_⟩
        unfold substringWithRange at captured
        split at captured
        · exact (Option.some.inj (Except.ok.inj captured)).symm
        · cases captured
      · exact later captured

/-- What is taken off as an extension is none or one that is taken off again. -/
theorem maybeStripExtension_extension (law : u.EncodedExpressions) {candidate extension number : NSString}
    (stripped : u.maybeStripExtension candidate = .ok (extension, number)) :
    extension = [] ∨ isExtension extension := by
  unfold maybeStripExtension at stripped
  dsimp only at stripped
  split at stripped
  · obtain ⟨tokenedString, _, stripped⟩ := bind_eq_ok_iff.mp stripped
    split at stripped
    · split at stripped
      · rename_i firstMatch others found
        obtain ⟨captured, taken, stripped⟩ := bind_eq_ok_iff.mp stripped
        cases captured with
        | none => exact Or.inl (Prod.mk.inj (Except.ok.inj stripped)).1.symm
        | some matchString =>
          obtain ⟨rfl, _⟩ := Prod.mk.inj (Except.ok.inj stripped)
          obtain ⟨range, member, rfl⟩ := capturedExtension_slice taken
          exact Or.inr (law.captured candidate firstMatch (found ▸ List.mem_cons_self) range member)
      · exact Or.inl (Prod.mk.inj (Except.ok.inj stripped)).1.symm
    · exact Or.inl (Prod.mk.inj (Except.ok.inj stripped)).1.symm
  · exact Or.inl (Prod.mk.inj (Except.ok.inj stripped)).1.symm

/-- A parsed number is the number of some digits, with an extension that is parsed again. -/
theorem parse_numberOf (law : u.EncodedExpressions) (writes : u.TransformsToDigits)
    {numberToParse defaultRegion : Option NSString} {phoneNumber : NBPhoneNumber} {error : Option NSError}
    (parsed : u.parse numberToParse defaultRegion = .ok ⟨some phoneNumber, error⟩) :
    ∃ code digits extension, phoneNumber = u.numberOf code digits extension ∧ digits.all isAsciiDigit ∧
      MIN_LENGTH_FOR_NSN ≤ digits.length ∧ digits.length ≤ MAX_LENGTH_FOR_NSN ∧
      ∀ text ∈ extension, isExtension text := by
  unfold parse at parsed
  obtain ⟨result, helped, parsed⟩ := bind_eq_ok_iff.mp parsed
  cases result with
  | error anError => cases parsed
  | ok number =>
    obtain ⟨same, _⟩ := Parsed.mk.inj (Except.ok.inj parsed)
    obtain rfl := Option.some.inj same
    unfold parseHelper at helped
    cases given : numberToParse.map u.normalizeNonBreakingSpace with
    | none =>
      rw [given] at helped
      cases helped
    | some s =>
      rw [given] at helped
      dsimp only at helped
      split at helped
      · cases helped
      obtain ⟨candidate, _, helped⟩ := bind_eq_ok_iff.mp helped
      split at helped
      · cases helped
      split at helped
      · cases helped
      obtain ⟨extension, rest, code, digits, stripped, areDigits, long, short, rfl⟩ := parseViable_numberOf writes helped
      refine ⟨code, digits, _, rfl, areDigits, long, short, ?_⟩
      intro text found
      split at found
      · rename_i positive
        obtain rfl := Option.some.inj found
        refine (maybeStripExtension_extension law stripped).resolve_left ?_
        rintro rfl
        cases positive
      · cases found

theorem isEqual_numberOf (code : Int) (digits : NSString) (extension : Option NSString) :
    (u.numberOf (some code) digits extension).isEqual (u.numberOf (some code) digits extension) := by
  have counted : ∃ zeros, (u.numberOf (some code) digits extension).numberOfLeadingZeros = some zeros := by
    unfold numberOf setItalianLeadingZerosForPhoneNumber
    split
    · dsimp only
      split
      · exact ⟨_, rfl⟩
      · exact ⟨1, rfl⟩
    · exact ⟨1, rfl⟩
  obtain ⟨zeros, counted⟩ := counted
  have coded : (u.numberOf (some code) digits extension).countryCode = some code := by
    unfold numberOf setItalianLeadingZerosForPhoneNumber
    split <;> rfl
  have number : (u.numberOf (some code) digits extension).nationalNumber = some (longLongValue digits) := rfl
  unfold NBPhoneNumber.isEqual
  rw [counted, coded, number]
  simp [isEqualToNumber]

theorem numberOf_withoutExtension (code : Option Int) (digits : NSString) (extension : Option NSString) :
    { u.numberOf code digits extension with extension := none } = u.numberOf code digits none := by
  unfold numberOf setItalianLeadingZerosForPhoneNumber
  split <;> rfl

theorem numberOf_fields (code : Option Int) (digits : NSString) (extension : Option NSString) :
    (u.numberOf code digits extension).countryCode = code ∧ (u.numberOf code digits extension).extension = extension ∧
      (u.numberOf code digits extension).rawInput = none := by
  unfold numberOf setItalianLeadingZerosForPhoneNumber
  split <;> exact ⟨rfl, rfl, rfl⟩

end Parsed

section Validity

/-- A number is valid for a region of its calling code. -/
def ValidForRegion (u : NBPhoneNumberUtil) (number : NBPhoneNumber) : Prop :=
  ∃ regionCodes, u.regionCodeFromCountryCode number.countryCode = some regionCodes ∧
    ∃ regionCode ∈ regionCodes, u.isValidNumberForRegion number (some regionCode) = .ok true

/-- Every number valid for a region of its calling code matches the general pattern
of the main region, and without its national prefix it does not. -/
def MainRegionsDecide (u : NBPhoneNumberUtil) : Prop :=
  ∀ number, u.ValidForRegion number → ∀ code, number.countryCode = some code → ∀ main, u.MainMetadata code main →
    ∃ rule, u.KeepsNumber main (getNationalSignificantNumber number) rule

theorem getRegionCodeForNumberFromRegionList_mem {nationalNumber regionCode : NSString} {regionCodes : List NSString}
    (found : u.getRegionCodeForNumberFromRegionList nationalNumber regionCodes = .ok (some regionCode)) :
    regionCode ∈ regionCodes := by
  induction regionCodes with
  | nil => cases found
  | cons first regionCodes ih =>
    have here (same : (pure (some first) : Objc (Option NSString)) = .ok (some regionCode)) :
        regionCode ∈ first :: regionCodes := by
      obtain rfl := Option.some.inj (Except.ok.inj same)
      exact List.mem_cons_self
    have later (after : u.getRegionCodeForNumberFromRegionList nationalNumber regionCodes = .ok (some regionCode)) :
        regionCode ∈ first :: regionCodes := List.mem_cons_of_mem _ (ih after)
    unfold getRegionCodeForNumberFromRegionList at found
    dsimp only at found
    split at found
    · split at found
      · split at found
        · exact here found
        · exact later found
      · obtain ⟨type, _, found⟩ := bind_eq_ok_iff.mp found
        split at found
        · exact here found
        · exact later found
    · obtain ⟨type, _, found⟩ := bind_eq_ok_iff.mp found
      split at found
      · exact here found
      · exact later found

theorem getRegionCodeForNumber_mem {number : NBPhoneNumber} {regionCode : NSString}
    (found : u.getRegionCodeForNumber number = .ok (some regionCode)) :
    ∃ regionCodes, u.regionCodeFromCountryCode number.countryCode = some regionCodes ∧ regionCode ∈ regionCodes := by
  unfold getRegionCodeForNumber at found
  split at found
  · cases found
  · cases found
  · rename_i only regions
    obtain rfl := Option.some.inj (Except.ok.inj found)
    exact ⟨_, regions, List.mem_cons_self⟩
  · rename_i regionCodes _ _ regions
    exact ⟨_, regions, getRegionCodeForNumberFromRegionList_mem found⟩

/-- A valid number is valid for a region of its calling code. -/
theorem validForRegion_of_isValidNumber {number : NBPhoneNumber} (valid : u.isValidNumber number = .ok true) :
    u.ValidForRegion number := by
  unfold isValidNumber at valid
  obtain ⟨region, found, valid⟩ := bind_eq_ok_iff.mp valid
  cases region with
  | none => cases valid
  | some regionCode =>
    obtain ⟨regionCodes, regions, member⟩ := getRegionCodeForNumber_mem found
    exact ⟨regionCodes, regions, regionCode, member, valid⟩

theorem ValidForRegion.code {number : NBPhoneNumber} (valid : u.ValidForRegion number) :
    ∃ code, number.countryCode = some code ∧ u.hasValidCountryCallingCode (some code) := by
  obtain ⟨regionCodes, regions, _⟩ := valid
  cases coded : number.countryCode with
  | none =>
    rw [coded] at regions
    cases regions
  | some code =>
    rw [coded] at regions
    refine ⟨code, rfl, ?_⟩
    unfold hasValidCountryCallingCode
    rw [regions]
    rfl

end Validity

section Formatted

/-- The template of a format uses each group of the pattern once and in order, the
groups tile the number, and the rest of the template is punctuation. -/
def FitsTemplate (u : NBPhoneNumberUtil) (number : NSString) (formattingPattern : NBNumberFormat) : Prop :=
  ∃ result, u.regex.allMatches (formattingPattern.pattern.getD []) number = [result] ∧
    result.range = ⟨0, number.length⟩ ∧ Tiles 0 number.length result.groups ∧
    templateGroups isPunctuation (formattingPattern.format.getD []) = some (List.range' 1 result.groups.length)

/-- A text is digits with hyphens between them. -/
structure Hyphenates (text digits : NSString) : Prop where
  units : ∀ c ∈ text, isHyphenated c
  spelled : text.filter isAsciiDigit = digits
  short : text.length ≤ 2 * digits.length + 1

variable {digits : NSString}

theorem hyphenates_digits (areDigits : digits.all isAsciiDigit) : Hyphenates digits digits := by
  rw [List.all_eq_true] at areDigits
  refine ⟨?_, List.filter_eq_self.mpr areDigits, by omega⟩
  intro c member
  unfold isHyphenated
  rw [areDigits c member]
  rfl

/-- A text with punctuation between digits has hyphens there when it is collapsed. -/
theorem hyphenates_collapse {text : NSString} (areDigits : digits.all isAsciiDigit)
    (kept : text.filter (fun c => !isPunctuation c) = digits) :
    Hyphenates (collapse isPunctuation [45] false text) digits := by
  rw [List.all_eq_true] at areDigits
  have same : (collapse isPunctuation [45] false text).filter (fun c => !isPunctuation c) = digits :=
    (filter_collapse (by decide) false text).trans kept
  have units : ∀ c ∈ collapse isPunctuation [45] false text, isHyphenated c := by
    intro c member
    rcases mem_collapse member with hyphen | ⟨inside, outside⟩
    · obtain rfl := List.mem_singleton.mp hyphen
      decide
    · have listed : c ∈ text.filter fun c => !isPunctuation c :=
        List.mem_filter.mpr ⟨inside, by rw [outside]; rfl⟩
      rw [kept] at listed
      unfold isHyphenated
      rw [areDigits c listed]
      rfl
  refine ⟨units, ?_, ?_⟩
  · rw [← same]
    refine List.filter_congr fun c member => ?_
    rcases isHyphenated_cases (units c member) with isDigit | rfl
    · rw [isDigit, isPunctuation_of_digit isDigit]
      rfl
    · decide
  · have bound : (collapse isPunctuation [45] false text).length ≤
        2 * (text.filter fun c => !isPunctuation c).length + 1 := length_collapse_le false text
    rw [kept] at bound
    exact bound

theorem filter_dropWhile_isPunctuation (text : NSString) :
    (text.dropWhile isPunctuation).filter (fun c => !isPunctuation c) = text.filter fun c => !isPunctuation c := by
  have none : (text.takeWhile isPunctuation).filter (fun c => !isPunctuation c) = [] := by
    refine List.filter_eq_nil_iff.mpr fun c member => ?_
    rw [List.mem_takeWhile_imp member]
    decide
  conv_rhs => rw [← List.takeWhile_append_dropWhile (p := isPunctuation) (l := text)]
  rw [List.filter_append, none, List.nil_append]

/-- A template that fits spells the number with hyphens. -/
theorem formatNsnUsingPattern_hyphenates (law : u.EncodedExpressions) (areDigits : digits.all isAsciiDigit)
    {formattingPattern : NBNumberFormat} (fits : u.FitsTemplate digits formattingPattern) (carrierCode : Option NSString) :
    Hyphenates (u.formatNsnUsingPattern digits formattingPattern .RFC3966 carrierCode) digits := by
  obtain ⟨result, found, whole, tiles, shape⟩ := fits
  have again : u.regex.matchesInString (formattingPattern.pattern.getD []) digits result.range = [result] := by
    rw [whole]
    exact found
  have template : u.numberFormatRule formattingPattern .RFC3966 carrierCode = formattingPattern.format.getD [] := by
    unfold numberFormatRule
    rw [if_neg, if_neg]
    · rintro ⟨national, _⟩
      cases national
    · rintro ⟨national, _⟩
      cases national
  have filled : u.replaceStringByRegex digits (formattingPattern.pattern.getD []) (formattingPattern.format.getD []) =
      replacementString digits (formattingPattern.format.getD []) result := by
    unfold replaceStringByRegex NSRegularExpressions.stringByReplacingMatches
    rw [found]
    dsimp only
    rw [again]
    simp [replaceMatches, whole]
  have tiled : Tiles result.range.location (result.range.location + result.range.length) result.groups := by
    rw [whole]
    simpa using tiles
  have kept : (replacementString digits (formattingPattern.format.getD []) result).filter (fun c => !isPunctuation c) =
      digits := by
    have same : (replacementString digits (formattingPattern.format.getD []) result).filter (fun c => !isPunctuation c) =
        (slice digits result.range).filter fun c => !isPunctuation c :=
      filter_replacementString (by simp) (by decide) (fun _ => isPunctuation_of_digit) tiled shape
    rw [same, whole, slice_zero, List.take_length]
    rw [List.all_eq_true] at areDigits
    refine List.filter_eq_self.mpr fun c member => ?_
    rw [isPunctuation_of_digit (areDigits c member)]
    rfl
  have hyphen : ∀ group groups, expandTemplate group groups .plain (ns "-") = ns "-" := fun _ _ => rfl
  unfold formatNsnUsingPattern
  rw [template, filled, if_pos rfl, replaceStringByRegex_leadingRun law.leadingSeparator,
    replaceStringByRegex_runs law.separator hyphen]
  exact hyphenates_collapse areDigits ((filter_dropWhile_isPunctuation _).trans kept)

/-- The format chosen for a number, if there is one, fits it. -/
def FitsFormat (u : NBPhoneNumberUtil) (number : NBPhoneNumber) : Prop :=
  ∃ chosen, u.chooseFormattingPatternForNumber (getNationalSignificantNumber number)
      (availableFormats (u.getMetadataForRegionOrCallingCode number.countryCode
        (some (u.getRegionCodeForCountryCode number.countryCode))) .RFC3966) = .ok chosen ∧
    ∀ formattingPattern ∈ chosen, u.FitsTemplate (getNationalSignificantNumber number) formattingPattern

theorem formatNsn_hyphenates (law : u.EncodedExpressions) (areDigits : digits.all isAsciiDigit)
    {metadata : Option NBPhoneMetaData} {chosen : Option NBNumberFormat}
    (choice : u.chooseFormattingPatternForNumber digits (availableFormats metadata .RFC3966) = .ok chosen)
    (fits : ∀ formattingPattern ∈ chosen, u.FitsTemplate digits formattingPattern) :
    ∃ text, u.formatNsn digits metadata .RFC3966 none = .ok text ∧ Hyphenates text digits := by
  unfold formatNsn
  rw [choice]
  cases chosen with
  | none => exact ⟨digits, rfl, hyphenates_digits areDigits⟩
  | some formattingPattern =>
    exact ⟨_, rfl, formatNsnUsingPattern_hyphenates law areDigits (fits formattingPattern rfl) none⟩

variable {code : Int} {text separator : NSString}

/-- A calling code and a number after it are an encoded number. -/
theorem isEncoded_code (codes : u.PrefixFree) (known : u.hasValidCountryCallingCode (some code))
    (written : Hyphenates text digits) (long : MIN_LENGTH_FOR_NSN ≤ digits.length) (hyphens : ∀ c ∈ separator, c = 45) :
    isEncoded (43 :: (stringValue code ++ (separator ++ text))) ∧
      (43 :: (stringValue code ++ (separator ++ text))).filter isAsciiDigit = stringValue code ++ digits := by
  obtain ⟨codeDigits, some_digits, _, _⟩ := stringValue_positive (codes.positive code known)
  rw [List.all_eq_true] at codeDigits
  have none : separator.filter isAsciiDigit = [] := by
    refine List.filter_eq_nil_iff.mpr fun c member => ?_
    rw [hyphens c member]
    decide
  have spelled : (stringValue code ++ (separator ++ text)).filter isAsciiDigit = stringValue code ++ digits := by
    rw [List.filter_append, List.filter_append, none, List.nil_append, written.spelled, List.filter_eq_self.mpr codeDigits]
  refine ⟨isEncoded_iff.mpr ⟨_, rfl, ?_, ?_⟩, ?_⟩
  · intro c member
    rcases List.mem_append.mp member with front | member
    · unfold isHyphenated
      rw [codeDigits c front]
      rfl
    · rcases List.mem_append.mp member with between | back
      · rw [hyphens c between]
        decide
      · exact written.units c back
  · have positive := List.length_pos_of_ne_nil some_digits
    unfold MIN_LENGTH_FOR_NSN at long
    rw [spelled, List.length_append]
    omega
  · rw [List.filter_cons_of_neg (by decide), spelled]

theorem isWhitespace_of_isValidDigit {c : unichar} (isDigit : isValidDigit c = true) : isWhitespace c = false := by
  rw [← Bool.not_eq_true]
  intro white
  simp only [isWhitespace, isValidDigit, isAsciiDigit, Bool.or_eq_true, Bool.and_eq_true, decide_eq_true_eq,
    beq_iff_eq, UInt16.le_iff_toNat_le, ← UInt16.toNat_inj, UInt16.reduceToNat] at white isDigit
  omega

theorem hasValue_extension {extension : NSString} (valid : isExtension extension) : hasValue (some extension) := by
  obtain ⟨units, long, _⟩ := isExtension_iff.mp valid
  unfold hasValue
  dsimp only
  rw [stringByTrimming_of_absent fun c member => isWhitespace_of_isValidDigit (units c member)]
  cases extension with
  | nil => cases long
  | cons c rest => rfl

theorem maybeGetFormattedExtension_RFC3966 {number : NBPhoneNumber} (metadata : Option NBPhoneMetaData)
    (valid : ∀ extension ∈ number.extension, isExtension extension) :
    maybeGetFormattedExtension number metadata .RFC3966 = extensionText number.extension := by
  unfold maybeGetFormattedExtension
  cases given : number.extension with
  | none => rfl
  | some extension =>
    rw [given] at valid
    dsimp only
    rw [hasValue_extension (valid extension rfl)]
    rfl

end Formatted

section RoundTrip

variable {code : Int} {digits : NSString} {extension : Option NSString}

/-- A number that was parsed and is valid, as its digits. -/
structure Stands (u : NBPhoneNumberUtil) (code : Int) (digits : NSString) (extension : Option NSString) : Prop where
  known : u.hasValidCountryCallingCode (some code)
  areDigits : digits.all isAsciiDigit
  long : MIN_LENGTH_FOR_NSN ≤ digits.length
  short : digits.length ≤ MAX_LENGTH_FOR_NSN
  valid : ∀ text ∈ extension, isExtension text
  keeps : ∀ main, u.MainMetadata code main → ∃ rule, u.KeepsNumber main digits rule

theorem stands_of_parse (law : u.EncodedExpressions) (writes : u.TransformsToDigits) (decides : u.MainRegionsDecide)
    {numberToParse defaultRegion : Option NSString} {phoneNumber : NBPhoneNumber}
    (parsed : u.parse numberToParse defaultRegion = .ok ⟨some phoneNumber, none⟩)
    (valid : u.isValidNumber phoneNumber = .ok true) :
    ∃ code digits extension, phoneNumber = u.numberOf (some code) digits extension ∧ u.Stands code digits extension := by
  obtain ⟨found, digits, extension, rfl, areDigits, long, short, extended⟩ := parse_numberOf law writes parsed
  have validRegion := validForRegion_of_isValidNumber valid
  obtain ⟨code, coded, known⟩ := validRegion.code
  obtain rfl : found = some code := (numberOf_fields found digits extension).1.symm.trans coded
  have keeps := decides _ validRegion code coded
  rw [getNationalSignificantNumber_numberOf areDigits long short] at keeps
  exact ⟨code, digits, extension, rfl, known, areDigits, long, short, extended, keeps⟩

theorem format_rawInput (code : Option Int) (digits : NSString) (extension : Option NSString) :
    (isEqualToNumber (u.numberOf code digits extension).nationalNumber (some 0) &&
      hasValue (u.numberOf code digits extension).rawInput) = false := by
  rw [(numberOf_fields code digits extension).2.2, hasValue, Bool.and_false]

theorem format_E164 (stands : u.Stands code digits extension) :
    u.format (u.numberOf (some code) digits extension) .E164 = .ok (43 :: (stringValue code ++ ([] ++ digits))) := by
  unfold format
  rw [format_rawInput, if_neg Bool.false_ne_true, (numberOf_fields (some code) digits extension).1,
    getNationalSignificantNumber_numberOf stands.areDigits stands.long stands.short]
  dsimp only
  rw [if_pos rfl, prefixNumberWithCountryCallingCode, List.append_nil, List.append_assoc]
  rfl

theorem format_RFC3966 (law : u.EncodedExpressions) (stands : u.Stands code digits extension)
    (fits : u.FitsFormat (u.numberOf (some code) digits extension)) :
    ∃ text, Hyphenates text digits ∧ u.format (u.numberOf (some code) digits extension) .RFC3966 =
      .ok (RFC3966_PREFIX ++ (43 :: (stringValue code ++ ([45] ++ text)) ++ extensionText extension)) := by
  obtain ⟨coded, extended, _⟩ := numberOf_fields (u := u) (some code) digits extension
  obtain ⟨chosen, choice, each⟩ := fits
  rw [coded, getNationalSignificantNumber_numberOf stands.areDigits stands.long stands.short] at choice
  rw [getNationalSignificantNumber_numberOf stands.areDigits stands.long stands.short] at each
  obtain ⟨text, formatted, hyphenates⟩ := formatNsn_hyphenates law stands.areDigits choice each
  refine ⟨text, hyphenates, ?_⟩
  have suffix (metadata : Option NBPhoneMetaData) :
      maybeGetFormattedExtension (u.numberOf (some code) digits extension) metadata .RFC3966 = extensionText extension := by
    have same := maybeGetFormattedExtension_RFC3966 metadata (extended.symm ▸ stands.valid)
    rw [extended] at same
    exact same
  unfold format
  rw [format_rawInput, if_neg Bool.false_ne_true, coded,
    getNationalSignificantNumber_numberOf stands.areDigits stands.long stands.short]
  dsimp only
  rw [if_neg (by decide), stands.known, if_neg (by decide), suffix, formatted]
  simp only [bind, Except.bind, pure, Except.pure, prefixNumberWithCountryCallingCode, List.append_assoc,
    List.cons_append]
  rfl

/-- Whatever is written for the number is parsed to it. -/
theorem parse_written (law : u.EncodedExpressions) (codes : u.PrefixFree) (stands : u.Stands code digits extension)
    {before separator text : NSString} (scheme : before = [] ∨ before = RFC3966_PREFIX)
    (hyphens : separator = [] ∨ separator = [45]) (written : Hyphenates text digits) (kept : Option NSString)
    (valid : ∀ digits ∈ kept, isExtension digits) (defaultRegion : Option NSString) :
    u.parse (some (before ++ (43 :: (stringValue code ++ (separator ++ text)) ++ extensionText kept))) defaultRegion =
      .ok ⟨some (u.numberOf (some code) digits kept), none⟩ := by
  have between : ∀ c ∈ separator, c = 45 := by
    rcases hyphens with rfl | rfl
    · exact fun c member => absurd member List.not_mem_nil
    · exact fun c member => List.mem_singleton.mp member
  obtain ⟨encoded, spelled⟩ := isEncoded_code codes stands.known written stands.long between
  have fits : (before ++ (43 :: (stringValue code ++ (separator ++ text)) ++ extensionText kept)).length ≤
      MAX_INPUT_STRING_LENGTH := by
    have schemeShort : before.length ≤ 4 := by
      rcases scheme with rfl | rfl <;> decide
    have separatorShort : separator.length ≤ 1 := by
      rcases hyphens with rfl | rfl <;> decide
    have extensionShort : (extensionText kept).length ≤ 12 := by
      cases kept with
      | none => exact Nat.zero_le _
      | some extension =>
        have few := (isExtension_iff.mp (valid extension rfl)).2.2
        have length : (extensionText (some extension)).length = 5 + extension.length := List.length_append
        omega
    have codeShort := codes.short code stands.known
    have textShort := written.short
    have digitsShort := stands.short
    simp only [List.length_append, List.length_cons]
    unfold MAX_LENGTH_COUNTRY_CODE at codeShort
    unfold MAX_LENGTH_FOR_NSN at digitsShort
    unfold MAX_INPUT_STRING_LENGTH
    omega
  exact parse_kept law codes stands.known ⟨scheme, encoded, valid⟩ fits spelled stands.areDigits stands.long
    stands.short stands.keeps defaultRegion

/-- A valid number that was parsed is formatted to a text that parses to it again,
in any region: without its extension from the first format, with it from the other
if its template fits. -/
theorem format_parses_back (law : u.EncodedExpressions) (codes : u.PrefixFree) (writes : u.TransformsToDigits)
    (decides : u.MainRegionsDecide) {numberToParse region : Option NSString} {phoneNumber : NBPhoneNumber}
    (parsed : u.parse numberToParse region = .ok ⟨some phoneNumber, none⟩)
    (valid : u.isValidNumber phoneNumber = .ok true) (defaultRegion : Option NSString) :
    (∃ text again, u.format phoneNumber .E164 = .ok text ∧ u.parse (some text) defaultRegion = .ok ⟨some again, none⟩ ∧
      again.isEqual { phoneNumber with extension := none }) ∧
    (u.FitsFormat phoneNumber → ∃ text again, u.format phoneNumber .RFC3966 = .ok text ∧
      u.parse (some text) defaultRegion = .ok ⟨some again, none⟩ ∧ again.isEqual phoneNumber) := by
  obtain ⟨code, digits, extension, rfl, stands⟩ := stands_of_parse law writes decides parsed valid
  constructor
  · have back := parse_written law codes stands (Or.inl rfl) (Or.inl rfl) (hyphenates_digits stands.areDigits) none
      (fun _ absent => by cases absent) defaultRegion
    refine ⟨_, u.numberOf (some code) digits none, format_E164 stands, ?_, ?_⟩
    · rw [List.nil_append, extensionText, Option.map_none, Option.getD_none, List.append_nil] at back
      exact back
    · rw [numberOf_withoutExtension]
      exact isEqual_numberOf code digits none
  · intro fits
    obtain ⟨text, hyphenates, formatted⟩ := format_RFC3966 law stands fits
    have back := parse_written law codes stands (Or.inr rfl) (Or.inr rfl) hyphenates extension stands.valid defaultRegion
    exact ⟨_, _, formatted, back, isEqual_numberOf code digits extension⟩

end RoundTrip

section Sole

/-- The metadata of a region with one number, which its patterns spell. -/
def soleNumber (number : NSString) (nationalPrefixForParsing nationalPrefixTransformRule : Option NSString)
    (numberFormats : List NBNumberFormat) : NBPhoneMetaData :=
  let absent : NBPhoneNumberDesc := { nationalNumberPattern := some (ns "NA") }
  { countryCode := some 1
    generalDesc := { nationalNumberPattern := some number }
    fixedLine := { nationalNumberPattern := some number }
    sameMobileAndFixedLinePattern := true
    tollFree := absent
    premiumRate := absent
    sharedCost := absent
    personalNumber := absent
    voip := absent
    pager := absent
    uan := absent
    voicemail := absent
    nationalPrefixForParsing
    nationalPrefixTransformRule
    numberFormats }

/-- What may stand for itself among the expressions. -/
structure IsLiteral (head number : NSString) : Prop where
  value : hasValue (some number)
  plain : number.contains 94 = false
  named : number ≠ ns "NA"
  other : number ≠ VALID_ALPHA_PHONE_PATTERN_STRING
  apart : number ≠ head

variable {head number : NSString} {find : NSString → Option HeadMatch} {parsing rule : Option NSString}
  {formats : List NBNumberFormat}

def soleRegion (head : NSString) (find : NSString → Option HeadMatch) (number : NSString)
    (parsing rule : Option NSString) (formats : List NBNumberFormat) : NBPhoneNumberUtil :=
  literalRegion head find (soleNumber number parsing rule formats)

variable (literal : IsLiteral head number)

include literal

theorem soleRegion_matchesPattern (text : NSString) :
    (soleRegion head find number parsing rule formats).matchesPattern number text = decide (number = text) :=
  literalRegion_matchesPattern literal.plain literal.named literal.other literal.apart

/-- The type of a number where the general description is met by the only number. -/
theorem literalRegion_getNumberTypeHelper {metadata : NBPhoneMetaData} {general : NBPhoneNumberDesc} {text : NSString}
    (decides : (literalRegion head find metadata).isNumberMatchingDesc text general = .ok (decide (number = text))) :
    (literalRegion head find metadata).getNumberTypeHelper text
        (some { soleNumber number parsing rule formats with generalDesc := general }) =
      .ok (if number = text then .FIXED_LINE_OR_MOBILE else .UNKNOWN) := by
  have spelled : (literalRegion head find metadata).isNumberMatchingDesc text
      { nationalNumberPattern := some number } = .ok (decide (number = text)) :=
    congrArg Except.ok (literalRegion_matchesPattern literal.plain literal.named literal.other literal.apart)
  have absent : (literalRegion head find metadata).isNumberMatchingDesc text
      { nationalNumberPattern := some (ns "NA") } = .ok false := rfl
  unfold getNumberTypeHelper
  simp only [Option.getD_some, soleNumber, decides, spelled, absent, firstMatchingType, bind, Except.bind,
    Bool.false_eq_true, if_false, if_true]
  by_cases same : number = text
  · rw [decide_eq_true same, if_pos same]
    rfl
  · rw [decide_eq_false same, if_neg same]
    rfl

theorem literalRegion_isValidNumberForRegion {metadata : NBPhoneMetaData} {phoneNumber : NBPhoneNumber}
    (code : metadata.countryCode = some 1) (general : metadata.generalDesc.nationalNumberPattern = some number)
    (coded : phoneNumber.countryCode = some 1)
    (typed : (literalRegion head find metadata).getNumberTypeHelper (getNationalSignificantNumber phoneNumber)
        (some metadata) =
      .ok (if number = getNationalSignificantNumber phoneNumber then .FIXED_LINE_OR_MOBILE else .UNKNOWN)) :
    (literalRegion head find metadata).isValidNumberForRegion phoneNumber (some (ns "US")) =
      .ok (decide (number = getNationalSignificantNumber phoneNumber)) := by
  have looked : (literalRegion head find metadata).getMetadataForRegion (some (ns "US")) = some metadata :=
    literalRegion_getMetadataForRegion
  have geographical : some (ns "US") ≠ some NB_REGION_CODE_FOR_NON_GEO_ENTITY := by decide
  have same : (!isEqualToNumber (some 1) metadata.countryCode) = false := by
    rw [code]
    rfl
  unfold isValidNumberForRegion getMetadataForRegionOrCallingCode getCountryCodeForValidRegion
  rw [if_neg geographical, looked, coded]
  dsimp only
  rw [if_neg fun different => Bool.false_ne_true (same ▸ different.2), general, literal.value, typed]
  by_cases same : number = getNationalSignificantNumber phoneNumber
  · rw [if_pos same, decide_eq_true same]
    rfl
  · rw [if_neg same, decide_eq_false same]
    rfl

omit literal in
/-- The number's region is the only one. -/
theorem literalRegion_isValidNumber {metadata : NBPhoneMetaData} {phoneNumber : NBPhoneNumber}
    (coded : phoneNumber.countryCode = some 1) :
    (literalRegion head find metadata).isValidNumber phoneNumber =
      (literalRegion head find metadata).isValidNumberForRegion phoneNumber (some (ns "US")) := by
  have region : (literalRegion head find metadata).getRegionCodeForNumber phoneNumber = .ok (some (ns "US")) := by
    have regions : (literalRegion head find metadata).regionCodeFromCountryCode (some 1) = some [ns "US"] :=
      (literalRegion_regionCodeFromCountryCode 1).trans (if_pos (by decide))
    unfold getRegionCodeForNumber
    rw [coded, regions]
  unfold isValidNumber
  rw [region]
  rfl

theorem soleRegion_isValidNumberForRegion {phoneNumber : NBPhoneNumber} (coded : phoneNumber.countryCode = some 1) :
    (soleRegion head find number parsing rule formats).isValidNumberForRegion phoneNumber (some (ns "US")) =
      .ok (decide (number = getNationalSignificantNumber phoneNumber)) := by
  have spelled : (soleRegion head find number parsing rule formats).isNumberMatchingDesc
      (getNationalSignificantNumber phoneNumber) { nationalNumberPattern := some number } =
        .ok (decide (number = getNationalSignificantNumber phoneNumber)) :=
    congrArg Except.ok (soleRegion_matchesPattern literal _)
  exact literalRegion_isValidNumberForRegion literal rfl rfl coded (literalRegion_getNumberTypeHelper literal spelled)

theorem soleRegion_isValidNumber {phoneNumber : NBPhoneNumber} (coded : phoneNumber.countryCode = some 1) :
    (soleRegion head find number parsing rule formats).isValidNumber phoneNumber =
      .ok (decide (number = getNationalSignificantNumber phoneNumber)) :=
  (literalRegion_isValidNumber coded).trans (soleRegion_isValidNumberForRegion literal coded)

/-- The only number is one that the metadata keeps, if no national prefix is found in it. -/
theorem soleRegion_keepsNumber (unmatched : hasValue parsing →
    (soleRegion head find number parsing rule formats).regex.allMatches (nationalPrefixPattern (parsing.getD []))
      number = []) :
    (soleRegion head find number parsing rule formats).KeepsNumber (soleNumber number parsing rule formats) number
      number := by
  refine ⟨rfl, literal.value, ?_, ?_⟩
  · rw [soleRegion_matchesPattern literal]
    exact decide_eq_true rfl
  · intro prefixed firstMatch others matched
    cases (unmatched prefixed).symm.trans matched

theorem soleRegion_mainRegionsDecide (unmatched : hasValue parsing →
    (soleRegion head find number parsing rule formats).regex.allMatches (nationalPrefixPattern (parsing.getD []))
      number = []) :
    (soleRegion head find number parsing rule formats).MainRegionsDecide := by
  intro phoneNumber valid code coded main isMain
  obtain ⟨_, found, known⟩ := valid.code
  obtain rfl := Option.some.inj (coded.symm.trans found)
  obtain rfl := literalRegion_hasValidCountryCallingCode.mp known
  obtain ⟨regionCodes, regions, regionCode, member, valid⟩ := valid
  have only : (soleRegion head find number parsing rule formats).regionCodeFromCountryCode (some 1) = some [ns "US"] :=
    (literalRegion_regionCodeFromCountryCode 1).trans (if_pos (by decide))
  rw [coded, only] at regions
  obtain rfl := Option.some.inj regions
  obtain rfl := List.mem_singleton.mp member
  rw [soleRegion_isValidNumberForRegion literal coded] at valid
  have same := of_decide_eq_true (Except.ok.inj valid)
  obtain rfl := literalRegion_mainMetadata isMain
  rw [← same]
  exact ⟨number, soleRegion_keepsNumber literal unmatched⟩

end Sole

/-- Three digits and four. -/
def writtenFormat : NBNumberFormat := { pattern := some (ns "(253)(0000)"), format := some (ns "$1-$2") }

def writtenMatch (text : NSString) : Option HeadMatch :=
  if (ns "2530000").isPrefixOf text then some (7, [some ⟨0, 3⟩, some ⟨3, 4⟩]) else none

/-- A region with one number, a format for it and no national prefix. -/
def writtenRegion : NBPhoneNumberUtil :=
  soleRegion (ns "(253)(0000)") writtenMatch (ns "2530000") none none [writtenFormat]

def writtenNumber (extension : Option NSString) : NBPhoneNumber :=
  { countryCode := some 1, nationalNumber := some 2530000, extension }

theorem isLiteral_written : IsLiteral (ns "(253)(0000)") (ns "2530000") :=
  ⟨by decide, by decide, by decide, by decide +kernel, by decide⟩

theorem writtenRegion_parse {extension : Option NSString} (valid : ∀ digits ∈ extension, isExtension digits)
    (short : (extensionText extension).length ≤ 12) (defaultRegion : Option NSString) :
    writtenRegion.parse (some (ns "+12530000" ++ extensionText extension)) defaultRegion =
      .ok ⟨some (writtenNumber extension), none⟩ := by
  have law : writtenRegion.EncodedExpressions := parserExpressions_encoded rfl
  have writes : Writes [] (ns "+12530000") extension := ⟨Or.inl rfl, by decide, valid⟩
  have fits : ([] ++ (ns "+12530000" ++ extensionText extension)).length ≤ MAX_INPUT_STRING_LENGTH := by
    have length : (ns "+12530000").length = 9 := by decide
    rw [List.nil_append, List.length_append, length]
    unfold MAX_INPUT_STRING_LENGTH
    omega
  have known : writtenRegion.hasValidCountryCallingCode (some 1) := literalRegion_hasValidCountryCallingCode.mpr rfl
  have keeps (main : NBPhoneMetaData) (isMain : writtenRegion.MainMetadata 1 main) :
      ∃ rule, writtenRegion.KeepsNumber main (ns "2530000") rule := by
    obtain rfl := literalRegion_mainMetadata isMain
    exact ⟨_, soleRegion_keepsNumber isLiteral_written fun absent => by cases absent⟩
  have parsed : writtenRegion.parse (some ([] ++ (ns "+12530000" ++ extensionText extension))) defaultRegion =
      .ok ⟨some (writtenRegion.numberOf (some 1) (ns "2530000") extension), none⟩ :=
    parse_kept law literalRegion_prefixFree known writes fits (by decide) (by decide) (by decide) (by decide) keeps _
  rw [List.nil_append] at parsed
  rw [parsed]
  rfl

/-- The only number of this region, with its extension, comes back from both formats. -/
theorem format_parses_back_written :
    (∃ text again, writtenRegion.format (writtenNumber (some (ns "5"))) .E164 = .ok text ∧
      writtenRegion.parse (some text) none = .ok ⟨some again, none⟩ ∧ again.isEqual (writtenNumber none)) ∧
    ∃ text again, writtenRegion.format (writtenNumber (some (ns "5"))) .RFC3966 = .ok text ∧
      writtenRegion.parse (some text) none = .ok ⟨some again, none⟩ ∧ again.isEqual (writtenNumber (some (ns "5"))) := by
  have law : writtenRegion.EncodedExpressions := parserExpressions_encoded rfl
  have codes : writtenRegion.PrefixFree := literalRegion_prefixFree
  have writes : writtenRegion.TransformsToDigits := by
    intro regionCode metadata found rule given
    obtain rfl := eq_of_literalRegion_getMetadataForRegion found
    cases given
  have decides : writtenRegion.MainRegionsDecide :=
    soleRegion_mainRegionsDecide isLiteral_written fun absent => by cases absent
  have five : ∀ digits ∈ some (ns "5"), isExtension digits := by
    rintro _ ⟨⟩
    decide
  have parsed := writtenRegion_parse five (by decide) none
  have valid : writtenRegion.isValidNumber (writtenNumber (some (ns "5"))) = .ok true :=
    (soleRegion_isValidNumber isLiteral_written rfl).trans (congrArg Except.ok (by decide))
  have fits : writtenRegion.FitsFormat (writtenNumber (some (ns "5"))) := by
    have main : writtenRegion.getMetadataForRegionOrCallingCode (some 1)
        (some (writtenRegion.getRegionCodeForCountryCode (some 1))) =
          some (soleNumber (ns "2530000") none none [writtenFormat]) :=
      literalRegion_resolvedMetadata (Or.inl rfl)
    have code : (writtenNumber (some (ns "5"))).countryCode = some 1 := rfl
    have national : getNationalSignificantNumber (writtenNumber (some (ns "5"))) = ns "2530000" := by decide
    have chosen : writtenRegion.chooseFormattingPatternForNumber (ns "2530000") [writtenFormat] =
        .ok (some writtenFormat) := by decide +kernel
    have matched : writtenRegion.regex.allMatches (ns "(253)(0000)") (ns "2530000") =
        [{ range := ⟨0, 7⟩, groups := [some ⟨0, 3⟩, some ⟨3, 4⟩] }] := by decide +kernel
    refine ⟨some writtenFormat, ?_, ?_⟩
    · rw [code, main, national]
      exact chosen
    · rintro _ ⟨⟩
      rw [national]
      exact ⟨_, matched, rfl, ⟨rfl, rfl, rfl⟩, by decide⟩
  obtain ⟨plain, extended⟩ := format_parses_back law codes writes decides parsed valid none
  exact ⟨plain, extended fits⟩

def hyphenPrefix : NSString := ns "0(345)"

def hyphenMatch (text : NSString) : Option HeadMatch :=
  if (ns "0345").isPrefixOf text then some (4, [some ⟨1, 3⟩]) else none

/-- A region whose transform rule writes a hyphen. -/
def hyphenRegion : NBPhoneNumberUtil :=
  soleRegion (nationalPrefixPattern hyphenPrefix) hyphenMatch (ns "-12345") (some hyphenPrefix) (some (ns "-12$1"))
    []

def hyphenMetadata : NBPhoneMetaData := soleNumber (ns "-12345") (some hyphenPrefix) (some (ns "-12$1")) []

theorem isLiteral_hyphen : IsLiteral (nationalPrefixPattern hyphenPrefix) (ns "-12345") :=
  ⟨by decide, by decide, by decide, by decide +kernel, by decide +kernel⟩

theorem hyphenRegion_matches (s : NSString) (range : NSRange) :
    hyphenRegion.regex.matchesInString (nationalPrefixPattern hyphenPrefix) s range = headMatches hyphenMatch s range :=
  literalRegion_allMatches (by decide +kernel) s range

theorem hyphenRegion_strips (phoneNumber : NBPhoneNumber) :
    hyphenRegion.stripForParsing (ns "0345") (some hyphenMetadata) false phoneNumber = .ok (ns "-12345", phoneNumber) := by
  have found : hyphenRegion.regex.allMatches (prefixPattern hyphenMetadata) (ns "0345") =
      [{ range := ⟨0, 4⟩, groups := [some ⟨1, 3⟩] }] := (hyphenRegion_matches _ _).trans (by decide)
  have written : hyphenRegion.strippedNumber hyphenMetadata (ns "0345") { range := ⟨0, 4⟩, groups := [some ⟨1, 3⟩] } =
      ns "-12345" := by
    have transforms : transforms hyphenMetadata (ns "0345") { range := ⟨0, 4⟩, groups := [some ⟨1, 3⟩] } = true := by decide
    unfold strippedNumber
    rw [transforms, if_pos rfl]
    unfold replaceFirstStringByRegex NSRegularExpressions.stringByReplacingMatches
    rw [found]
    dsimp only
    have again : hyphenRegion.regex.matchesInString (prefixPattern hyphenMetadata) (ns "0345") ⟨0, 4⟩ =
        [{ range := ⟨0, 4⟩, groups := [some ⟨1, 3⟩] }] := (hyphenRegion_matches _ _).trans (by decide)
    rw [again]
    decide
  have kept : hyphenRegion.losesViability hyphenMetadata.generalDesc.nationalNumberPattern (ns "0345") (ns "-12345") =
      false := by
    have general : hyphenMetadata.generalDesc.nationalNumberPattern = some (ns "-12345") := rfl
    have unmatched : hyphenRegion.matchesPattern (ns "-12345") (ns "0345") = false :=
      (soleRegion_matchesPattern isLiteral_hyphen _).trans (by decide)
    rw [general, losesViability, unmatched, Bool.and_false, Bool.false_and]
  unfold stripForParsing
  dsimp only
  rw [maybeStripNationalPrefixAndCarrierCode_of_match (by decide) (by decide) (by decide) found, written, kept]
  rfl

theorem hyphenRegion_keeps (phoneNumber : NBPhoneNumber) :
    hyphenRegion.stripForParsing (ns "12345") (some hyphenMetadata) false phoneNumber = .ok (ns "12345", phoneNumber) := by
  have unmatched : hyphenRegion.regex.allMatches (prefixPattern hyphenMetadata) (ns "12345") = [] :=
    (hyphenRegion_matches _ _).trans (by decide)
  unfold stripForParsing
  dsimp only
  rw [maybeStripNationalPrefixAndCarrierCode_of_none (Or.inr (Or.inr unmatched))]
  rfl

theorem hyphenRegion_parse {s digits rest : NSString} (encoded : isEncoded s) (few : s.length ≤ 20)
    (spelled : s.filter isAsciiDigit = stringValue 1 ++ digits) (areDigits : digits.all isAsciiDigit)
    (some_digits : MIN_LENGTH_FOR_NSN ≤ digits.length)
    (strips : ∀ phoneNumber,
      hyphenRegion.stripForParsing digits (some hyphenMetadata) false phoneNumber = .ok (rest, phoneNumber))
    (long : MIN_LENGTH_FOR_NSN ≤ rest.length) (short : rest.length ≤ MAX_LENGTH_FOR_NSN) :
    hyphenRegion.parse (some s) (some (ns "US")) = .ok ⟨some (hyphenRegion.numberOf (some 1) rest none), none⟩ := by
  have law : hyphenRegion.EncodedExpressions := parserExpressions_encoded rfl
  have known : hyphenRegion.hasValidCountryCallingCode (some 1) := literalRegion_hasValidCountryCallingCode.mpr rfl
  have writes : Writes [] s none := ⟨Or.inl rfl, encoded, fun _ absent => by cases absent⟩
  have bare : extensionText none = [] := rfl
  have fits : ([] ++ (s ++ extensionText none)).length ≤ MAX_INPUT_STRING_LENGTH := by
    rw [bare, List.append_nil, List.nil_append]
    unfold MAX_INPUT_STRING_LENGTH
    omega
  have parsed := parse_encoded law literalRegion_prefixFree known writes fits spelled areDigits some_digits
    (fun metadata phoneNumber resolved => by
      rw [literalRegion_resolvedMetadata resolved]
      exact strips phoneNumber) long short (some (ns "US"))
  rw [bare, List.append_nil, List.nil_append] at parsed
  exact parsed

/-- A number that a rule wrote with a hyphen does not come back. -/
theorem hyphenated_number_lost :
    hyphenRegion.EncodedExpressions ∧ hyphenRegion.PrefixFree ∧ hyphenRegion.MainRegionsDecide ∧
      ∃ number text again, hyphenRegion.parse (some (ns "+10345")) (some (ns "US")) = .ok ⟨some number, none⟩ ∧
        hyphenRegion.isValidNumber number = .ok true ∧ hyphenRegion.format number .E164 = .ok text ∧
        hyphenRegion.parse (some text) (some (ns "US")) = .ok ⟨some again, none⟩ ∧
        again.isEqual { number with extension := none } = false := by
  refine ⟨parserExpressions_encoded rfl, literalRegion_prefixFree, soleRegion_mainRegionsDecide isLiteral_hyphen ?_, ?_⟩
  · intro _
    exact (hyphenRegion_matches _ _).trans (by decide)
  refine ⟨hyphenRegion.numberOf (some 1) (ns "-12345") none, ns "+1-12345",
    hyphenRegion.numberOf (some 1) (ns "12345") none, ?_, ?_, ?_, ?_, ?_⟩
  · exact hyphenRegion_parse (by decide) (by decide) (by decide) (by decide) (by decide) hyphenRegion_strips (by decide)
      (by decide)
  · exact (soleRegion_isValidNumber isLiteral_hyphen rfl).trans (congrArg Except.ok (by decide +kernel))
  · rfl
  · exact hyphenRegion_parse (by decide) (by decide) (by decide) (by decide) (by decide) hyphenRegion_keeps (by decide)
      (by decide)
  · decide +kernel

end NBPhoneNumberUtil

end SignalPods.PhoneNumber
