import SignalPods.PhoneNumber.DiallingFormats

namespace SignalPods.PhoneNumber

open Foundation

namespace NBPhoneNumberUtil

variable (u : NBPhoneNumberUtil)

section Patterns

/-- The copy of a format whose national prefix is filled in. -/
def fillNationalPrefix (formattingPattern : NBNumberFormat) (nationalPrefix : NSString) : NBNumberFormat :=
  let nationalPrefixFormattingRule := formattingPattern.nationalPrefixFormattingRule.getD []
  if nationalPrefixFormattingRule.length > 0 then
    if nationalPrefix.length > 0 then
      let nationalPrefixFormattingRule := u.replaceStringByRegex nationalPrefixFormattingRule NP_PATTERN nationalPrefix
      { formattingPattern with
        nationalPrefixFormattingRule := some (u.replaceStringByRegex nationalPrefixFormattingRule FG_PATTERN (ns "\\$1")) }
    else { formattingPattern with nationalPrefixFormattingRule := some [] }
  else formattingPattern

def formatByPattern (number : NBPhoneNumber) (numberFormat : NBEPhoneNumberFormat)
    (userDefinedFormats : List NBNumberFormat) : Objc NSString := do
  let countryCallingCode := number.countryCode
  let nationalSignificantNumber := getNationalSignificantNumber number
  if !u.hasValidCountryCallingCode countryCallingCode then return nationalSignificantNumber
  else
    let metadata := u.mainMetadata countryCallingCode
    let formattingPattern ← u.chooseFormattingPatternForNumber nationalSignificantNumber userDefinedFormats
    let formattedNumber :=
      match formattingPattern with
      | none => nationalSignificantNumber
      | some formattingPattern =>
        let nationalPrefix := (metadata.bind NBPhoneMetaData.nationalPrefix).getD []
        u.formatNsnUsingPattern nationalSignificantNumber (u.fillNationalPrefix formattingPattern nationalPrefix)
          numberFormat none
    let formattedExtension := maybeGetFormattedExtension number metadata numberFormat
    return prefixNumberWithCountryCallingCode countryCallingCode numberFormat formattedNumber formattedExtension

end Patterns

section OutOfCountry

/-- The international format behind the prefix of the region that is called from. -/
def formatWithInternationalPrefix (number : NBPhoneNumber) (regionCallingFrom : Option NSString) : Objc NSString := do
  let metadataForRegionCallingFrom := u.getMetadataForRegion regionCallingFrom
  let internationalPrefix := metadataForRegionCallingFrom.bind NBPhoneMetaData.internationalPrefix
  let preferredInternationalPrefix := metadataForRegionCallingFrom.bind NBPhoneMetaData.preferredInternationalPrefix
  let unique ← u.matchesEntirelyNullable (some UNIQUE_INTERNATIONAL_PREFIX) internationalPrefix
  let internationalPrefixForFormatting :=
    if unique then internationalPrefix.getD []
    else if hasValue preferredInternationalPrefix then preferredInternationalPrefix.getD []
    else []
  let metadataForRegion := u.mainMetadata number.countryCode
  let formattedNationalNumber ← u.formatNsn (getNationalSignificantNumber number) metadataForRegion .INTERNATIONAL none
  let formattedExtension := maybeGetFormattedExtension number metadataForRegion .INTERNATIONAL
  if internationalPrefixForFormatting.length > 0 then
    return internationalPrefixForFormatting ++ ns " " ++ formatted number.countryCode ++ ns " " ++
      formattedNationalNumber ++ formattedExtension
  else
    return prefixNumberWithCountryCallingCode number.countryCode .INTERNATIONAL formattedNationalNumber formattedExtension

def formatOutOfCountryCallingNumber (number : NBPhoneNumber) (regionCallingFrom : Option NSString) : Objc NSString := do
  if !u.isValidRegionCode regionCallingFrom then u.format number .INTERNATIONAL
  else if !u.hasValidCountryCallingCode number.countryCode then return getNationalSignificantNumber number
  else if unsignedIntegerValue (number.countryCode.getD 0) = NANPA_COUNTRY_CODE_ then
    if u.isNANPACountry regionCallingFrom then
      return formatted number.countryCode ++ ns " " ++ (← u.format number .NATIONAL)
    else u.formatWithInternationalPrefix number regionCallingFrom
  else if isEqualToNumber number.countryCode (u.getCountryCodeForValidRegion regionCallingFrom) then
    u.format number .NATIONAL
  else u.formatWithInternationalPrefix number regionCallingFrom

/-- What precedes the national number of a raw input is cut off. -/
def trimToNationalNumber (rawInput nationalNumber : NSString) : Objc NSString :=
  if nationalNumber.length > 3 then
    let firstNationalNumberDigit := u.indexOfStringByString rawInput (nationalNumber.take 3)
    if firstNationalNumberDigit ≠ -1 then substringFromIndex rawInput firstNationalNumberDigit.toNat else .ok rawInput
  else .ok rawInput

/-- The prefix of a region where it is unique, else the preferred one. -/
def internationalPrefixFrom (metadata : Option NBPhoneMetaData) : Objc (Option NSString) := do
  match metadata with
  | none => return some []
  | some metadata =>
    if ← u.matchesEntirelyNullable (some UNIQUE_INTERNATIONAL_PREFIX) metadata.internationalPrefix then
      return metadata.internationalPrefix
    else return metadata.preferredInternationalPrefix

/-- The raw input behind the prefix of the region that is called from. -/
def rawWithInternationalPrefix (number : NBPhoneNumber) (rawInput : NSString) (regionCallingFrom : Option NSString) :
    Objc NSString := do
  let internationalPrefixForFormatting ← u.internationalPrefixFrom (u.getMetadataForRegion regionCallingFrom)
  let metadataForRegion := u.mainMetadata number.countryCode
  let formattedExtension := maybeGetFormattedExtension number metadataForRegion .INTERNATIONAL
  let internationalPrefix := internationalPrefixForFormatting.getD []
  if internationalPrefix.length > 0 then
    return internationalPrefix ++ ns " " ++ formatted number.countryCode ++ ns " " ++ rawInput ++ formattedExtension
  else return prefixNumberWithCountryCallingCode number.countryCode .INTERNATIONAL rawInput formattedExtension

def formatOutOfCountryKeepingAlphaChars (number : NBPhoneNumber) (regionCallingFrom : Option NSString) :
    Objc NSString := do
  let rawInput := number.rawInput.getD []
  if rawInput.length = 0 then u.formatOutOfCountryCallingNumber number regionCallingFrom
  else if !u.hasValidCountryCallingCode number.countryCode then return rawInput
  else
    let nationalNumber := getNationalSignificantNumber number
    let rawInput ← u.trimToNationalNumber (u.normalizeHelper ALL_PLUS_NUMBER_GROUPING_SYMBOLS false rawInput) nationalNumber
    if unsignedIntegerValue (number.countryCode.getD 0) = NANPA_COUNTRY_CODE_ then
      if u.isNANPACountry regionCallingFrom then return formatted number.countryCode ++ ns " " ++ rawInput
      else u.rawWithInternationalPrefix number rawInput regionCallingFrom
    else
      match u.getMetadataForRegion regionCallingFrom with
      | none => u.rawWithInternationalPrefix number rawInput regionCallingFrom
      | some metadata =>
        if isEqualToNumber number.countryCode (u.getCountryCodeForValidRegion regionCallingFrom) then
          match ← u.chooseFormattingPatternForNumber nationalNumber metadata.numberFormats with
          | none => return rawInput
          | some formattingPattern =>
            let newFormat := { formattingPattern with pattern := some (ns "(\\d+)(.*)"), format := some (ns "$1$2") }
            return u.formatNsnUsingPattern rawInput newFormat .NATIONAL none
        else u.rawWithInternationalPrefix number rawInput regionCallingFrom

end OutOfCountry

section OriginalFormat

/-- The dialling prefix without tildes, if there is one. -/
def getNddPrefixForRegion (regionCode : NSString) : Option NSString :=
  match (u.getMetadataForRegion (some regionCode)).bind NBPhoneMetaData.nationalPrefix with
  | some nationalPrefix => if nationalPrefix.length = 0 then none else some (nationalPrefix.filter (· != 126))
  | none => none

def hasFormattingPatternForNumber (number : NBPhoneNumber) : Objc Bool := do
  match u.mainMetadata number.countryCode with
  | none => return false
  | some metadata =>
    return (← u.chooseFormattingPatternForNumber (getNationalSignificantNumber number) metadata.numberFormats).isSome

/-- The number without the prefix has to be valid for the prefix to be one. -/
def rawInputContainsNationalPrefix (rawInput : Option NSString) (nationalPrefix regionCode : NSString) : Objc Bool := do
  let normalizedNationalNumber := u.normalizeDigitsOnly (rawInput.getD [])
  if u.isStartingStringByRegex normalizedNationalNumber nationalPrefix then
    let subString ← substringFromIndex normalizedNationalNumber nationalPrefix.length
    let parsed ← u.parse (some subString) (some regionCode)
    match parsed.phoneNumber with
    | none => return false
    | some number =>
      let isValid ← u.isValidNumber number
      return if parsed.error.isSome then false else isValid
  else return false

/-- Whether a rule writes digits before the first group. -/
def writesNationalPrefix (candidateNationalPrefixRule : Option NSString) : Bool :=
  match candidateNationalPrefixRule with
  -- the range found in nil begins at zero
  | none => false
  | some rule =>
    match u.unicode.rangeOfString rule (ns "$1") with
    | none => false
    | some location => location > 0 && (u.normalizeDigitsOnly (rule.take location)).length > 0

/-- The national format, without the national prefix where none was typed. -/
def formatAsTyped (number : NBPhoneNumber) : Objc NSString := do
  let regionCode := u.getRegionCodeForCountryCode number.countryCode
  let nationalFormat ← u.format number .NATIONAL
  match u.getNddPrefixForRegion regionCode with
  | none => return nationalFormat
  | some nationalPrefix =>
    if nationalPrefix.length = 0 then return nationalFormat
    else if ← u.rawInputContainsNationalPrefix number.rawInput nationalPrefix regionCode then return nationalFormat
    else
      let numberFormats := ((u.getMetadataForRegion (some regionCode)).map NBPhoneMetaData.numberFormats).getD []
      match ← u.chooseFormattingPatternForNumber (getNationalSignificantNumber number) numberFormats with
      | none => return nationalFormat
      | some formatRule =>
        if u.writesNationalPrefix formatRule.nationalPrefixFormattingRule then
          u.formatByPattern number .NATIONAL [{ formatRule with nationalPrefixFormattingRule := none }]
        else return nationalFormat

/-- The format that belongs to the source of the calling code. -/
def formatBySource (number : NBPhoneNumber) (regionCallingFrom : Option NSString) :
    NBECountryCodeSource → Objc NSString
  | .FROM_NUMBER_WITH_PLUS_SIGN => u.format number .INTERNATIONAL
  | .FROM_NUMBER_WITH_IDD => u.formatOutOfCountryCallingNumber number regionCallingFrom
  | .FROM_NUMBER_WITHOUT_PLUS_SIGN => do substringFromIndex (← u.format number .INTERNATIONAL) 1
  | .FROM_DEFAULT_COUNTRY => u.formatAsTyped number

def formatInOriginalFormat (number : NBPhoneNumber) (regionCallingFrom : Option NSString) : Objc NSString := do
  let unformatted ← if hasValue number.rawInput then (!·) <$> u.hasFormattingPatternForNumber number else .ok false
  if unformatted then return number.rawInput.getD []
  else
    match number.countryCodeSource with
    | none => u.format number .NATIONAL
    | some countryCodeSource =>
      let formattedNumber ← u.formatBySource number regionCallingFrom countryCodeSource
      let rawInput := number.rawInput.getD []
      if rawInput.length > 0 ∧ u.normalizeHelper DIALLABLE_CHAR_MAPPINGS true formattedNumber ≠
          u.normalizeHelper DIALLABLE_CHAR_MAPPINGS true rawInput then return rawInput
      else return formattedNumber

end OriginalFormat

end NBPhoneNumberUtil

end SignalPods.PhoneNumber
