import SignalPods.PhoneNumber.Parsing

namespace SignalPods.PhoneNumber

open Foundation

inductive NBEPhoneNumberFormat
  | E164
  | INTERNATIONAL
  | NATIONAL
  | RFC3966
  deriving DecidableEq, Repr

def CC_PATTERN : NSString := ns "\\$CC"

def FIRST_GROUP_PATTERN : NSString := ns "(\\$\\d)"

/-- The national number after its leading zeros, as many as `integerValue` gives for
a length. The empty text stands for the nil that comes of no national number. -/
def getNationalSignificantNumber (phoneNumber : NBPhoneNumber) : NSString :=
  if phoneNumber.italianLeadingZero then
    List.replicate (nsUInteger (phoneNumber.numberOfLeadingZeros.getD 0)) 48 ++ formatted phoneNumber.nationalNumber
  else (phoneNumber.nationalNumber.map stringValue).getD []

/-- A number that can be written: it has a national number, and its count of leading
zeros can be a length. -/
structure NBPhoneNumber.Written (phoneNumber : NBPhoneNumber) (nationalNumber : Nat) : Prop where
  national : phoneNumber.nationalNumber = some (nationalNumber : Int)
  zeros : phoneNumber.italianLeadingZero → 0 ≤ phoneNumber.numberOfLeadingZeros.getD 0

def prefixNumberWithCountryCallingCode (countryCallingCode : Option Int) (numberFormat : NBEPhoneNumberFormat)
    (formattedNationalNumber formattedExtension : NSString) : NSString :=
  match numberFormat with
  | .E164 => ns "+" ++ formatted countryCallingCode ++ formattedNationalNumber ++ formattedExtension
  | .INTERNATIONAL =>
    ns "+" ++ formatted countryCallingCode ++ ns " " ++ formattedNationalNumber ++ formattedExtension
  | .RFC3966 =>
    RFC3966_PREFIX ++ ns "+" ++ formatted countryCallingCode ++ ns "-" ++ formattedNationalNumber ++ formattedExtension
  | .NATIONAL => formattedNationalNumber ++ formattedExtension

def maybeGetFormattedExtension (number : NBPhoneNumber) (metadata : Option NBPhoneMetaData)
    (numberFormat : NBEPhoneNumberFormat) : NSString :=
  match number.extension with
  | some numberExtension =>
    if !hasValue number.extension then []
    else if numberFormat = .RFC3966 then RFC3966_EXTN_PREFIX ++ numberExtension
    else
      match metadata.bind NBPhoneMetaData.preferredExtnPrefix with
      | some preferredExtnPrefix =>
        if hasValue (some preferredExtnPrefix) then preferredExtnPrefix ++ numberExtension
        else DEFAULT_EXTN_PREFIX ++ numberExtension
      | none => DEFAULT_EXTN_PREFIX ++ numberExtension
  | none => []

namespace NBPhoneNumberUtil

variable (u : NBPhoneNumberUtil)

section Validity

def isNumberMatchingDesc (nationalNumber : NSString) (numberDesc : NBPhoneNumberDesc) : Objc Bool :=
  let possibleLength := numberDesc.possibleLength.getD []
  if !possibleLength.isEmpty && !possibleLength.contains (nationalNumber.length : Int) then .ok false
  else u.matchesEntirely numberDesc.nationalNumberPattern nationalNumber

/-- The type of the first description that a number matches. -/
def firstMatchingType (nationalNumber : NSString) :
    List (NBPhoneNumberDesc × NBEPhoneNumberType) → Objc (Option NBEPhoneNumberType)
  | [] => .ok none
  | (numberDesc, type) :: descs => do
    if ← u.isNumberMatchingDesc nationalNumber numberDesc then return some type
    else firstMatchingType nationalNumber descs

/-- Nil metadata has nothing but nil descriptions. -/
def getNumberTypeHelper (nationalNumber : NSString) (metadata : Option NBPhoneMetaData) : Objc NBEPhoneNumberType := do
  let metadata := metadata.getD {}
  if !(← u.isNumberMatchingDesc nationalNumber metadata.generalDesc) then return .UNKNOWN
  else
    match ← u.firstMatchingType nationalNumber
      [(metadata.premiumRate, .PREMIUM_RATE), (metadata.tollFree, .TOLL_FREE), (metadata.sharedCost, .SHARED_COST),
        (metadata.voip, .VOIP), (metadata.personalNumber, .PERSONAL_NUMBER), (metadata.pager, .PAGER),
        (metadata.uan, .UAN), (metadata.voicemail, .VOICEMAIL)] with
    | some type => return type
    | none =>
      if ← u.isNumberMatchingDesc nationalNumber metadata.fixedLine then
        if metadata.sameMobileAndFixedLinePattern then return .FIXED_LINE_OR_MOBILE
        else if ← u.isNumberMatchingDesc nationalNumber metadata.mobile then return .FIXED_LINE_OR_MOBILE
        else return .FIXED_LINE
      else if metadata.sameMobileAndFixedLinePattern then return .UNKNOWN
      else if ← u.isNumberMatchingDesc nationalNumber metadata.mobile then return .MOBILE
      else return .UNKNOWN

def getRegionCodeForNumberFromRegionList (nationalNumber : NSString) : List NSString → Objc (Option NSString)
  | [] => .ok none
  | regionCode :: regionCodes => do
    let metadata := u.getMetadataForRegion (some regionCode)
    match metadata.bind NBPhoneMetaData.leadingDigits with
    | some leadingDigits =>
      if hasValue (some leadingDigits) then
        if u.stringPositionByRegex nationalNumber leadingDigits = 0 then return some regionCode
        else getRegionCodeForNumberFromRegionList nationalNumber regionCodes
      else if (← u.getNumberTypeHelper nationalNumber metadata) ≠ .UNKNOWN then return some regionCode
      else getRegionCodeForNumberFromRegionList nationalNumber regionCodes
    | none =>
      if (← u.getNumberTypeHelper nationalNumber metadata) ≠ .UNKNOWN then return some regionCode
      else getRegionCodeForNumberFromRegionList nationalNumber regionCodes

def getRegionCodeForNumber (phoneNumber : NBPhoneNumber) : Objc (Option NSString) :=
  match u.regionCodeFromCountryCode phoneNumber.countryCode with
  | none => .ok none
  | some [] => .ok none
  | some [regionCode] => .ok (some regionCode)
  | some regionCodes => u.getRegionCodeForNumberFromRegionList (getNationalSignificantNumber phoneNumber) regionCodes

def getCountryCodeForValidRegion (regionCode : Option NSString) : Option Int :=
  match u.getMetadataForRegion regionCode with
  | some metadata => metadata.countryCode
  | none => some (-1)

def isValidNumberForRegion (number : NBPhoneNumber) (regionCode : Option NSString) : Objc Bool := do
  match u.getMetadataForRegionOrCallingCode number.countryCode regionCode with
  | none => return false
  | some metadata =>
    if regionCode ≠ some NB_REGION_CODE_FOR_NON_GEO_ENTITY ∧
        !isEqualToNumber number.countryCode (u.getCountryCodeForValidRegion regionCode) then return false
    else
      let nationalSignificantNumber := getNationalSignificantNumber number
      -- without a pattern any length between the bounds is taken
      if !hasValue metadata.generalDesc.nationalNumberPattern then
        return MIN_LENGTH_FOR_NSN < nationalSignificantNumber.length && nationalSignificantNumber.length ≤ MAX_LENGTH_FOR_NSN
      else return (← u.getNumberTypeHelper nationalSignificantNumber (some metadata)) != .UNKNOWN

def isValidNumber (number : NBPhoneNumber) : Objc Bool := do
  u.isValidNumberForRegion number (← u.getRegionCodeForNumber number)

end Validity

section Format

def chooseFormattingPatternForNumber (nationalNumber : NSString) : List NBNumberFormat → Objc (Option NBNumberFormat)
  | [] => .ok none
  | numFormat :: availableFormats => do
    let led :=
      match numFormat.leadingDigitsPatterns.getLast? with
      | some leadingDigitsPattern => u.stringPositionByRegex nationalNumber leadingDigitsPattern == 0
      | none => true
    if led then
      if ← u.matchesEntirely numFormat.pattern nationalNumber then return some numFormat
      else chooseFormattingPatternForNumber nationalNumber availableFormats
    else chooseFormattingPatternForNumber nationalNumber availableFormats

/-- The template of a format, with what belongs to its first group filled in. -/
def numberFormatRule (formattingPattern : NBNumberFormat) (numberFormat : NBEPhoneNumberFormat)
    (carrierCode : Option NSString) : NSString :=
  let format := formattingPattern.format.getD []
  let domesticCarrierCodeFormattingRule := formattingPattern.domesticCarrierCodeFormattingRule.getD []
  if numberFormat = .NATIONAL ∧ hasValue carrierCode ∧ domesticCarrierCodeFormattingRule.length > 0 then
    let carrierCodeFormattingRule :=
      u.replaceStringByRegex domesticCarrierCodeFormattingRule CC_PATTERN (carrierCode.getD [])
    u.replaceFirstStringByRegex format FIRST_GROUP_PATTERN carrierCodeFormattingRule
  else if numberFormat = .NATIONAL ∧ hasValue formattingPattern.nationalPrefixFormattingRule then
    u.replaceFirstStringByRegex format FIRST_GROUP_PATTERN (formattingPattern.nationalPrefixFormattingRule.getD [])
  else format

def formatNsnUsingPattern (nationalNumber : NSString) (formattingPattern : NBNumberFormat)
    (numberFormat : NBEPhoneNumberFormat) (carrierCode : Option NSString) : NSString :=
  let formattedNationalNumber :=
    u.replaceStringByRegex nationalNumber (formattingPattern.pattern.getD [])
      (u.numberFormatRule formattingPattern numberFormat carrierCode)
  if numberFormat = .RFC3966 then
    let formattedNationalNumber := u.replaceStringByRegex formattedNationalNumber (ns "^" ++ SEPARATOR_PATTERN) []
    u.replaceStringByRegex formattedNationalNumber SEPARATOR_PATTERN (ns "-")
  else formattedNationalNumber

def availableFormats (metadata : Option NBPhoneMetaData) (numberFormat : NBEPhoneNumberFormat) : List NBNumberFormat :=
  let metadata := metadata.getD {}
  if metadata.intlNumberFormats.isEmpty ∨ numberFormat = .NATIONAL then metadata.numberFormats
  else metadata.intlNumberFormats

def formatNsn (phoneNumber : NSString) (metadata : Option NBPhoneMetaData) (numberFormat : NBEPhoneNumberFormat)
    (carrierCode : Option NSString) : Objc NSString := do
  match ← u.chooseFormattingPatternForNumber phoneNumber (availableFormats metadata numberFormat) with
  | none => return phoneNumber
  | some formattingPattern => return u.formatNsnUsingPattern phoneNumber formattingPattern numberFormat carrierCode

def format (phoneNumber : NBPhoneNumber) (numberFormat : NBEPhoneNumberFormat) : Objc NSString := do
  if isEqualToNumber phoneNumber.nationalNumber (some 0) && hasValue phoneNumber.rawInput then
    return phoneNumber.rawInput.getD []
  else
    let countryCallingCode := phoneNumber.countryCode
    let nationalSignificantNumber := getNationalSignificantNumber phoneNumber
    if numberFormat = .E164 then
      return prefixNumberWithCountryCallingCode countryCallingCode .E164 nationalSignificantNumber []
    else if !u.hasValidCountryCallingCode countryCallingCode then return nationalSignificantNumber
    else
      let regionCode := u.getRegionCodeForCountryCode countryCallingCode
      let metadata := u.getMetadataForRegionOrCallingCode countryCallingCode (some regionCode)
      let formattedExtension := maybeGetFormattedExtension phoneNumber metadata numberFormat
      let formattedNationalNumber ← u.formatNsn nationalSignificantNumber metadata numberFormat none
      return prefixNumberWithCountryCallingCode countryCallingCode numberFormat formattedNationalNumber formattedExtension

end Format

end NBPhoneNumberUtil

end SignalPods.PhoneNumber
