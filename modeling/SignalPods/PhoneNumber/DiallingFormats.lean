import SignalPods.PhoneNumber.Formatting

namespace SignalPods.PhoneNumber

open Foundation

def NANPA_COUNTRY_CODE_ : Nat := 1

def COLOMBIA_MOBILE_TO_FIXED_LINE_PREFIX : NSString := ns "3"

def NP_PATTERN : NSString := ns "\\$NP"

def FG_PATTERN : NSString := ns "\\$FG"

def UNIQUE_INTERNATIONAL_PREFIX : NSString := ns "[\\d]+(?:[~\\u2053\\u223C\\uFF5E][\\d]+)?"

/-- A digit, a plus sign, a star or a hash. -/
def isDiallable (c : unichar) : Bool := isAsciiDigit c || c == 43 || c == 42 || c == 35

def DIALLABLE_CHAR_MAPPINGS (c : unichar) : Option unichar := if isDiallable c then some c else none

/-- Digits and letters, whose case does not count, and the signs that group them. -/
def ALL_PLUS_NUMBER_GROUPING_SYMBOLS (c : unichar) : Option unichar :=
  if isAsciiDigit c || (65 ≤ c && c ≤ 90) then some c
  else if 97 ≤ c && c ≤ 122 then some (c - 32)
  else if c == 45 || c == 0xff0d || (0x2010 ≤ c && c ≤ 0x2015) || c == 0x2212 then some 45
  else if c == 47 || c == 0xff0f then some 47
  else if c == 32 || c == 0x3000 || c == 0x2060 then some 32
  else if c == 46 || c == 0xff0e then some 46
  else none

namespace NBPhoneNumberUtil

variable (u : NBPhoneNumberUtil)

section Helpers

/-- No match is looked for in a nil string. -/
def matchesEntirelyNullable (pattern : Option NSString) (s : Option NSString) : Objc Bool :=
  if pattern = some (ns "NA") then .ok false
  else
    match s with
    | some s => u.matchesEntirely pattern s
    | none => .error .invalidArgumentException

def getNumberType (phoneNumber : NBPhoneNumber) : Objc NBEPhoneNumberType := do
  let regionCode ← u.getRegionCodeForNumber phoneNumber
  match u.getMetadataForRegionOrCallingCode phoneNumber.countryCode regionCode with
  | none => return .UNKNOWN
  | some metadata => u.getNumberTypeHelper (getNationalSignificantNumber phoneNumber) (some metadata)

def canBeInternationallyDialled (number : NBPhoneNumber) : Objc Bool := do
  match u.getMetadataForRegion (← u.getRegionCodeForNumber number) with
  -- numbers of non-geographical entities can always be dialled
  | none => return true
  | some metadata =>
    return !(← u.isNumberMatchingDesc (getNationalSignificantNumber number) metadata.noInternationalDialling)

def isNANPACountry (regionCode : Option NSString) : Bool :=
  match regionCode with
  | some regionCode =>
    ((u.regionCodeFromCountryCode (some NANPA_COUNTRY_CODE_)).getD []).contains (u.unicode.uppercaseString regionCode)
  | none => false

/-- The metadata of the main region for a calling code. -/
def mainMetadata (countryCallingCode : Option Int) : Option NBPhoneMetaData :=
  u.getMetadataForRegionOrCallingCode countryCallingCode (some (u.getRegionCodeForCountryCode countryCallingCode))

end Helpers

section CarrierCodes

def formatNationalNumberWithCarrierCode (number : NBPhoneNumber) (carrierCode : Option NSString) : Objc NSString := do
  let countryCallingCode := number.countryCode
  let nationalSignificantNumber := getNationalSignificantNumber number
  if !u.hasValidCountryCallingCode countryCallingCode then return nationalSignificantNumber
  else
    let metadata := u.mainMetadata countryCallingCode
    let formattedExtension := maybeGetFormattedExtension number metadata .NATIONAL
    let formattedNationalNumber ← u.formatNsn nationalSignificantNumber metadata .NATIONAL carrierCode
    return prefixNumberWithCountryCallingCode countryCallingCode .NATIONAL formattedNationalNumber formattedExtension

def formatNationalNumberWithPreferredCarrierCode (number : NBPhoneNumber) (fallbackCarrierCode : Option NSString) :
    Objc NSString :=
  let domesticCarrierCode :=
    match number.preferredDomesticCarrierCode with
    | some preferredDomesticCarrierCode => some preferredDomesticCarrierCode
    | none => fallbackCarrierCode
  u.formatNationalNumberWithCarrierCode number domesticCarrierCode

end CarrierCodes

section MobileDialling

/-- What is dialled within the region of the number. -/
def formatForOwnRegion (numberNoExt : NBPhoneNumber) (regionCode : NSString) : Objc NSString := do
  let numberType ← u.getNumberType numberNoExt
  let isFixedLineOrMobile := numberType = .FIXED_LINE ∨ numberType = .MOBILE ∨ numberType = .FIXED_LINE_OR_MOBILE
  if regionCode = ns "CO" ∧ numberType = .FIXED_LINE then
    u.formatNationalNumberWithCarrierCode numberNoExt (some COLOMBIA_MOBILE_TO_FIXED_LINE_PREFIX)
  else if regionCode = ns "BR" ∧ isFixedLineOrMobile then
    if hasValue numberNoExt.preferredDomesticCarrierCode then
      u.formatNationalNumberWithPreferredCarrierCode numberNoExt (some [])
    else return []
  else
    let international := unsignedIntegerValue (numberNoExt.countryCode.getD 0) = NANPA_COUNTRY_CODE_ ∨
      regionCode = NB_REGION_CODE_FOR_NON_GEO_ENTITY ∨ (regionCode = ns "MX" ∧ isFixedLineOrMobile)
    if international then
      if ← u.canBeInternationallyDialled numberNoExt then u.format numberNoExt .INTERNATIONAL
      else u.format numberNoExt .NATIONAL
    else u.format numberNoExt .NATIONAL

/-- What is dialled of a number whose calling code is valid and that has no extension. -/
def formatWithoutExtension (numberNoExt : NBPhoneNumber) (regionCallingFrom : Option NSString)
    (withFormatting : Bool) : Objc NSString := do
  let regionCode := u.getRegionCodeForCountryCode numberNoExt.countryCode
  let finish (formattedNumber : NSString) : NSString :=
    if withFormatting then formattedNumber else u.normalizeHelper DIALLABLE_CHAR_MAPPINGS true formattedNumber
  if regionCallingFrom = some regionCode then return finish (← u.formatForOwnRegion numberNoExt regionCode)
  else if ← u.canBeInternationallyDialled numberNoExt then
    -- neither of these is normalized
    if withFormatting then u.format numberNoExt .INTERNATIONAL else u.format numberNoExt .E164
  else return finish []

def formatNumberForMobileDialing (number : NBPhoneNumber) (regionCallingFrom : Option NSString)
    (withFormatting : Bool) : Objc NSString :=
  if !u.hasValidCountryCallingCode number.countryCode then
    .ok (if hasValue number.rawInput then number.rawInput.getD [] else [])
  else u.formatWithoutExtension { number with extension := some [] } regionCallingFrom withFormatting

end MobileDialling

end NBPhoneNumberUtil

end SignalPods.PhoneNumber
