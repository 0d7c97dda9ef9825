import SignalPods.Foundation.Unicode
import SignalPods.Foundation.RegularExpressions

namespace SignalPods.PhoneNumber

open Foundation

structure NBPhoneNumberDesc where
  nationalNumberPattern : Option NSString := none
  possibleLength : Option (List Int) := none
  possibleLengthLocalOnly : Option (List Int) := none
  deriving DecidableEq, Repr

structure NBNumberFormat where
  pattern : Option NSString := none
  format : Option NSString := none
  leadingDigitsPatterns : List NSString := []
  nationalPrefixFormattingRule : Option NSString := none
  nationalPrefixOptionalWhenFormatting : Bool := false
  domesticCarrierCodeFormattingRule : Option NSString := none
  deriving DecidableEq, Repr

structure NBPhoneMetaData where
  generalDesc : NBPhoneNumberDesc := {}
  fixedLine : NBPhoneNumberDesc := {}
  mobile : NBPhoneNumberDesc := {}
  tollFree : NBPhoneNumberDesc := {}
  premiumRate : NBPhoneNumberDesc := {}
  sharedCost : NBPhoneNumberDesc := {}
  personalNumber : NBPhoneNumberDesc := {}
  voip : NBPhoneNumberDesc := {}
  pager : NBPhoneNumberDesc := {}
  uan : NBPhoneNumberDesc := {}
  voicemail : NBPhoneNumberDesc := {}
  noInternationalDialling : NBPhoneNumberDesc := {}
  countryCode : Option Int := none
  internationalPrefix : Option NSString := none
  preferredInternationalPrefix : Option NSString := none
  nationalPrefix : Option NSString := none
  preferredExtnPrefix : Option NSString := none
  nationalPrefixForParsing : Option NSString := none
  nationalPrefixTransformRule : Option NSString := none
  sameMobileAndFixedLinePattern : Bool := false
  numberFormats : List NBNumberFormat := []
  intlNumberFormats : List NBNumberFormat := []
  leadingDigits : Option NSString := none
  deriving DecidableEq, Repr

/-- The two tables of the metadata, by the text of a calling code and by region. -/
structure NBMetadataHelper where
  countryCodeToRegionCodeMap : NSString → Option (List NSString)
  countryToMetadata : NSString → Option NBPhoneMetaData

inductive NBECountryCodeSource
  | FROM_NUMBER_WITH_PLUS_SIGN
  | FROM_NUMBER_WITH_IDD
  | FROM_NUMBER_WITHOUT_PLUS_SIGN
  | FROM_DEFAULT_COUNTRY
  deriving DecidableEq, Repr

inductive NBEValidationResult
  | INVALID_LENGTH
  | UNKNOWN
  | IS_POSSIBLE
  | INVALID_COUNTRY_CODE
  | TOO_SHORT
  | TOO_LONG
  | IS_POSSIBLE_LOCAL_ONLY
  deriving DecidableEq, Repr

inductive NBEPhoneNumberType
  | FIXED_LINE
  | MOBILE
  | FIXED_LINE_OR_MOBILE
  | TOLL_FREE
  | PREMIUM_RATE
  | SHARED_COST
  | VOIP
  | PERSONAL_NUMBER
  | PAGER
  | UAN
  | VOICEMAIL
  | UNKNOWN
  deriving DecidableEq, Repr

structure NBPhoneNumber where
  countryCode : Option Int := some (-1)
  nationalNumber : Option Int := some (-1)
  extension : Option NSString := none
  italianLeadingZero : Bool := false
  numberOfLeadingZeros : Option Int := some 1
  rawInput : Option NSString := none
  countryCodeSource : Option NBECountryCodeSource := none
  preferredDomesticCarrierCode : Option NSString := none
  deriving DecidableEq, Repr

/-- Nothing is equal to nil, nor nil to anything. -/
def isEqualToNumber : Option Int → Option Int → Bool
  | some a, some b => a == b
  | _, _ => false

def NBPhoneNumber.isEqual (self other : NBPhoneNumber) : Bool :=
  isEqualToNumber self.countryCode other.countryCode && isEqualToNumber self.nationalNumber other.nationalNumber &&
    self.italianLeadingZero == other.italianLeadingZero &&
    isEqualToNumber self.numberOfLeadingZeros other.numberOfLeadingZeros &&
    self.extension == other.extension

/-- The domains of the errors of `parse`. -/
inductive ErrorDomain
  | NOT_A_NUMBER
  | TOO_LONG
  | INVALID_COUNTRY_CODE
  | TOO_SHORT_AFTER_IDD
  | TOO_SHORT_NSN
  deriving DecidableEq, Repr

structure NSError where
  domain : ErrorDomain
  localizedDescription : NSString
  deriving DecidableEq, Repr

def NB_UNKNOWN_REGION : NSString := ns "ZZ"

def NB_REGION_CODE_FOR_NON_GEO_ENTITY : NSString := ns "001"

/-- `stringWithFormat:@"%@"` of a number. -/
def formatted (n : Option Int) : NSString := (n.map stringValue).getD (ns "(null)")

end SignalPods.PhoneNumber
