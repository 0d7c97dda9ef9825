import SignalPods.PhoneNumber.Metadata

namespace SignalPods.PhoneNumber

open Foundation

def NB_PLUS_CHARS : NSString := ns "+\uff0b"

def NB_VALID_DIGITS_STRING : NSString := ns "0-9\uff10-\uff19\u0660-\u0669\u06f0-\u06f9"

def MIN_LENGTH_FOR_NSN : Nat := 2

def MAX_LENGTH_FOR_NSN : Nat := 16

def MAX_LENGTH_COUNTRY_CODE : Nat := 3

def MAX_INPUT_STRING_LENGTH : Nat := 250

def VALID_PUNCTUATION : NSString := ns
  ("-x\u2010-\u2015\u2212\u30fc\uff0d-\uff0f \u00ad\u200b\u2060\u3000()\uff08\uff09\uff3b\uff3d.\\[" ++
  "\\]/~\u2053\u223c\uff5e")

def RFC3966_EXTN_PREFIX : NSString := ns ";ext="

def RFC3966_PREFIX : NSString := ns "tel:"

def RFC3966_PHONE_CONTEXT : NSString := ns ";phone-context="

def RFC3966_ISDN_SUBADDRESS : NSString := ns ";isub="

def DEFAULT_EXTN_PREFIX : NSString := ns " ext. "

def VALID_ALPHA : NSString := ns "A-Za-z"

def VALID_ALPHA_PHONE_PATTERN_STRING : NSString := ns "(?:.*?[A-Za-z])\x7b3\x7d.*"

def CAPTURING_DIGIT_PATTERN : NSString := ns "([" ++ NB_VALID_DIGITS_STRING ++ ns "])"

def EXTN_PATTERNS_FOR_PARSING : NSString := ns
  ("(?:;ext=([0-9\uff10-\uff19\u0660-\u0669\u06f0-\u06f9]\x7b1,7\x7d)|[  \\t,]*(?:e?xt(?:ensi(?:o" ++
  "\u0301?|\u00f3))?n?|\uff45?\uff58\uff54\uff4e?|[,x\uff58X#\uff03~\uff5e]|int|anexo|\uff49\uff4e" ++
  "\uff54)[:\\.\uff0e]?[  \\t,-]*([0-9\uff10-\uff19\u0660-\u0669\u06f0-\u06f9]\x7b1,7\x7d)#?|[- ]+(" ++
  "[0-9\uff10-\uff19\u0660-\u0669\u06f0-\u06f9]\x7b1,5\x7d)#)$")

def LEADING_PLUS_CHARS_PATTERN : NSString := ns "^[" ++ NB_PLUS_CHARS ++ ns "]+"

def VALID_START_CHAR_PATTERN : NSString := ns "[" ++ NB_PLUS_CHARS ++ NB_VALID_DIGITS_STRING ++ ns "]"

def SECOND_NUMBER_START_PATTERN : NSString := ns "[\\\\\\/] *x"

def UNWANTED_END_CHAR_PATTERN : NSString := ns "[^" ++ NB_VALID_DIGITS_STRING ++ VALID_ALPHA ++ ns "#]+$"

def EXTN_PATTERN : NSString := ns "(?:" ++ EXTN_PATTERNS_FOR_PARSING ++ ns ")$"

def SEPARATOR_PATTERN : NSString := ns "[" ++ VALID_PUNCTUATION ++ ns "]+"

def VALID_PHONE_NUMBER_PATTERN : NSString := ns "^[0-9" ++ ns
  ("\uff10-\uff19\u0660-\u0669\u06f0-\u06f9]\x7b2\x7d$|^[+\uff0b]*(?:[-x\u2010-\u2015\u2212" ++
  "\u30fc\uff0d-\uff0f  \u00ad\u200b\u2060\u3000()\uff08\uff09\uff3b\uff3d.\\[\\]/~\u2053\u223c" ++
  "\uff5e*]*[0-9\uff10-\uff19\u0660-\u0669\u06f0-\u06f9])\x7b3,\x7d[-x\u2010-\u2015\u2212\u30fc" ++
  "\uff0d-\uff0f  \u00ad\u200b\u2060\u3000()\uff08\uff09\uff3b\uff3d.\\[\\]/~\u2053\u223c\uff5e*A-Z" ++
  "a-z0-9\uff10-\uff19\u0660-\u0669\u06f0-\u06f9]*(?:;ext=([0-9\uff10-\uff19\u0660-\u0669\u06f0-" ++
  "\u06f9]\x7b1,7\x7d)|[  \\t,]*(?:e?xt(?:ensi(?:o\u0301?|\u00f3))?n?|\uff45?\uff58\uff54\uff4e?|[," ++
  "x\uff58#\uff03~\uff5e]|int|anexo|\uff49\uff4e\uff54)[:\\.\uff0e]?[  \\t,-]*([0-9\uff10-\uff19" ++
  "\u0660-\u0669\u06f0-\u06f9]\x7b1,7\x7d)#?|[- ]+([0-9\uff10-\uff19\u0660-\u0669\u06f0-\u06f9]\x7b" ++
  "1,5\x7d)#)?$")

/-- The digit a unit stands for in a block of ten. -/
def digitInBlock (start c : unichar) : Option unichar := if start ≤ c && c ≤ start + 9 then some (c - start + 48) else none

def DIGIT_MAPPINGS (c : unichar) : Option unichar :=
  (digitInBlock 48 c).or <| (digitInBlock 0xff10 c).or <| (digitInBlock 0x660 c).or <| (digitInBlock 0x6f0 c).or <|
    (digitInBlock 0x9e6 c).or <| digitInBlock 0x966 c

/-- The digits and the letters of a telephone keypad. -/
def ALL_NORMALIZATION_MAPPINGS (c : unichar) : Option unichar :=
  (digitInBlock 48 c).or <| (digitInBlock 0xff10 c).or <| (digitInBlock 0x660 c).or <| (digitInBlock 0x6f0 c).or <|
    if 65 ≤ c && c ≤ 90 then (ns "22233344455566677778889999")[c.toNat - 65]? else none

def hasValue (s : Option NSString) : Bool :=
  match s with
  | some s => !(stringByTrimming s).isEmpty
  | none => false

namespace NBPhoneNumberDesc

/-- The possible lengths; a list that is nil counts as empty. -/
def lengths (desc : NBPhoneNumberDesc) : List Int := desc.possibleLength.getD []

def localLengths (desc : NBPhoneNumberDesc) : List Int := desc.possibleLengthLocalOnly.getD []

def descHasPossibleNumberData (desc : NBPhoneNumberDesc) : Bool :=
  desc.lengths.length != 1 || !(desc.lengths.head? == some (-1))

end NBPhoneNumberDesc

namespace NBPhoneMetaData

/-- The description of a type; the metadata never has a nil one. -/
def getNumberDescByType (metadata : NBPhoneMetaData) : NBEPhoneNumberType → NBPhoneNumberDesc
  | .PREMIUM_RATE => metadata.premiumRate
  | .TOLL_FREE => metadata.tollFree
  | .MOBILE => metadata.mobile
  | .FIXED_LINE => metadata.fixedLine
  | .FIXED_LINE_OR_MOBILE => metadata.fixedLine
  | .SHARED_COST => metadata.sharedCost
  | .VOIP => metadata.voip
  | .PERSONAL_NUMBER => metadata.personalNumber
  | .PAGER => metadata.pager
  | .UAN => metadata.uan
  | .VOICEMAIL => metadata.voicemail
  | .UNKNOWN => metadata.generalDesc

/-- The lengths of a description, those of the general one where it has none. -/
def possibleLengths (metadata : NBPhoneMetaData) (desc : NBPhoneNumberDesc) : List Int :=
  if desc.lengths.length = 0 then metadata.generalDesc.lengths else desc.lengths

end NBPhoneMetaData

/-- `NBPhoneNumberUtil` with the services it is built over. -/
structure NBPhoneNumberUtil where
  unicode : Unicode
  regex : NSRegularExpressions
  helper : NBMetadataHelper
  /-- Region codes are compared by identity: equal ones need not be one object. -/
  sameObject : NSString → NSString → Bool
  sameObject_eq : ∀ a b, sameObject a b = true → a = b
  errorDescription : NSError → NSString

namespace NBPhoneNumberUtil

variable (u : NBPhoneNumberUtil)

section Regex

def stringPositionByRegex (s pattern : NSString) : Int :=
  if s.isEmpty || pattern.isEmpty then -1
  else
    match u.regex.allMatches pattern s with
    | result :: _ => result.range.location
    | [] => -1

def indexOfStringByString (s target : NSString) : Int :=
  match u.unicode.rangeOfString s target with
  | some location => location
  | none => -1

def replaceFirstStringByRegex (s pattern template : NSString) : NSString :=
  match u.regex.allMatches pattern s with
  | result :: _ => u.regex.stringByReplacingMatches pattern s result.range template
  | [] => s

def replaceStringByRegex (s pattern template : NSString) : NSString :=
  match u.regex.allMatches pattern s with
  | [] => s
  | [result] => u.regex.stringByReplacingMatches pattern s result.range template
  | _ => u.regex.stringByReplacingMatches pattern s ⟨0, s.length⟩ template

def isStartingStringByRegex (s pattern : NSString) : Bool :=
  (u.regex.allMatches pattern s).any fun result => result.range.location == 0

/-- A pattern with an anchor of its own is taken as it is. -/
def entireRegularExpressionWithPattern (pattern : NSString) : NSString :=
  if pattern.contains 94 then pattern else ns "^(?:" ++ pattern ++ ns ")$"

def matchesPattern (pattern s : NSString) : Bool :=
  if pattern = ns "NA" then false
  else
    match u.regex.firstAnchoredMatch (entireRegularExpressionWithPattern pattern) s with
    | some result => result.range = ⟨0, s.length⟩
    | none => false

/-- No regular expression is made of a nil pattern. -/
def matchesEntirely (pattern : Option NSString) (s : NSString) : Objc Bool :=
  match pattern with
  | some pattern => .ok (u.matchesPattern pattern s)
  | none => .error .invalidArgumentException

end Regex

section Normalization

def normalizeNonBreakingSpace (s : NSString) : NSString := u.unicode.stringByReplacingUnit 0xa0 0x20 s

def normalizeDigitsOnly (number : NSString) : NSString := (u.normalizeNonBreakingSpace number).filterMap DIGIT_MAPPINGS

/-- What a table has for the upper case of a unit. -/
def newDigit (normalizationReplacements : unichar → Option unichar) (c : unichar) : Option unichar :=
  match u.unicode.uppercaseString [c] with
  | [upper] => normalizationReplacements upper
  | _ => none

def normalizeHelper (normalizationReplacements : unichar → Option unichar) (removeNonMatches : Bool)
    (sourceString : NSString) : NSString :=
  sourceString.flatMap fun c =>
    match u.newDigit normalizationReplacements c with
    | some newDigit => [newDigit]
    | none => if removeNonMatches then [] else [c]

def normalize (number : NSString) : NSString :=
  if u.matchesPattern VALID_ALPHA_PHONE_PATTERN_STRING number then
    u.normalizeHelper ALL_NORMALIZATION_MAPPINGS true number
  else u.normalizeDigitsOnly number

def isViablePhoneNumber (phoneNumber : NSString) : Bool :=
  let phoneNumber := u.normalizeNonBreakingSpace phoneNumber
  if phoneNumber.length < MIN_LENGTH_FOR_NSN then false else u.matchesPattern VALID_PHONE_NUMBER_PATTERN phoneNumber

end Normalization

section Metadata

def regionCodeFromCountryCode (countryCode : Option Int) : Option (List NSString) :=
  match countryCode with
  | some countryCode =>
    match u.helper.countryCodeToRegionCodeMap (stringValue countryCode) with
    | some [] => none
    | regionCodes => regionCodes
  | none => none

def getMetadataForRegion (regionCode : Option NSString) : Option NBPhoneMetaData :=
  match regionCode with
  | some regionCode =>
    let regionCode := stringByTrimming regionCode
    if regionCode.isEmpty then none else u.helper.countryToMetadata (u.unicode.uppercaseString regionCode)
  | none => none

def getMetadataForNonGeographicalRegion (countryCallingCode : Option Int) : Option NBPhoneMetaData :=
  u.getMetadataForRegion (countryCallingCode.map stringValue)

def getMetadataForRegionOrCallingCode (countryCallingCode : Option Int) (regionCode : Option NSString) :
    Option NBPhoneMetaData :=
  if regionCode = some NB_REGION_CODE_FOR_NON_GEO_ENTITY then u.getMetadataForNonGeographicalRegion countryCallingCode
  else u.getMetadataForRegion regionCode

def getRegionCodeForCountryCode (countryCallingCode : Option Int) : NSString :=
  match u.regionCodeFromCountryCode countryCallingCode with
  | some (regionCode :: _) => regionCode
  | _ => NB_UNKNOWN_REGION

def isValidRegionCode (regionCode : Option NSString) : Bool :=
  match regionCode with
  | some code =>
    hasValue regionCode && !u.unicode.hasOnlyDecimalDigits code &&
      (u.getMetadataForRegion (some (u.unicode.uppercaseString code))).isSome
  | none => false

def hasValidCountryCallingCode (countryCallingCode : Option Int) : Bool :=
  (u.regionCodeFromCountryCode countryCallingCode).isSome

end Metadata

section Lengths

/-- The verdict on a length, once the lists are chosen. -/
def lengthVerdict (possibleLengths localLengths : List Int) (actualLength : Int) : NBEValidationResult :=
  if possibleLengths.head? = some (-1) then .INVALID_LENGTH
  else if localLengths.contains actualLength then .IS_POSSIBLE_LOCAL_ONLY
  else
    match possibleLengths with
    -- a nil first length compares as the same
    | [] => .IS_POSSIBLE
    | minimumLength :: longer =>
      if minimumLength = actualLength then .IS_POSSIBLE
      else if actualLength < minimumLength then .TOO_SHORT
      else if (minimumLength :: longer).getLast (List.cons_ne_nil _ _) < actualLength then .TOO_LONG
      else if longer.contains actualLength then .IS_POSSIBLE
      else .INVALID_LENGTH

/-- The verdict by the lists of one type. -/
def validateNumberLengthAlone (number : NSString) (metadata : NBPhoneMetaData) (type : NBEPhoneNumberType) :
    NBEValidationResult :=
  let descForType := metadata.getNumberDescByType type
  lengthVerdict (metadata.possibleLengths descForType) descForType.localLengths number.length

/-- `validateNumberLength:metadata:type:`. -/
def validateNumberLengthOfType (number : NSString) (metadata : NBPhoneMetaData) (type : NBEPhoneNumberType) :
    NBEValidationResult :=
  if type = .FIXED_LINE_OR_MOBILE then
    let descForType := metadata.getNumberDescByType type
    -- the comment says that no data is available here, and the condition that some is
    if (metadata.getNumberDescByType .FIXED_LINE).descHasPossibleNumberData then
      validateNumberLengthAlone number metadata .MOBILE
    else
      let mobileDesc := metadata.getNumberDescByType .MOBILE
      if mobileDesc.descHasPossibleNumberData then
        let possibleLengths := (metadata.possibleLengths descForType ++ metadata.possibleLengths mobileDesc).mergeSort
        let localLengths :=
          if descForType.localLengths.length = 0 then mobileDesc.localLengths
          else (descForType.localLengths ++ mobileDesc.localLengths).mergeSort
        lengthVerdict possibleLengths localLengths number.length
      else validateNumberLengthAlone number metadata type
  else validateNumberLengthAlone number metadata type

def validateNumberLength (number : NSString) (metadata : NBPhoneMetaData) : NBEValidationResult :=
  validateNumberLengthOfType number metadata .UNKNOWN

/-- The first length of an empty list is out of range, that of a nil list is nil. -/
def testNumberLength (number : NSString) (desc : NBPhoneNumberDesc) : Objc NBEValidationResult :=
  let actualLength := number.length
  if (desc.possibleLengthLocalOnly.getD []).contains (actualLength : Int) then .ok .IS_POSSIBLE
  else
    match desc.possibleLength with
    | none => .ok (if actualLength = 0 then .IS_POSSIBLE else .TOO_LONG)
    | some [] => .error .rangeException
    | some (minimumLength :: longer) =>
      if unsignedIntegerValue minimumLength = actualLength then .ok .IS_POSSIBLE
      else if unsignedIntegerValue minimumLength > actualLength then .ok .TOO_SHORT
      else if unsignedIntegerValue ((minimumLength :: longer).getLast (List.cons_ne_nil _ _)) < actualLength then
        .ok .TOO_LONG
      else if (minimumLength :: longer).contains (actualLength : Int) then .ok .IS_POSSIBLE
      else .ok .TOO_LONG

end Lengths

end NBPhoneNumberUtil

end SignalPods.PhoneNumber
