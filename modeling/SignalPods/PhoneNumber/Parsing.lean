import SignalPods.PhoneNumber.PhoneNumberUtil

namespace SignalPods.PhoneNumber

open Foundation

namespace NBPhoneNumberUtil

variable (u : NBPhoneNumberUtil)

def extractPossibleNumber (number : NSString) : Objc NSString := do
  let number := u.normalizeNonBreakingSpace number
  let start := u.stringPositionByRegex number VALID_START_CHAR_PATTERN
  if start ≥ 0 then
    let possibleNumber ← substringFromIndex number start.toNat
    let possibleNumber := u.replaceStringByRegex possibleNumber UNWANTED_END_CHAR_PATTERN []
    let secondNumberStart := u.stringPositionByRegex possibleNumber SECOND_NUMBER_START_PATTERN
    if secondNumberStart > 0 then substringWithRange possibleNumber ⟨0, secondNumberStart.toNat⟩
    else return possibleNumber
  else return []

/-- The phone context when it is a number, without the parameters after it. -/
def phoneContextNumber (numberToParse : NSString) (phoneContextStart : Nat) : Objc NSString := do
  if (← characterAtIndex numberToParse phoneContextStart) = 43 then
    match literalSearch (numberToParse.drop phoneContextStart) (ns ";") with
    | some foundRange => substringWithRange numberToParse ⟨phoneContextStart, foundRange⟩
    | none => substringFromIndex numberToParse phoneContextStart
  else return []

/-- Everything between the prefix and the phone context. An absent prefix has
index -1, so that three units are skipped. -/
def textBeforePhoneContext (numberToParse : NSString) (indexOfPhoneContext : Int) : Objc NSString :=
  let rfc3966Start := nsUInteger (u.indexOfStringByString numberToParse RFC3966_PREFIX + RFC3966_PREFIX.length)
  substringWithRange numberToParse ⟨rfc3966Start, nsUInteger (indexOfPhoneContext - rfc3966Start)⟩

/-- The phone context and the text before it, or the possible number if there is no context. -/
def numberWithPhoneContext (numberToParse : NSString) : Objc NSString := do
  let indexOfPhoneContext := u.indexOfStringByString numberToParse RFC3966_PHONE_CONTEXT
  if indexOfPhoneContext > 0 then
    let context ← phoneContextNumber numberToParse (nsUInteger (indexOfPhoneContext + RFC3966_PHONE_CONTEXT.length))
    let text ← u.textBeforePhoneContext numberToParse indexOfPhoneContext
    return context ++ text
  else u.extractPossibleNumber numberToParse

/-- The ISDN subaddress and all after it are deleted. -/
def withoutIsdnSubaddress (result : NSString) : Objc NSString :=
  let indexOfIsdn := u.indexOfStringByString result RFC3966_ISDN_SUBADDRESS
  if indexOfIsdn > 0 then substringWithRange result ⟨0, indexOfIsdn.toNat⟩ else .ok result

def buildNationalNumberForParsing (numberToParse : NSString) : Objc NSString := do
  u.withoutIsdnSubaddress (← u.numberWithPhoneContext numberToParse)

/-- The first group of the extension pattern that captured something. -/
def capturedExtension (number : NSString) : List (Option NSRange) → Objc (Option NSString)
  | [] => .ok none
  | none :: groups => capturedExtension number groups
  | some range :: groups =>
    if range.location < number.length then (substringWithRange number range).map some
    else capturedExtension number groups

/-- The extension, and the number without it. -/
def maybeStripExtension (number : NSString) : Objc (NSString × NSString) := do
  let mStart := u.stringPositionByRegex number EXTN_PATTERN
  if mStart ≥ 0 then
    let tokenedString ← substringWithRange number ⟨0, mStart.toNat⟩
    if u.isViablePhoneNumber tokenedString then
      match u.regex.allMatches EXTN_PATTERN number with
      | firstMatch :: _ =>
        match ← capturedExtension number firstMatch.groups with
        | some matchString => return (matchString, tokenedString)
        | none => return ([], number)
      | [] => return ([], number)
    else return ([], number)
  else return ([], number)

/-- Whether an international prefix was stripped, and the number without it. -/
def parsePrefixAsIdd (iddPattern number : NSString) : Objc (Bool × NSString) := do
  if u.stringPositionByRegex number iddPattern = 0 then
    match u.regex.allMatches iddPattern number with
    | [] => throw .rangeException
    | matched :: _ =>
      let matchedString ← substringWithRange number matched.range
      let remainString ← substringFromIndex number matchedString.length
      match u.regex.allMatches CAPTURING_DIGIT_PATTERN remainString with
      | [] => return (true, remainString)
      | matchedGroup :: _ =>
        let digitMatched ← substringWithRange remainString matchedGroup.range
        if digitMatched.length > 0 ∧ u.normalizeDigitsOnly digitMatched = ns "0" then return (false, number)
        else return (true, remainString)
  else return (false, number)

def maybeStripInternationalPrefixAndNormalize (number possibleIddPrefix : NSString) :
    Objc (NBECountryCodeSource × NSString) := do
  if number.isEmpty then return (.FROM_DEFAULT_COUNTRY, number)
  else if u.isStartingStringByRegex number LEADING_PLUS_CHARS_PATTERN then
    return (.FROM_NUMBER_WITH_PLUS_SIGN, u.normalize (u.replaceStringByRegex number LEADING_PLUS_CHARS_PATTERN []))
  else
    let (stripped, number) ← u.parsePrefixAsIdd possibleIddPrefix (u.normalize number)
    return (if stripped then .FROM_NUMBER_WITH_IDD else .FROM_DEFAULT_COUNTRY, number)

/-- Whether a national prefix was stripped, with the number and the carrier code after that. -/
structure StrippedPrefix where
  stripped : Bool
  number : NSString
  carrierCode : Option NSString
  deriving DecidableEq, Repr

def nationalPrefixPattern (possibleNationalPrefix : NSString) : NSString := ns "^(?:" ++ possibleNationalPrefix ++ ns ")"

/-- The text of the last group of a match, nil when it took no part or is at the end. -/
def lastGroup (number : NSString) (firstMatch : NSTextCheckingResult) : Objc (Option NSString) :=
  match firstMatch.rangeAtIndex (firstMatch.numberOfRanges - 1) with
  | some range =>
    if range.location < number.length then (substringWithRange number range).map some else .ok none
  | none => .ok none

/-- The number with the matched prefix removed, or transformed when there is a
rule for it and the last group captured something. -/
def transformedNumber (number : NSString) (metadata : NBPhoneMetaData) (pattern firstMatchString : NSString)
    (group : Option NSString) : Objc (Bool × NSString) :=
  match metadata.nationalPrefixTransformRule with
  | some transformRule =>
    if transformRule.isEmpty || !hasValue group then
      (substringFromIndex number firstMatchString.length).map (Prod.mk true)
    else .ok (false, u.replaceFirstStringByRegex number pattern transformRule)
  | none => (substringFromIndex number firstMatchString.length).map (Prod.mk true)

/-- The number matches the rule and what it is transformed to does not. -/
def losesViability (nationalNumberRule : Option NSString) (number transformed : NSString) : Bool :=
  match nationalNumberRule with
  | some rule => hasValue (some rule) && u.matchesPattern rule number && !u.matchesPattern rule transformed
  | none => false

def appendCarrierCode (carrierCode text : Option NSString) : Objc (Option NSString) :=
  match carrierCode with
  | some carrierCode => (stringByAppendingString carrierCode text).map some
  | none => .ok none

def maybeStripNationalPrefixAndCarrierCode (number : NSString) (metadata : NBPhoneMetaData)
    (carrierCode : Option NSString) : Objc StrippedPrefix := do
  let possibleNationalPrefix := metadata.nationalPrefixForParsing
  if number.isEmpty || !hasValue possibleNationalPrefix then return ⟨false, number, carrierCode⟩
  else
    let prefixPattern := nationalPrefixPattern (possibleNationalPrefix.getD [])
    match u.regex.allMatches prefixPattern number with
    | [] => return ⟨false, number, carrierCode⟩
    | firstMatch :: _ =>
      let nationalNumberRule := metadata.generalDesc.nationalNumberPattern
      let firstMatchString ← substringWithRange number firstMatch.range
      let numOfGroups := firstMatch.numberOfRanges - 1
      let firstMatchStringWithGroup ← lastGroup number firstMatch
      let (noTransform, transformed) ←
        u.transformedNumber number metadata prefixPattern firstMatchString firstMatchStringWithGroup
      if u.losesViability nationalNumberRule number transformed then return ⟨false, number, carrierCode⟩
      else if (noTransform && 0 < numOfGroups && hasValue firstMatchStringWithGroup) ||
          (!noTransform && 1 < numOfGroups) then
        return ⟨true, transformed, ← appendCarrierCode carrierCode firstMatchStringWithGroup⟩
      else if (noTransform && 0 < numOfGroups && hasValue (some firstMatchString)) ||
          (!noTransform && 1 < numOfGroups) then
        return ⟨true, transformed, ← appendCarrierCode carrierCode (some firstMatchString)⟩
      else return ⟨true, transformed, carrierCode⟩

/-- The first of some lengths whose digits are a calling code, and what follows them. -/
def callingCodeOfLength (fullNumber : NSString) : List Nat → Objc (Option (Int × NSString))
  | [] => .ok none
  | i :: lengths =>
    if i ≤ fullNumber.length then do
      let potentialCountryCode := integerValue (← substringWithRange fullNumber ⟨0, i⟩)
      if (u.regionCodeFromCountryCode (some potentialCountryCode)).isSome then
        return some (potentialCountryCode, ← substringFromIndex fullNumber i)
      else callingCodeOfLength fullNumber lengths
    else .ok none

/-- The calling code, zero if there is none, and the national number with the rest appended. -/
def extractCountryCode (fullNumber nationalNumber : NSString) : Objc (Int × NSString) := do
  let fullNumber := u.normalizeNonBreakingSpace fullNumber
  if fullNumber.isEmpty then return (0, nationalNumber)
  else if (← substringToIndex fullNumber 1) = ns "0" then return (0, nationalNumber)
  else
    let maxCountryCode :=
      if u.unicode.hasPrefix fullNumber (ns "+") then MAX_LENGTH_COUNTRY_CODE + 1 else MAX_LENGTH_COUNTRY_CODE
    match ← u.callingCodeOfLength fullNumber (List.range' 1 maxCountryCode) with
    | some (countryCode, rest) => return (countryCode, nationalNumber ++ rest)
    | none => return (0, nationalNumber)

/-- What `maybeExtractCountryCode` returns and leaves in its out parameters. -/
structure Extraction where
  countryCode : Option Int
  nationalNumber : NSString
  phoneNumber : NBPhoneNumber
  error : Option NSError := none
  deriving DecidableEq, Repr

/-- With a number in international format. -/
def extractInternational (fullNumber nationalNumber : NSString) (phoneNumber : NBPhoneNumber) : Objc Extraction := do
  if fullNumber.length ≤ MIN_LENGTH_FOR_NSN then
    return ⟨some 0, nationalNumber, phoneNumber, some ⟨.TOO_SHORT_AFTER_IDD, ns "TOO_SHORT_AFTER_IDD:" ++ fullNumber⟩⟩
  else
    let (potentialCountryCode, nationalNumber) ← u.extractCountryCode fullNumber nationalNumber
    if potentialCountryCode ≠ 0 then
      return ⟨some potentialCountryCode, nationalNumber, { phoneNumber with countryCode := some potentialCountryCode }, none⟩
    else
      return ⟨some 0, nationalNumber, phoneNumber,
        some ⟨.INVALID_COUNTRY_CODE, ns "INVALID_COUNTRY_CODE:" ++ stringValue potentialCountryCode⟩⟩

/-- Whether a number that starts with the calling code of the default region is
taken to be one without its plus sign, and what it is then. -/
def withoutDefaultCountryCode (fullNumber : NSString) (metadata : NBPhoneMetaData) : Objc (Option NSString) := do
  let defaultCountryCodeString := formatted metadata.countryCode
  if u.unicode.hasPrefix fullNumber defaultCountryCodeString then
    let potentialNationalNumber ← substringFromIndex fullNumber defaultCountryCodeString.length
    let validNumberPattern := metadata.generalDesc.nationalNumberPattern
    let stripped ← u.maybeStripNationalPrefixAndCarrierCode potentialNationalNumber metadata none
    let better := !(← u.matchesEntirely validNumberPattern fullNumber) &&
      (← u.matchesEntirely validNumberPattern stripped.number)
    if better then return some stripped.number
    else if (← testNumberLength fullNumber metadata.generalDesc) = .TOO_LONG then return some stripped.number
    else return none
  else return none

def possibleCountryIddPrefix (defaultRegionMetadata : Option NBPhoneMetaData) : NSString :=
  match defaultRegionMetadata with
  | some metadata => metadata.internationalPrefix.getD (ns "NonMatch")
  | none => []

def maybeExtractCountryCode (number : NSString) (defaultRegionMetadata : Option NBPhoneMetaData)
    (nationalNumber : NSString) (keepRawInput : Bool) (phoneNumber : NBPhoneNumber) : Objc Extraction := do
  if number.isEmpty then return ⟨some 0, nationalNumber, phoneNumber, none⟩
  else
    let (countryCodeSource, fullNumber) ←
      u.maybeStripInternationalPrefixAndNormalize number (possibleCountryIddPrefix defaultRegionMetadata)
    let phoneNumber :=
      if keepRawInput then { phoneNumber with countryCodeSource := some countryCodeSource } else phoneNumber
    if countryCodeSource ≠ .FROM_DEFAULT_COUNTRY then u.extractInternational fullNumber nationalNumber phoneNumber
    else
      match defaultRegionMetadata with
      | none => return ⟨some 0, nationalNumber, { phoneNumber with countryCode := some 0 }, none⟩
      | some metadata =>
        match ← u.withoutDefaultCountryCode fullNumber metadata with
        | some potentialNationalNumber =>
          let phoneNumber :=
            if keepRawInput then { phoneNumber with countryCodeSource := some .FROM_NUMBER_WITHOUT_PLUS_SIGN }
            else phoneNumber
          return ⟨metadata.countryCode, nationalNumber ++ potentialNationalNumber,
            { phoneNumber with countryCode := metadata.countryCode }, none⟩
        | none => return ⟨some 0, nationalNumber, { phoneNumber with countryCode := some 0 }, none⟩

def checkRegionForParsing (numberToParse : NSString) (defaultRegion : Option NSString) : Bool :=
  u.isValidRegionCode defaultRegion ||
    (!numberToParse.isEmpty && u.isStartingStringByRegex numberToParse LEADING_PLUS_CHARS_PATTERN)

def setItalianLeadingZerosForPhoneNumber (nationalNumber : NSString) (phoneNumber : NBPhoneNumber) : NBPhoneNumber :=
  if nationalNumber.length > 1 && u.unicode.hasPrefix nationalNumber (ns "0") then
    -- the last of nothing but zeros is not counted
    let numberOfLeadingZeros := 1 + ((nationalNumber.drop 1).dropLast.takeWhile (· == 48)).length
    { phoneNumber with
      italianLeadingZero := true
      numberOfLeadingZeros :=
        if numberOfLeadingZeros ≠ 1 then some numberOfLeadingZeros else phoneNumber.numberOfLeadingZeros }
  else phoneNumber

/-- The extraction of the calling code, tried once more without the plus signs
when they are followed by no calling code. -/
def extractForParsing (number : NSString) (regionMetadata : Option NBPhoneMetaData) (keepRawInput : Bool)
    (phoneNumber : NBPhoneNumber) : Objc (Except NSError Extraction) := do
  let extraction ← u.maybeExtractCountryCode number regionMetadata [] keepRawInput phoneNumber
  match extraction.error with
  | none => return .ok extraction
  | some anError =>
    let wrapped : NSError := ⟨anError.domain, u.errorDescription anError⟩
    if anError.domain = .INVALID_COUNTRY_CODE ∧ u.stringPositionByRegex number LEADING_PLUS_CHARS_PATTERN ≥ 0 then
      let number := u.replaceStringByRegex number LEADING_PLUS_CHARS_PATTERN []
      let again ← u.maybeExtractCountryCode number regionMetadata extraction.nationalNumber keepRawInput
        extraction.phoneNumber
      if isEqualToNumber again.countryCode (some 0) then return .error wrapped else return .ok { again with error := none }
    else return .error wrapped

/-- The national number, the metadata to judge it by, and the number so far. -/
def resolveRegion (nationalNumber : NSString) (defaultRegion : Option NSString) (regionMetadata : Option NBPhoneMetaData)
    (keepRawInput : Bool) (extraction : Extraction) : NSString × Option NBPhoneMetaData × NBPhoneNumber :=
  if !isEqualToNumber extraction.countryCode (some 0) then
    let phoneNumberRegion := u.getRegionCodeForCountryCode extraction.countryCode
    let regionMetadata :=
      if defaultRegion.any (u.sameObject phoneNumberRegion) then regionMetadata
      else u.getMetadataForRegionOrCallingCode extraction.countryCode (some phoneNumberRegion)
    (extraction.nationalNumber, regionMetadata, extraction.phoneNumber)
  else
    let normalizedNationalNumber := extraction.nationalNumber ++ u.normalize nationalNumber
    let phoneNumber :=
      if defaultRegion.isSome then
        { extraction.phoneNumber with countryCode := regionMetadata.bind NBPhoneMetaData.countryCode }
      else if keepRawInput then { extraction.phoneNumber with countryCodeSource := none }
      else extraction.phoneNumber
    (normalizedNationalNumber, regionMetadata, phoneNumber)

/-- The national number without its prefix, unless that makes its length wrong. -/
def stripForParsing (normalizedNationalNumber : NSString) (regionMetadata : Option NBPhoneMetaData)
    (keepRawInput : Bool) (phoneNumber : NBPhoneNumber) : Objc (NSString × NBPhoneNumber) := do
  match regionMetadata with
  | none => return (normalizedNationalNumber, phoneNumber)
  | some metadata =>
    let stripped ← u.maybeStripNationalPrefixAndCarrierCode normalizedNationalNumber metadata (some [])
    let validationResult := validateNumberLength stripped.number metadata
    if validationResult ≠ .TOO_SHORT ∧ validationResult ≠ .IS_POSSIBLE_LOCAL_ONLY ∧ validationResult ≠ .INVALID_LENGTH then
      return (stripped.number,
        if keepRawInput then { phoneNumber with preferredDomesticCarrierCode := stripped.carrierCode } else phoneNumber)
    else return (normalizedNationalNumber, phoneNumber)

def tooShortNsn (nationalNumber : NSString) : NSError := ⟨.TOO_SHORT_NSN, ns "TOO_SHORT_NSN:" ++ nationalNumber⟩

def withExtension (extension : NSString) (phoneNumber : NBPhoneNumber) : NBPhoneNumber :=
  if extension.length > 0 then { phoneNumber with extension := some extension } else phoneNumber

/-- What `parseHelper` does once a candidate is viable and its region can be told. -/
def parseViable (candidate : NSString) (defaultRegion : Option NSString) (keepRawInput : Bool)
    (phoneNumber : NBPhoneNumber) : Objc (Except NSError NBPhoneNumber) := do
  let (number, nationalNumber) ← u.maybeStripExtension candidate
  let phoneNumber := withExtension number phoneNumber
  let regionMetadata := u.getMetadataForRegion defaultRegion
  match ← u.extractForParsing nationalNumber regionMetadata keepRawInput phoneNumber with
  | .error error => return .error error
  | .ok extraction =>
    let (normalizedNationalNumber, regionMetadata, phoneNumber) :=
      u.resolveRegion nationalNumber defaultRegion regionMetadata keepRawInput extraction
    if normalizedNationalNumber.length < MIN_LENGTH_FOR_NSN then return .error (tooShortNsn normalizedNationalNumber)
    else
      let (normalizedNationalNumber, phoneNumber) ←
        u.stripForParsing normalizedNationalNumber regionMetadata keepRawInput phoneNumber
      if normalizedNationalNumber.length < MIN_LENGTH_FOR_NSN then return .error (tooShortNsn normalizedNationalNumber)
      else if normalizedNationalNumber.length > MAX_LENGTH_FOR_NSN then
        return .error ⟨.TOO_LONG, ns "TOO_LONG:" ++ normalizedNationalNumber⟩
      else
        let phoneNumber := u.setItalianLeadingZerosForPhoneNumber normalizedNationalNumber phoneNumber
        return .ok { phoneNumber with nationalNumber := some (longLongValue normalizedNationalNumber) }

def parseHelper (numberToParse defaultRegion : Option NSString) (keepRawInput checkRegion : Bool) :
    Objc (Except NSError NBPhoneNumber) := do
  match numberToParse.map u.normalizeNonBreakingSpace with
  | none => return .error ⟨.NOT_A_NUMBER, ns "NOT_A_NUMBER:(null)"⟩
  | some numberToParse =>
    if numberToParse.length > MAX_INPUT_STRING_LENGTH then return .error ⟨.TOO_LONG, ns "TOO_LONG:" ++ numberToParse⟩
    else
      let nationalNumber ← u.buildNationalNumberForParsing numberToParse
      if !u.isViablePhoneNumber nationalNumber then return .error ⟨.NOT_A_NUMBER, ns "NOT_A_NUMBER:" ++ nationalNumber⟩
      else if checkRegion && !u.checkRegionForParsing nationalNumber defaultRegion then
        return .error ⟨.INVALID_COUNTRY_CODE, ns "INVALID_COUNTRY_CODE:" ++ defaultRegion.getD (ns "(null)")⟩
      else
        u.parseViable nationalNumber defaultRegion keepRawInput
          { rawInput := if keepRawInput then some numberToParse else none }

/-- What an entry point returns, and what it leaves in the caller's error. -/
structure Parsed where
  phoneNumber : Option NBPhoneNumber
  error : Option NSError
  deriving DecidableEq, Repr

def parse (numberToParse defaultRegion : Option NSString) : Objc Parsed := do
  match ← u.parseHelper numberToParse defaultRegion false true with
  | .ok phoneNumber => return ⟨some phoneNumber, none⟩
  | .error anError => return ⟨none, some ⟨anError.domain, u.errorDescription anError⟩⟩

/-- The error of a missing region is written before the parsing, which goes on. -/
def missingRegionError (numberToParse defaultRegion : Option NSString) : Option NSError :=
  match numberToParse with
  | some number =>
    if !u.isValidRegionCode defaultRegion && number.length > 0 && !u.unicode.hasPrefix number (ns "+") then
      some ⟨.INVALID_COUNTRY_CODE, ns "Invalid country code:" ++ number⟩
    else none
  | none => none

def parseAndKeepRawInput (numberToParse defaultRegion : Option NSString) : Objc Parsed := do
  let error := u.missingRegionError numberToParse defaultRegion
  match ← u.parseHelper numberToParse defaultRegion true true with
  | .ok phoneNumber => return ⟨some phoneNumber, error⟩
  | .error anError => return ⟨none, some anError⟩

end NBPhoneNumberUtil

end SignalPods.PhoneNumber
