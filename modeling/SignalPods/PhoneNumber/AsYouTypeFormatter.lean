import SignalPods.PhoneNumber.Parsing

namespace SignalPods.PhoneNumber

open Foundation

def NBDigitPlaceHolder : NSString := [0x2008]

def NBSeparatorBeforeNationalNumber : NSString := ns " "

def NBMinLeadingDigitsLength : Nat := 3

def PLUS_CHARS_PATTERN : NSString := ns "[" ++ NB_PLUS_CHARS ++ ns "]+"

def NATIONAL_PREFIX_SEPARATORS_PATTERN : NSString := ns "[- ]"

def CHARACTER_CLASS_PATTERN : NSString := ns "\\[([^\\[\\]])*\\]"

def STANDALONE_DIGIT_PATTERN : NSString := ns "\\d(?=[^,\x7d][^,\x7d])"

def ELIGIBLE_FORMAT_PATTERN : NSString := ns
  ("^[-x\u2010-\u2015\u2212\u30fc\uff0d-\uff0f \u00ad\u200b\u2060\u3000()\uff08\uff09\uff3b\uff3d.\\[" ++
  "\\]/~\u2053\u223c\uff5e]*(\\$\\d[-x\u2010-\u2015\u2212\u30fc\uff0d-\uff0f \u00ad\u200b\u2060\u3000()\uff08" ++
  "\uff09\uff3b\uff3d.\\[\\]/~\u2053\u223c\uff5e]*)+$")

def FIRST_GROUP_ONLY_PREFIX_PATTERN : NSString := ns "^\\(?\\$1\\)?"

namespace NBPhoneNumberUtil

variable (u : NBPhoneNumberUtil)

def matchedStringByRegex (s pattern : NSString) : List NSString :=
  (u.regex.allMatches pattern s).map fun result => slice s result.range

def formattingRuleHasFirstGroupOnly (nationalPrefixFormattingRule : NSString) : Bool :=
  nationalPrefixFormattingRule.isEmpty ||
    decide (u.stringPositionByRegex nationalPrefixFormattingRule FIRST_GROUP_ONLY_PREFIX_PATTERN ≥ 0)

def getCountryCodeForRegion (regionCode : Option NSString) : Option Int :=
  if u.isValidRegionCode regionCode then
    match u.getMetadataForRegion regionCode with
    | some metadata => metadata.countryCode
    | none => some 0
  else some 0

end NBPhoneNumberUtil

/-- Nil metadata answers as metadata without entries does. -/
structure NBAsYouTypeFormatter where
  currentOutput : NSString := []
  formattingTemplate : NSString := []
  currentFormattingPattern : NSString := []
  accruedInput : NSString := []
  accruedInputWithoutFormatting : NSString := []
  ableToFormat : Bool := true
  inputHasFormatting : Bool := false
  isCompleteNumber : Bool := false
  isExpectingCountryCallingCode : Bool := false
  lastMatchPosition : Nat := 0
  originalPosition : Nat := 0
  positionToRemember : Nat := 0
  prefixBeforeNationalNumber : NSString := []
  shouldAddSpaceAfterNationalPrefix : Bool := false
  nationalPrefixExtracted : NSString := []
  nationalNumber : NSString := []
  possibleFormats : List NBNumberFormat := []
  defaultCountry : Option NSString
  currentMetaData : NBPhoneMetaData
  defaultMetaData : NBPhoneMetaData
  isSuccessfulFormatting : Bool := false
  deriving DecidableEq, Repr

namespace NBAsYouTypeFormatter

variable (u : NBPhoneNumberUtil)

/-- The metadata of the main region of a region's calling code. -/
def getMetadataForRegion (regionCode : Option NSString) : NBPhoneMetaData :=
  let countryCallingCode := u.getCountryCodeForRegion regionCode
  let mainCountry := u.getRegionCodeForCountryCode countryCallingCode
  (u.getMetadataForRegion (some mainCountry)).getD {}

def initWithRegionCode (regionCode : Option NSString) : NBAsYouTypeFormatter where
  defaultCountry := regionCode
  currentMetaData := getMetadataForRegion u regionCode
  defaultMetaData := getMetadataForRegion u regionCode

section Templates

variable (self : NBAsYouTypeFormatter)

def isFormatEligible (format : Option NSString) : Bool :=
  match format with
  | some format => !format.isEmpty && !(u.regex.allMatches ELIGIBLE_FORMAT_PATTERN format).isEmpty
  | none => false

/-- Whether the leading digits take a format. With fewer than three of them
the length underflows, and the last pattern is the one to match. -/
def isLedBy (leadingDigits : NSString) (format : NBNumberFormat) : Bool :=
  let indexOfLeadingDigitsPattern := nsUInteger ((leadingDigits.length : Int) - NBMinLeadingDigitsLength)
  if format.leadingDigitsPatterns.isEmpty then true
  else
    let lastLeadingDigitsPattern := min indexOfLeadingDigitsPattern (format.leadingDigitsPatterns.length - 1)
    match format.leadingDigitsPatterns[lastLeadingDigitsPattern]? with
    | some leadingDigitsPattern => u.stringPositionByRegex leadingDigits leadingDigitsPattern == 0
    | none => false

def narrowDownPossibleFormats (leadingDigits : NSString) : NBAsYouTypeFormatter :=
  { self with possibleFormats := self.possibleFormats.filter (isLedBy u leadingDigits) }

def getAvailableFormats (leadingDigits : NSString) : NBAsYouTypeFormatter :=
  let isIntlNumberFormats := self.isCompleteNumber && !self.currentMetaData.intlNumberFormats.isEmpty
  let formatList :=
    if isIntlNumberFormats then self.currentMetaData.intlNumberFormats else self.currentMetaData.numberFormats
  let nationalPrefixIsUsedByCountry := !(self.currentMetaData.nationalPrefix.getD []).isEmpty
  let available := formatList.filter fun format =>
    (!nationalPrefixIsUsedByCountry || self.isCompleteNumber || format.nationalPrefixOptionalWhenFormatting ||
      u.formattingRuleHasFirstGroupOnly (format.nationalPrefixFormattingRule.getD [])) &&
      isFormatEligible u format.format
  narrowDownPossibleFormats u { self with possibleFormats := self.possibleFormats ++ available } leadingDigits

/-- The formatted number of nines that a pattern takes, with a placeholder for each of them. -/
def getFormattingTemplate (numberPattern numberFormat : NSString) : Objc NSString :=
  let longestPhoneNumber := ns "999999999999999"
  match u.matchedStringByRegex longestPhoneNumber numberPattern with
  | [] => if 0 < self.nationalNumber.length then .ok [] else .error .invalidArgumentException
  | aPhoneNumber :: _ =>
    if aPhoneNumber.length < self.nationalNumber.length then .ok []
    else
      let template := u.replaceStringByRegex aPhoneNumber numberPattern numberFormat
      .ok (u.replaceStringByRegex template (ns "9") NBDigitPlaceHolder)

/-- A pattern with each character class and each standalone digit made any digit. -/
def templatePattern (numberPattern : NSString) : NSString :=
  let numberPattern :=
    u.regex.stringByReplacingMatches CHARACTER_CLASS_PATTERN numberPattern ⟨0, numberPattern.length⟩ (ns "\\\\d")
  u.regex.stringByReplacingMatches STANDALONE_DIGIT_PATTERN numberPattern ⟨0, numberPattern.length⟩ (ns "\\\\d")

def createFormattingTemplate (pattern : NSString) (format : NBNumberFormat) : Objc (Bool × NBAsYouTypeFormatter) := do
  if (u.unicode.rangeOfString pattern (ns "|")).isSome then return (false, self)
  else
    let tempTemplate ← getFormattingTemplate u self (templatePattern u pattern) (format.format.getD [])
    return (!tempTemplate.isEmpty, { self with formattingTemplate := tempTemplate })

def hasNationalPrefixSeparator (nationalPrefixFormattingRule : NSString) : Bool :=
  !nationalPrefixFormattingRule.isEmpty &&
    !(u.regex.allMatches NATIONAL_PREFIX_SEPARATORS_PATTERN nationalPrefixFormattingRule).isEmpty

/-- The first of some formats of which a template can be made. -/
def firstTemplate (self : NBAsYouTypeFormatter) : List NBNumberFormat → Objc (Bool × NBAsYouTypeFormatter)
  | [] => .ok (false, { self with ableToFormat := false })
  | numberFormat :: formats => do
    let pattern := numberFormat.pattern.getD []
    if pattern.isEmpty || self.currentFormattingPattern == pattern then return (false, self)
    else
      let (created, self) ← createFormattingTemplate u self pattern numberFormat
      if created then
        return (true,
          { self with
            currentFormattingPattern := pattern
            shouldAddSpaceAfterNationalPrefix :=
              hasNationalPrefixSeparator u (numberFormat.nationalPrefixFormattingRule.getD [])
            lastMatchPosition := 0 })
      else firstTemplate self formats

def maybeCreateNewTemplate : Objc (Bool × NBAsYouTypeFormatter) := firstTemplate u self self.possibleFormats

/-- The first placeholder takes a digit. What is returned ends with it, or is
the whole input when there is no placeholder left. -/
def inputDigitHelper (nextChar : NSString) : Objc (NSString × NBAsYouTypeFormatter) := do
  let subedString := self.formattingTemplate.drop self.lastMatchPosition
  if u.stringPositionByRegex subedString NBDigitPlaceHolder ≥ 0 then
    let digitPatternStart := u.stringPositionByRegex self.formattingTemplate NBDigitPlaceHolder
    match u.unicode.rangeOfString self.formattingTemplate NBDigitPlaceHolder with
    | none => throw .rangeException
    | some location =>
      let tempTemplate :=
        self.formattingTemplate.take location ++ nextChar ++
          self.formattingTemplate.drop (location + NBDigitPlaceHolder.length)
      let lastMatchPosition := digitPatternStart.toNat
      return (← substringToIndex tempTemplate (lastMatchPosition + 1),
        { self with formattingTemplate := tempTemplate, lastMatchPosition := lastMatchPosition })
  else
    return (self.accruedInput,
      { self with
        ableToFormat := self.ableToFormat && self.possibleFormats.length != 1
        currentFormattingPattern := [] })

end Templates

section Output

variable (self : NBAsYouTypeFormatter)

def appendNationalNumber (nationalNumber : NSString) : NSString :=
  if self.shouldAddSpaceAfterNationalPrefix && !self.prefixBeforeNationalNumber.isEmpty &&
      self.prefixBeforeNationalNumber.getLast? != some 0x20 then
    self.prefixBeforeNationalNumber ++ NBSeparatorBeforeNationalNumber ++ nationalNumber
  else self.prefixBeforeNationalNumber ++ nationalNumber

/-- The national number by the first of some formats that it matches entirely. -/
def formatByFirstMatch (self : NBAsYouTypeFormatter) : List NBNumberFormat → NSString × NBAsYouTypeFormatter
  | [] => ([], self)
  | numberFormat :: formats =>
    let patternRegExp := ns "^(?:" ++ numberFormat.pattern.getD (ns "(null)") ++ ns ")$"
    if !(u.regex.allMatches patternRegExp self.nationalNumber).isEmpty then
      let self :=
        { self with
          shouldAddSpaceAfterNationalPrefix :=
            hasNationalPrefixSeparator u (numberFormat.nationalPrefixFormattingRule.getD []) }
      let formattedNumber :=
        u.replaceStringByRegex self.nationalNumber (numberFormat.pattern.getD []) (numberFormat.format.getD [])
      (self.appendNationalNumber formattedNumber, self)
    else formatByFirstMatch self formats

def attemptToFormatAccruedDigits : NSString × NBAsYouTypeFormatter := formatByFirstMatch u self self.possibleFormats

/-- One call of `inputDigitHelper` for each digit, and what the last one returns. -/
def inputDigits (self : NBAsYouTypeFormatter) (tempNationalNumber : NSString) :
    NSString → Objc (NSString × NBAsYouTypeFormatter)
  | [] => .ok (tempNationalNumber, self)
  | c :: digits => do
    let (tempNationalNumber, self) ← inputDigitHelper u self [c]
    inputDigits self tempNationalNumber digits

def inputAccruedNationalNumber : Objc (NSString × NBAsYouTypeFormatter) := do
  if 0 < self.nationalNumber.length then
    let (tempNationalNumber, self) ← inputDigits u self [] self.nationalNumber
    return (if self.ableToFormat then self.appendNationalNumber tempNationalNumber else self.accruedInput, self)
  else return (self.prefixBeforeNationalNumber, self)

def attemptToChooseFormattingPattern : Objc (NSString × NBAsYouTypeFormatter) := do
  if self.nationalNumber.length ≥ NBMinLeadingDigitsLength then
    let (formattedNumber, self) := attemptToFormatAccruedDigits u (getAvailableFormats u self self.nationalNumber)
    if formattedNumber.length > 0 then return (formattedNumber, self)
    else
      let (created, self) ← maybeCreateNewTemplate u self
      if created then inputAccruedNationalNumber u self else return (self.accruedInput, self)
  else return (self.appendNationalNumber self.nationalNumber, self)

def attemptToChoosePatternWithPrefixExtracted : Objc (NSString × NBAsYouTypeFormatter) :=
  attemptToChooseFormattingPattern u
    { self with ableToFormat := true, isExpectingCountryCallingCode := false, possibleFormats := [] }

end Output

section Extraction

variable (self : NBAsYouTypeFormatter)

def isNanpaNumberWithNationalPrefix : Objc Bool := do
  if self.currentMetaData.countryCode ≠ some 1 then return false
  else if (← characterAtIndex self.nationalNumber 0) ≠ 49 then return false
  else if (← characterAtIndex self.nationalNumber 1) = 48 then return false
  else return (← characterAtIndex self.nationalNumber 1) ≠ 49

/-- How many units of the national number the parsing rule of its region takes. -/
def nationalPrefixLength : Nat :=
  match self.currentMetaData.nationalPrefixForParsing with
  | some nationalPrefixForParsing =>
    if nationalPrefixForParsing.isEmpty then 0
    else
      match u.matchedStringByRegex self.nationalNumber (ns "^(?:" ++ nationalPrefixForParsing ++ ns ")") with
      | [] => 0
      | firstString :: _ => firstString.length
  | none => 0

def removeNationalPrefixFromNationalNumber : Objc (NSString × NBAsYouTypeFormatter) := do
  if ← self.isNanpaNumberWithNationalPrefix then
    return (self.nationalNumber.take 1,
      { self with
        prefixBeforeNationalNumber := self.prefixBeforeNationalNumber ++ (ns "1" ++ NBSeparatorBeforeNationalNumber)
        isCompleteNumber := true
        nationalNumber := self.nationalNumber.drop 1 })
  else
    let startOfNationalNumber := nationalPrefixLength u self
    return (self.nationalNumber.take startOfNationalNumber,
      { self with
        prefixBeforeNationalNumber := self.prefixBeforeNationalNumber ++ self.nationalNumber.take startOfNationalNumber
        isCompleteNumber := self.isCompleteNumber || decide (0 < startOfNationalNumber)
        nationalNumber := self.nationalNumber.drop startOfNationalNumber })

def attemptToExtractIdd : Bool × NBAsYouTypeFormatter :=
  let internationalPrefix :=
    ns "^(?:\\+|" ++ self.currentMetaData.internationalPrefix.getD (ns "(null)") ++ ns ")"
  match u.matchedStringByRegex self.accruedInputWithoutFormatting internationalPrefix with
  | [] => (false, self)
  | firstString :: _ =>
    if firstString.length > 0 then
      let startOfCountryCallingCode := firstString.length
      let start := self.accruedInputWithoutFormatting.take startOfCountryCallingCode
      (true,
        { self with
          isCompleteNumber := true
          nationalNumber := self.accruedInputWithoutFormatting.drop startOfCountryCallingCode
          prefixBeforeNationalNumber :=
            if self.accruedInputWithoutFormatting.head? ≠ some 43 then start ++ NBSeparatorBeforeNationalNumber
            else start })
    else (false, self)

def attemptToExtractCountryCallingCode : Objc (Bool × NBAsYouTypeFormatter) := do
  if self.nationalNumber.isEmpty then return (false, self)
  else
    let (countryCode, numberWithoutCountryCallingCode) ← u.extractCountryCode self.nationalNumber []
    if countryCode = 0 then return (false, self)
    else
      let newRegionCode := u.getRegionCodeForCountryCode (some countryCode)
      let currentMetaData :=
        if newRegionCode = NB_REGION_CODE_FOR_NON_GEO_ENTITY then
          (u.getMetadataForNonGeographicalRegion (some countryCode)).getD {}
        else if self.defaultCountry.any (u.sameObject newRegionCode) then self.currentMetaData
        else getMetadataForRegion u (some newRegionCode)
      return (true,
        { self with
          nationalNumber := numberWithoutCountryCallingCode
          currentMetaData := currentMetaData
          prefixBeforeNationalNumber :=
            self.prefixBeforeNationalNumber ++ (formatted (some countryCode) ++ NBSeparatorBeforeNationalNumber) })

/-- Where a digit string is found last in a buffer of digits, spaces and a plus
sign, for which a backward search is literal. -/
def lastOccurrence (s target : NSString) : Option Nat :=
  ((List.range (s.length + 1)).reverse.find? fun index => target.isPrefixOf (s.drop index))

/-- The national prefix extracted before goes back to the national number. -/
def putBackNationalPrefix : NBAsYouTypeFormatter :=
  if self.nationalPrefixExtracted.length > 0 then
    { self with
      nationalNumber := self.nationalPrefixExtracted ++ self.nationalNumber
      prefixBeforeNationalNumber :=
        match lastOccurrence self.prefixBeforeNationalNumber self.nationalPrefixExtracted with
        | some indexOfPreviousNdd => self.prefixBeforeNationalNumber.take indexOfPreviousNdd
        | none => self.prefixBeforeNationalNumber }
  else self

/-- The prefixes are compared by identity. -/
def ableToExtractLongerNdd : Objc (Bool × NBAsYouTypeFormatter) := do
  let (removed, after) ← removeNationalPrefixFromNationalNumber u self.putBackNationalPrefix
  return (!u.sameObject self.nationalPrefixExtracted removed, after)

/-- What is tried when the number cannot be formatted: another prefix before it. -/
def extractPrefixAgain : Objc (Bool × NBAsYouTypeFormatter) := do
  match attemptToExtractIdd u self with
  | (true, self) => attemptToExtractCountryCallingCode u self
  | (false, self) =>
    let (able, self) ← ableToExtractLongerNdd u self
    if able then
      return (true,
        { self with prefixBeforeNationalNumber := self.prefixBeforeNationalNumber ++ NBSeparatorBeforeNationalNumber })
    else return (false, self)

end Extraction

section Input

variable (self : NBAsYouTypeFormatter)

def isDigitOrLeadingPlusSign (nextChar : NSString) : Bool :=
  let isDigitPattern := !(u.regex.allMatches CAPTURING_DIGIT_PATTERN nextChar).isEmpty
  let isPlusPattern := !(u.regex.allMatches PLUS_CHARS_PATTERN nextChar).isEmpty
  isDigitPattern || (self.accruedInput.length == 1 && isPlusPattern)

def normalizeAndAccrueDigitsAndPlusSign (nextChar : NSString) (rememberPosition : Bool) :
    NSString × NBAsYouTypeFormatter :=
  let remembered (self : NBAsYouTypeFormatter) : NBAsYouTypeFormatter :=
    if rememberPosition then { self with positionToRemember := self.accruedInputWithoutFormatting.length } else self
  if nextChar = ns "+" then
    (nextChar,
      remembered { self with accruedInputWithoutFormatting := self.accruedInputWithoutFormatting ++ nextChar })
  else
    match nextChar with
    | [c] =>
      match DIGIT_MAPPINGS c with
      | some normalizedChar =>
        ([normalizedChar],
          remembered
            { self with
              accruedInputWithoutFormatting := self.accruedInputWithoutFormatting ++ [normalizedChar]
              nationalNumber := self.nationalNumber ++ [normalizedChar] })
      | none => ([], self)
    | _ => ([], self)

/-- The input with one more character, and that character as it was accrued. -/
def accrue (nextChar : NSString) (rememberPosition : Bool) : NSString × NBAsYouTypeFormatter :=
  let self := { self with accruedInput := self.accruedInput ++ nextChar }
  let self := if rememberPosition then { self with originalPosition := self.accruedInput.length } else self
  if isDigitOrLeadingPlusSign u self nextChar then self.normalizeAndAccrueDigitsAndPlusSign nextChar rememberPosition
  else (nextChar, { self with ableToFormat := false, inputHasFormatting := true })

def successful (x : NSString × NBAsYouTypeFormatter) : NSString × NBAsYouTypeFormatter :=
  (x.1, { x.2 with isSuccessfulFormatting := true })

def unsuccessful (x : NSString × NBAsYouTypeFormatter) : NSString × NBAsYouTypeFormatter :=
  (x.1, { x.2 with isSuccessfulFormatting := false })

/-- A digit when the number could not be formatted before. -/
def inputUnformatted : Objc (NSString × NBAsYouTypeFormatter) := do
  if self.inputHasFormatting then return successful (self.accruedInput, self)
  else
    match ← extractPrefixAgain u self with
    | (true, self) => return successful (← attemptToChoosePatternWithPrefixExtracted u self)
    | (false, self) => return unsuccessful (self.accruedInput, self)

/-- A digit when formats are chosen. -/
def inputToPossibleFormats (nextChar : NSString) : Objc (NSString × NBAsYouTypeFormatter) := do
  let (tempNationalNumber, self) ← inputDigitHelper u self nextChar
  let (formattedNumber, self) := attemptToFormatAccruedDigits u self
  if formattedNumber.length > 0 then return successful (formattedNumber, self)
  else
    let (created, self) ← maybeCreateNewTemplate u (narrowDownPossibleFormats u self self.nationalNumber)
    if created then return successful (← inputAccruedNationalNumber u self)
    else if self.ableToFormat then return successful (self.appendNationalNumber tempNationalNumber, self)
    else return unsuccessful (self.accruedInput, self)

/-- A digit after the first ones. -/
def inputFurther (nextChar : NSString) : Objc (NSString × NBAsYouTypeFormatter) := do
  if self.isExpectingCountryCallingCode then
    let (extracted, self) ← attemptToExtractCountryCallingCode u self
    let self := if extracted then { self with isExpectingCountryCallingCode := false } else self
    return successful (self.prefixBeforeNationalNumber ++ self.nationalNumber, self)
  else if self.possibleFormats.length > 0 then inputToPossibleFormats u self nextChar
  else return unsuccessful (← attemptToChooseFormattingPattern u self)

/-- The third character decides whether the number is international. -/
def inputThird (nextChar : NSString) : Objc (NSString × NBAsYouTypeFormatter) := do
  match attemptToExtractIdd u self with
  | (true, self) => inputFurther u { self with isExpectingCountryCallingCode := true } nextChar
  | (false, self) =>
    let (nationalPrefixExtracted, self) ← removeNationalPrefixFromNationalNumber u self
    return successful
      (← attemptToChooseFormattingPattern u { self with nationalPrefixExtracted := nationalPrefixExtracted })

def inputDigitWithOptionToRememberPosition (nextChar : NSString) (rememberPosition : Bool) :
    Objc (NSString × NBAsYouTypeFormatter) := do
  if nextChar.isEmpty then return unsuccessful (self.currentOutput, self)
  else
    let (nextChar, self) := accrue u self nextChar rememberPosition
    if !self.ableToFormat then inputUnformatted u self
    else if self.accruedInputWithoutFormatting.length ≤ 2 then return successful (self.accruedInput, self)
    else if self.accruedInputWithoutFormatting.length = 3 then inputThird u self nextChar
    else inputFurther u self nextChar

def inputDigit (nextChar : NSString) : Objc NBAsYouTypeFormatter := do
  if nextChar.isEmpty then return self
  else
    let (output, self) ← inputDigitWithOptionToRememberPosition u self nextChar false
    return { self with currentOutput := output }

def inputDigitAndRememberPosition (nextChar : NSString) : Objc NBAsYouTypeFormatter := do
  if nextChar.isEmpty then return self
  else
    let (output, self) ← inputDigitWithOptionToRememberPosition u self nextChar true
    return { self with currentOutput := output }

end Input

section Reuse

variable (self : NBAsYouTypeFormatter)

/-- The flag of the last formatting stays as it is. -/
def clear : NBAsYouTypeFormatter :=
  { self with
    currentOutput := []
    accruedInput := []
    accruedInputWithoutFormatting := []
    formattingTemplate := []
    lastMatchPosition := 0
    currentFormattingPattern := []
    prefixBeforeNationalNumber := []
    nationalPrefixExtracted := []
    nationalNumber := []
    ableToFormat := true
    inputHasFormatting := false
    positionToRemember := 0
    originalPosition := 0
    isCompleteNumber := false
    isExpectingCountryCallingCode := false
    possibleFormats := []
    shouldAddSpaceAfterNationalPrefix := false
    currentMetaData :=
      if self.currentMetaData ≠ self.defaultMetaData then getMetadataForRegion u self.defaultCountry
      else self.currentMetaData }

/-- One unit with either of the two input methods. -/
def inputUnit (rememberPosition : Bool) (c : unichar) : Objc NBAsYouTypeFormatter :=
  if rememberPosition then inputDigitAndRememberPosition u self [c] else inputDigit u self [c]

/-- The units of a string one by one, and what the last one returns. -/
def inputUnits (rememberPosition : Bool) (self : NBAsYouTypeFormatter) (result : NSString) :
    NSString → Objc (NSString × NBAsYouTypeFormatter)
  | [] => .ok (result, self)
  | c :: rest => do
    let self ← inputUnit u self rememberPosition c
    inputUnits rememberPosition self self.currentOutput rest

/-- All that was typed but the last unit, typed again. -/
def removeLastUnit (rememberPosition : Bool) : Objc (NSString × NBAsYouTypeFormatter) :=
  let accruedInput := self.accruedInput
  let self := clear u self
  if accruedInput.length = 0 then .ok ([], self)
  else inputUnits u rememberPosition self [] (accruedInput.take (accruedInput.length - 1))

def removeLastDigit : Objc (NSString × NBAsYouTypeFormatter) := removeLastUnit u self false

def removeLastDigitAndRememberPosition : Objc (NSString × NBAsYouTypeFormatter) := removeLastUnit u self true

def inputString (string : NSString) : Objc (NSString × NBAsYouTypeFormatter) :=
  inputUnits u false (clear u self) [] string

def inputStringAndRememberPosition (string : NSString) : Objc (NSString × NBAsYouTypeFormatter) :=
  inputUnits u true (clear u self) [] string

end Reuse

end NBAsYouTypeFormatter

end SignalPods.PhoneNumber
