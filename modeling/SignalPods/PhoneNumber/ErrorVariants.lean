import SignalPods.PhoneNumber.OutOfCountry
import SignalPods.PhoneNumber.MobileDialling
import SignalPods.PhoneNumber.NationalPrefix

namespace SignalPods.PhoneNumber

open Foundation

/-- The error that is made of an exception. -/
structure CaughtError where
  domain : NSString
  localizedDescription : NSString
  deriving DecidableEq, Repr

/-- The name of an exception, and the reason it was raised for. -/
structure ExceptionTexts where
  name : NSException → NSString
  reason : NSException → NSString

/-- The caller's error: a null pointer, or a place with what is in it. -/
abbrev ErrorPointer := Option (Option CaughtError)

/-- What a variant returns, and what it leaves in the caller's error. -/
structure Reported where
  res : Option NSString
  error : ErrorPointer
  deriving DecidableEq, Repr

/-- A core method within `@try`: an exception that is caught becomes the error. -/
def catching (texts : ExceptionTexts) (core : Objc NSString) (error : ErrorPointer) : Reported :=
  match core with
  | .ok res => ⟨some res, error⟩
  | .error exception => ⟨none, error.map fun _ => some ⟨texts.name exception, texts.reason exception⟩⟩

namespace NBPhoneNumberUtil

namespace Reporting

variable (u : NBPhoneNumberUtil) (texts : ExceptionTexts)

def format (phoneNumber : NBPhoneNumber) (numberFormat : NBEPhoneNumberFormat) (error : ErrorPointer) : Reported :=
  catching texts (u.format phoneNumber numberFormat) error

def formatByPattern (number : NBPhoneNumber) (numberFormat : NBEPhoneNumberFormat)
    (userDefinedFormats : List NBNumberFormat) (error : ErrorPointer) : Reported :=
  catching texts (u.formatByPattern number numberFormat userDefinedFormats) error

def formatNationalNumberWithCarrierCode (number : NBPhoneNumber) (carrierCode : Option NSString)
    (error : ErrorPointer) : Reported :=
  catching texts (u.formatNationalNumberWithCarrierCode number carrierCode) error

/-- The method that is called is the one for any carrier code. -/
def formatNationalNumberWithPreferredCarrierCode (number : NBPhoneNumber) (fallbackCarrierCode : Option NSString)
    (error : ErrorPointer) : Reported :=
  catching texts (u.formatNationalNumberWithCarrierCode number fallbackCarrierCode) error

def formatNumberForMobileDialing (number : NBPhoneNumber) (regionCallingFrom : Option NSString) (withFormatting : Bool)
    (error : ErrorPointer) : Reported :=
  catching texts (u.formatNumberForMobileDialing number regionCallingFrom withFormatting) error

def formatOutOfCountryCallingNumber (number : NBPhoneNumber) (regionCallingFrom : Option NSString)
    (error : ErrorPointer) : Reported :=
  catching texts (u.formatOutOfCountryCallingNumber number regionCallingFrom) error

def formatInOriginalFormat (number : NBPhoneNumber) (regionCallingFrom : Option NSString) (error : ErrorPointer) :
    Reported :=
  catching texts (u.formatInOriginalFormat number regionCallingFrom) error

def formatOutOfCountryKeepingAlphaChars (number : NBPhoneNumber) (regionCallingFrom : Option NSString)
    (error : ErrorPointer) : Reported :=
  catching texts (u.formatOutOfCountryKeepingAlphaChars number regionCallingFrom) error

end Reporting

/-- The formatting methods that have a variant with an error, with their arguments. -/
inductive FormattingMethod
  | format (numberFormat : NBEPhoneNumberFormat)
  | formatByPattern (numberFormat : NBEPhoneNumberFormat) (userDefinedFormats : List NBNumberFormat)
  | formatNationalNumberWithCarrierCode (carrierCode : Option NSString)
  | formatNationalNumberWithPreferredCarrierCode (fallbackCarrierCode : Option NSString)
  | formatNumberForMobileDialing (regionCallingFrom : Option NSString) (withFormatting : Bool)
  | formatOutOfCountryCallingNumber (regionCallingFrom : Option NSString)
  | formatInOriginalFormat (regionCallingFrom : Option NSString)
  | formatOutOfCountryKeepingAlphaChars (regionCallingFrom : Option NSString)

namespace FormattingMethod

def core (u : NBPhoneNumberUtil) (number : NBPhoneNumber) : FormattingMethod → Objc NSString
  | .format numberFormat => u.format number numberFormat
  | .formatByPattern numberFormat userDefinedFormats => u.formatByPattern number numberFormat userDefinedFormats
  | .formatNationalNumberWithCarrierCode carrierCode => u.formatNationalNumberWithCarrierCode number carrierCode
  | .formatNationalNumberWithPreferredCarrierCode fallbackCarrierCode =>
    u.formatNationalNumberWithPreferredCarrierCode number fallbackCarrierCode
  | .formatNumberForMobileDialing regionCallingFrom withFormatting =>
    u.formatNumberForMobileDialing number regionCallingFrom withFormatting
  | .formatOutOfCountryCallingNumber regionCallingFrom => u.formatOutOfCountryCallingNumber number regionCallingFrom
  | .formatInOriginalFormat regionCallingFrom => u.formatInOriginalFormat number regionCallingFrom
  | .formatOutOfCountryKeepingAlphaChars regionCallingFrom =>
    u.formatOutOfCountryKeepingAlphaChars number regionCallingFrom

def variant (u : NBPhoneNumberUtil) (texts : ExceptionTexts) (number : NBPhoneNumber) (error : ErrorPointer) :
    FormattingMethod → Reported
  | .format numberFormat => Reporting.format u texts number numberFormat error
  | .formatByPattern numberFormat userDefinedFormats =>
    Reporting.formatByPattern u texts number numberFormat userDefinedFormats error
  | .formatNationalNumberWithCarrierCode carrierCode =>
    Reporting.formatNationalNumberWithCarrierCode u texts number carrierCode error
  | .formatNationalNumberWithPreferredCarrierCode fallbackCarrierCode =>
    Reporting.formatNationalNumberWithPreferredCarrierCode u texts number fallbackCarrierCode error
  | .formatNumberForMobileDialing regionCallingFrom withFormatting =>
    Reporting.formatNumberForMobileDialing u texts number regionCallingFrom withFormatting error
  | .formatOutOfCountryCallingNumber regionCallingFrom =>
    Reporting.formatOutOfCountryCallingNumber u texts number regionCallingFrom error
  | .formatInOriginalFormat regionCallingFrom => Reporting.formatInOriginalFormat u texts number regionCallingFrom error
  | .formatOutOfCountryKeepingAlphaChars regionCallingFrom =>
    Reporting.formatOutOfCountryKeepingAlphaChars u texts number regionCallingFrom error

/-- Where the core returns, the variant returns the same and leaves the error alone. -/
def VariantAgrees (u : NBPhoneNumberUtil) (texts : ExceptionTexts) (number : NBPhoneNumber)
    (method : FormattingMethod) : Prop :=
  ∀ res, method.core u number = .ok res → ∀ error, method.variant u texts number error = ⟨some res, error⟩

/-- The stored carrier code of a number does not matter: there is none, or the calling
code is unknown, or the format of the number has no rule for carrier codes, or
neither code has a value, or they are the same code, or both have a value and the
rule has no place for them. -/
def CarrierCodeIrrelevant (u : NBPhoneNumberUtil) (number : NBPhoneNumber)
    (fallbackCarrierCode : Option NSString) : Prop :=
  ∀ stored, number.preferredDomesticCarrierCode = some stored → u.hasValidCountryCallingCode number.countryCode →
    ∀ formattingPattern, u.chooseFormattingPatternForNumber (getNationalSignificantNumber number)
        (availableFormats (u.mainMetadata number.countryCode) .NATIONAL) = .ok (some formattingPattern) →
      (formattingPattern.domesticCarrierCodeFormattingRule.getD []).length > 0 →
      (hasValue (some stored) ∨ hasValue fallbackCarrierCode) → fallbackCarrierCode ≠ some stored →
      hasValue (some stored) ∧ hasValue fallbackCarrierCode ∧
        u.regex.allMatches CC_PATTERN (formattingPattern.domesticCarrierCodeFormattingRule.getD []) = []

def KeepsPreferred (u : NBPhoneNumberUtil) (number : NBPhoneNumber) : FormattingMethod → Prop
  | .formatNationalNumberWithPreferredCarrierCode fallbackCarrierCode => CarrierCodeIrrelevant u number fallbackCarrierCode
  | _ => True

end FormattingMethod

open FormattingMethod

variable {u : NBPhoneNumberUtil} {texts : ExceptionTexts} {number : NBPhoneNumber}

theorem catching_agrees {core : Objc NSString} {res : NSString} (returned : core = .ok res) (error : ErrorPointer) :
    catching texts core error = ⟨some res, error⟩ := by
  rw [returned]
  rfl

/-- A carrier code acts through the rule that is made with it. -/
theorem formatNsnUsingPattern_of_rule {digits : NSString} {formattingPattern : NBNumberFormat}
    {first second : Option NSString}
    (rule : u.numberFormatRule formattingPattern .NATIONAL first =
      u.numberFormatRule formattingPattern .NATIONAL second) :
    u.formatNsnUsingPattern digits formattingPattern .NATIONAL first =
      u.formatNsnUsingPattern digits formattingPattern .NATIONAL second := by
  unfold formatNsnUsingPattern
  rw [rule]

/-- A carrier code without a value has no effect, and no code has one without a rule. -/
theorem formatNsnUsingPattern_carrierCode {digits : NSString} {formattingPattern : NBNumberFormat}
    {first second : Option NSString}
    (irrelevant : ¬ (formattingPattern.domesticCarrierCodeFormattingRule.getD []).length > 0 ∨
      ¬ (hasValue first ∨ hasValue second)) :
    u.formatNsnUsingPattern digits formattingPattern .NATIONAL first =
      u.formatNsnUsingPattern digits formattingPattern .NATIONAL second := by
  have unused {code : Option NSString} (either : hasValue code → hasValue first ∨ hasValue second) :
      ¬ (NBEPhoneNumberFormat.NATIONAL = .NATIONAL ∧ hasValue code ∧
        (formattingPattern.domesticCarrierCodeFormattingRule.getD []).length > 0) := by
    rintro ⟨_, value, place⟩
    rcases irrelevant with none | none
    · exact none place
    · exact none (either value)
  refine formatNsnUsingPattern_of_rule ?_
  unfold numberFormatRule
  dsimp only
  rw [if_neg (unused Or.inl), if_neg (unused Or.inr)]

/-- A rule without a place for carrier codes is the same for all that have a value. -/
theorem formatNsnUsingPattern_placeless {digits : NSString} {formattingPattern : NBNumberFormat}
    {first second : Option NSString} (hasFirst : hasValue first) (hasSecond : hasValue second)
    (placeless : u.regex.allMatches CC_PATTERN (formattingPattern.domesticCarrierCodeFormattingRule.getD []) = []) :
    u.formatNsnUsingPattern digits formattingPattern .NATIONAL first =
      u.formatNsnUsingPattern digits formattingPattern .NATIONAL second := by
  have kept (template : NSString) : u.replaceStringByRegex (formattingPattern.domesticCarrierCodeFormattingRule.getD [])
      CC_PATTERN template = formattingPattern.domesticCarrierCodeFormattingRule.getD [] := by
    unfold replaceStringByRegex
    rw [placeless]
  refine formatNsnUsingPattern_of_rule ?_
  unfold numberFormatRule
  dsimp only
  rw [kept, kept, hasFirst, hasSecond]

theorem formatNationalNumberWithCarrierCode_invalid (invalid : ¬ u.hasValidCountryCallingCode number.countryCode)
    (carrierCode : Option NSString) :
    u.formatNationalNumberWithCarrierCode number carrierCode = .ok (getNationalSignificantNumber number) := by
  rw [Bool.not_eq_true] at invalid
  unfold formatNationalNumberWithCarrierCode
  dsimp only
  rw [invalid]
  rfl

/-- What is returned is the formatted number, then the extension. -/
theorem formatNationalNumberWithCarrierCode_valid (valid : u.hasValidCountryCallingCode number.countryCode)
    (carrierCode : Option NSString) :
    u.formatNationalNumberWithCarrierCode number carrierCode =
      (u.formatNsn (getNationalSignificantNumber number) (u.mainMetadata number.countryCode) .NATIONAL carrierCode).map
        (· ++ maybeGetFormattedExtension number (u.mainMetadata number.countryCode) .NATIONAL) := by
  unfold formatNationalNumberWithCarrierCode
  dsimp only
  rw [valid]
  cases u.formatNsn (getNationalSignificantNumber number) (u.mainMetadata number.countryCode) .NATIONAL carrierCode with
  | error exception => rfl
  | ok text => rfl

/-- The national number is formatted alike when the stored code does not matter. -/
theorem formatNsn_of_irrelevant {fallbackCarrierCode : Option NSString} {stored : NSString}
    (irrelevant : CarrierCodeIrrelevant u number fallbackCarrierCode)
    (has : number.preferredDomesticCarrierCode = some stored) (valid : u.hasValidCountryCallingCode number.countryCode) :
    u.formatNsn (getNationalSignificantNumber number) (u.mainMetadata number.countryCode) .NATIONAL fallbackCarrierCode =
      u.formatNsn (getNationalSignificantNumber number) (u.mainMetadata number.countryCode) .NATIONAL (some stored) := by
  unfold formatNsn
  cases choice : u.chooseFormattingPatternForNumber (getNationalSignificantNumber number)
      (availableFormats (u.mainMetadata number.countryCode) .NATIONAL) with
  | error exception => rfl
  | ok chosen =>
    cases chosen with
    | none => rfl
    | some formattingPattern =>
      refine congrArg Except.ok (Eq.symm ?_)
      by_cases place : (formattingPattern.domesticCarrierCodeFormattingRule.getD []).length > 0
      · by_cases value : hasValue (some stored) ∨ hasValue fallbackCarrierCode
        · by_cases same : fallbackCarrierCode = some stored
          · rw [same]
          · obtain ⟨hasStored, hasFallback, placeless⟩ := irrelevant stored has valid formattingPattern choice place value same
            exact formatNsnUsingPattern_placeless hasStored hasFallback placeless
        · exact formatNsnUsingPattern_carrierCode (Or.inr value)
      · exact formatNsnUsingPattern_carrierCode (Or.inl place)

/-- The two methods agree when the stored code does not matter. -/
theorem preferred_agrees {fallbackCarrierCode : Option NSString}
    (irrelevant : CarrierCodeIrrelevant u number fallbackCarrierCode) :
    VariantAgrees u texts number (.formatNationalNumberWithPreferredCarrierCode fallbackCarrierCode) := by
  have core {stored : NSString} (has : number.preferredDomesticCarrierCode = some stored) :
      u.formatNationalNumberWithPreferredCarrierCode number fallbackCarrierCode =
        u.formatNationalNumberWithCarrierCode number (some stored) := by
    unfold formatNationalNumberWithPreferredCarrierCode
    rw [has]
  intro res returned error
  refine catching_agrees ?_ error
  cases has : number.preferredDomesticCarrierCode with
  | none =>
    have same : u.formatNationalNumberWithPreferredCarrierCode number fallbackCarrierCode =
        u.formatNationalNumberWithCarrierCode number fallbackCarrierCode := by
      unfold formatNationalNumberWithPreferredCarrierCode
      rw [has]
    exact same.symm.trans returned
  | some stored =>
    have returned : u.formatNationalNumberWithCarrierCode number (some stored) = .ok res := (core has).symm.trans returned
    by_cases valid : u.hasValidCountryCallingCode number.countryCode
    · rw [formatNationalNumberWithCarrierCode_valid valid] at returned ⊢
      rw [formatNsn_of_irrelevant irrelevant has valid]
      exact returned
    · rw [formatNationalNumberWithCarrierCode_invalid valid] at returned ⊢
      exact returned

/-- The variants agree with their cores, the one for a preferred carrier code when the
number has none or it does not matter. -/
theorem variant_agrees (u : NBPhoneNumberUtil) (texts : ExceptionTexts) (number : NBPhoneNumber)
    (method : FormattingMethod) (keeps : KeepsPreferred u number method) : VariantAgrees u texts number method := by
  cases method with
  | formatNationalNumberWithPreferredCarrierCode fallbackCarrierCode => exact preferred_agrees keeps
  | format => exact fun _ returned => catching_agrees returned
  | formatByPattern => exact fun _ returned => catching_agrees returned
  | formatNationalNumberWithCarrierCode => exact fun _ returned => catching_agrees returned
  | formatNumberForMobileDialing => exact fun _ returned => catching_agrees returned
  | formatOutOfCountryCallingNumber => exact fun _ returned => catching_agrees returned
  | formatInOriginalFormat => exact fun _ returned => catching_agrees returned
  | formatOutOfCountryKeepingAlphaChars => exact fun _ returned => catching_agrees returned

section Regions

/-- The match of a literal a string starts with, captured or not. -/
def literalHead (literal : NSString) (groups : List (Option NSRange)) (text : NSString) : Option HeadMatch :=
  if literal.isPrefixOf text then some (literal.length, groups) else none

/-- The expressions for seven digits, for the place of the carrier code and for the first group. -/
def carrierExpressions : NSRegularExpressions where
  matchesInString pattern s range :=
    if pattern = CC_PATTERN then headMatches (literalHead (ns "$CC") []) s range
    else if pattern = FIRST_GROUP_PATTERN then headMatches (literalHead (ns "$1") [some ⟨0, 2⟩]) s range
    else sevenDigitExpressions.matchesInString pattern s range
  firstAnchoredMatch := sevenDigitExpressions.firstAnchoredMatch
  matches_inside pattern s range inside := by
    split
    · exact headMatches_inside inside
    split
    · exact headMatches_inside inside
    · exact sevenDigitExpressions.matches_inside pattern s range inside
  anchored_inside := sevenDigitExpressions.anchored_inside

/-- A region whose numbers are dialled behind a carrier code. -/
def carrierRegion : NBPhoneNumberUtil :=
  { dialledRegion [] with
    regex := carrierExpressions
    helper :=
      { countryCodeToRegionCodeMap := fun code => if code = ns "54" then some [ns "AR"] else none
        countryToMetadata := fun region =>
          if region = ns "AR" then
            some
              { countryCode := some 54
                numberFormats :=
                  [{ pattern := some sevenDigitPattern
                     format := some (ns "$1-$2")
                     domesticCarrierCodeFormattingRule := some (ns "$CC $1") }] }
          else none } }

/-- With 15 stored and 15 to fall back on both dial behind 15. -/
theorem variant_agrees_sameCode : VariantAgrees carrierRegion ⟨fun _ => ns "NSException", fun _ => []⟩
    { countryCode := some 54, nationalNumber := some 5305302, preferredDomesticCarrierCode := some (ns "15") }
    (.formatNationalNumberWithPreferredCarrierCode (some (ns "15"))) := by
  refine variant_agrees carrierRegion _ _ _ ?_
  intro stored has _ _ _ _ _ different
  obtain rfl := Option.some.inj has
  exact absurd rfl different

/-- With 15 stored the core dials behind 15, and the variant behind the fallback. -/
theorem stored_code_passed_over :
    carrierRegion.formatNationalNumberWithPreferredCarrierCode
        { countryCode := some 54, nationalNumber := some 5305302, preferredDomesticCarrierCode := some (ns "15") }
        (some (ns "21")) = .ok (ns "15 530-5302") ∧
      ∀ texts, ¬ VariantAgrees carrierRegion texts
        { countryCode := some 54, nationalNumber := some 5305302, preferredDomesticCarrierCode := some (ns "15") }
        (.formatNationalNumberWithPreferredCarrierCode (some (ns "21"))) := by
  have stored : carrierRegion.formatNationalNumberWithPreferredCarrierCode
      { countryCode := some 54, nationalNumber := some 5305302, preferredDomesticCarrierCode := some (ns "15") }
      (some (ns "21")) = .ok (ns "15 530-5302") := by decide +kernel
  have fallback : carrierRegion.formatNationalNumberWithCarrierCode
      { countryCode := some 54, nationalNumber := some 5305302, preferredDomesticCarrierCode := some (ns "15") }
      (some (ns "21")) = .ok (ns "21 530-5302") := by decide +kernel
  refine ⟨stored, fun texts agrees => ?_⟩
  have reported := agrees _ stored none
  have passedOver : catching texts _ none = ⟨some (ns "21 530-5302"), none⟩ := catching_agrees fallback none
  have same := Option.some.inj (congrArg Reported.res (passedOver.symm.trans reported))
  exact absurd same (by decide)

end Regions

end NBPhoneNumberUtil

end SignalPods.PhoneNumber
