import SignalPods.PhoneNumber.Parsing
import SignalPods.Foundation.Objects

namespace SignalPods.PhoneNumber

open Foundation

inductive NBEMatchType
  | NOT_A_NUMBER
  | NO_MATCH
  | SHORT_NSN_MATCH
  | NSN_MATCH
  | EXACT_MATCH
  deriving DecidableEq, Repr

/-- An argument of `isNumberMatch`: a string, or a reference to a number. -/
inductive MatchInput
  | string (s : NSString)
  | phoneNumber (reference : Nat)
  deriving DecidableEq, Repr

def isNationalNumberSuffixOfTheOther (firstNumber secondNumber : NBPhoneNumber) : Bool :=
  (formatted secondNumber.nationalNumber).isSuffixOf (formatted firstNumber.nationalNumber) ||
    (formatted firstNumber.nationalNumber).isSuffixOf (formatted secondNumber.nationalNumber)

/-- Without the fields that are not compared, and without an empty extension. -/
def NBPhoneNumber.clearForMatch (number : NBPhoneNumber) : NBPhoneNumber :=
  { number with
    rawInput := some []
    countryCodeSource := none
    preferredDomesticCarrierCode := some []
    extension := if number.extension = some [] then none else number.extension }

def NBPhoneNumber.clearCountryCode (number : NBPhoneNumber) : NBPhoneNumber := { number with countryCode := some 0 }

/-- Whether both have an extension and these are different. -/
def extensionsDiffer (first second : NBPhoneNumber) : Bool :=
  hasValue first.extension && hasValue second.extension && first.extension != second.extension

/-- Whether both have a calling code; a nil one is not equal to zero. -/
def bothSpecified (first second : NBPhoneNumber) : Bool :=
  !isEqualToNumber first.countryCode (some 0) && !isEqualToNumber second.countryCode (some 0)

def matchSpecified (first second : NBPhoneNumber) : NBEMatchType :=
  if first.isEqual second then .EXACT_MATCH
  else if isEqualToNumber first.countryCode second.countryCode && isNationalNumberSuffixOfTheOther first second then
    .SHORT_NSN_MATCH
  else .NO_MATCH

def matchUnspecified (first second : NBPhoneNumber) : NBEMatchType :=
  if first.isEqual second then .NSN_MATCH
  else if isNationalNumberSuffixOfTheOther first second then .SHORT_NSN_MATCH
  else .NO_MATCH

/-- The comparison of two copies, which are edited for it. -/
def matchCopies (firstNumber secondNumber : Nat) : Memory NBPhoneNumber NBEMatchType := do
  modifyObject firstNumber NBPhoneNumber.clearForMatch
  modifyObject secondNumber NBPhoneNumber.clearForMatch
  let first ← readObject firstNumber
  let second ← readObject secondNumber
  if extensionsDiffer first second then return .NO_MATCH
  else if bothSpecified first second then return matchSpecified first second
  else
    modifyObject firstNumber NBPhoneNumber.clearCountryCode
    modifyObject secondNumber NBPhoneNumber.clearCountryCode
    let first ← readObject firstNumber
    let second ← readObject secondNumber
    return matchUnspecified first second

def exactToNsnMatch : NBEMatchType → NBEMatchType
  | .EXACT_MATCH => .NSN_MATCH
  | result => result

namespace NBPhoneNumberUtil

variable (u : NBPhoneNumberUtil)

/-- The region of a calling code, unless it is the unknown region itself. -/
def knownRegion (countryCode : Option Int) : Option NSString :=
  match u.regionCodeFromCountryCode countryCode with
  | some (regionCode :: _) => if u.sameObject regionCode NB_UNKNOWN_REGION then none else some regionCode
  | _ => none

/-- The number of a parse, which there is unless an error was reported. -/
def parseForMatch (numberToParse : NSString) (defaultRegion : NSString) :
    Memory NBPhoneNumber (Except NSError Nat) := do
  let parsed ← liftM (u.parse (some numberToParse) (some defaultRegion))
  match parsed.error with
  | some anError => return .error anError
  | none => return .ok (← newObject (parsed.phoneNumber.getD {}))

/-- Parsed without a calling code. -/
def parseWithoutRegion (numberToParse : NSString) : Memory NBPhoneNumber (Except NSError Nat) := do
  match ← liftM (u.parseHelper (some numberToParse) none false false) with
  | .error anError => return .error anError
  | .ok phoneNumber => return .ok (← newObject phoneNumber)

/-- The region of the second argument, when that is a number with a known one. -/
def secondNumberRegion (secondNumberIn : MatchInput) : Memory NBPhoneNumber (Option NSString) := do
  match secondNumberIn with
  | .string _ => return none
  | .phoneNumber secondNumber => return u.knownRegion (← readObject secondNumber).countryCode

/-- The number of a string that is the first argument, or else what the match is.
A number parsed in the region of the second is matched by `again`. -/
def firstOfString (again : Nat → Memory NBPhoneNumber NBEMatchType) (firstNumberIn : NSString)
    (secondNumberIn : MatchInput) : Memory NBPhoneNumber (Except NBEMatchType Nat) := do
  match ← u.parseForMatch firstNumberIn NB_UNKNOWN_REGION with
  | .ok firstNumber => return .ok firstNumber
  | .error anError =>
    if anError.domain ≠ .INVALID_COUNTRY_CODE then return .error .NOT_A_NUMBER
    else
      match ← u.secondNumberRegion secondNumberIn with
      | some region =>
        match ← u.parseForMatch firstNumberIn region with
        | .error _ => return .error .NOT_A_NUMBER
        | .ok firstNumber => return .error (exactToNsnMatch (← again firstNumber))
      | none =>
        match ← u.parseWithoutRegion firstNumberIn with
        | .error _ => return .error .NOT_A_NUMBER
        | .ok firstNumber => return .ok firstNumber

/-- Strings weigh more in the second place: that one is parsed last, or swapped to the first. -/
def matchWeight (firstNumberIn secondNumberIn : MatchInput) : Nat :=
  (match firstNumberIn with
    | .string _ => 1
    | .phoneNumber _ => 0) +
  match secondNumberIn with
  | .string _ => 2
  | .phoneNumber _ => 0

def isNumberMatch (firstNumberIn secondNumberIn : MatchInput) : Memory NBPhoneNumber NBEMatchType := do
  let first ←
    match firstNumberIn with
    | .string s => u.firstOfString (fun firstNumber => isNumberMatch (.phoneNumber firstNumber) secondNumberIn) s secondNumberIn
    | .phoneNumber number => Except.ok <$> copyObject number
  match first with
  | .error result => return result
  | .ok firstNumber =>
    match secondNumberIn with
    | .string s =>
      match ← u.parseForMatch s NB_UNKNOWN_REGION with
      | .error parseError =>
        if parseError.domain ≠ .INVALID_COUNTRY_CODE then return .NOT_A_NUMBER
        else isNumberMatch (.string s) (.phoneNumber firstNumber)
      | .ok secondNumber => isNumberMatch firstNumberIn (.phoneNumber secondNumber)
    | .phoneNumber number => matchCopies firstNumber (← copyObject number)
termination_by matchWeight firstNumberIn secondNumberIn
decreasing_by
  all_goals
    unfold matchWeight
    dsimp only
    omega

end NBPhoneNumberUtil

end SignalPods.PhoneNumber
