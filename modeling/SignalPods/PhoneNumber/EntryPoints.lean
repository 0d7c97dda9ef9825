import SignalPods.PhoneNumber.LeadingPlus
import SignalPods.PhoneNumber.RawInput
import SignalPods.PhoneNumber.PhoneContext
import SignalPods.PhoneNumber.PlainExpressions

namespace SignalPods.PhoneNumber

open Foundation

namespace NBPhoneNumberUtil

variable {u : NBPhoneNumberUtil}

/-- A calling code is found for a candidate or its region stands for one, and
the national number has a length that the parser takes. -/
def LeavesNumber (u : NBPhoneNumberUtil) (candidate : NSString) (defaultRegion : Option NSString) : Prop :=
  ∃ extension number extraction digits metadata phoneNumber rest kept,
    u.maybeStripExtension candidate = .ok (extension, number) ∧
    u.extractForParsing number (u.getMetadataForRegion defaultRegion) false (withExtension extension {}) =
      .ok (.ok extraction) ∧
    u.resolveRegion number defaultRegion (u.getMetadataForRegion defaultRegion) false extraction =
      (digits, metadata, phoneNumber) ∧
    MIN_LENGTH_FOR_NSN ≤ digits.length ∧
    u.stripForParsing digits metadata false phoneNumber = .ok (rest, kept) ∧
    MIN_LENGTH_FOR_NSN ≤ rest.length ∧ rest.length ≤ MAX_LENGTH_FOR_NSN

theorem parseViable_leaves_iff {candidate : NSString} {defaultRegion : Option NSString} :
    (∃ phoneNumber, u.parseViable candidate defaultRegion false {} = .ok (.ok phoneNumber)) ↔
      u.LeavesNumber candidate defaultRegion := by
  unfold parseViable
  constructor
  · rintro ⟨phoneNumber, parsed⟩
    obtain ⟨⟨extension, number⟩, stripped, parsed⟩ := bind_eq_ok_iff.mp parsed
    obtain ⟨result, extracted, parsed⟩ := bind_eq_ok_iff.mp parsed
    cases result with
    | error anError => cases parsed
    | ok extraction =>
      dsimp only at parsed
      cases resolved : u.resolveRegion number defaultRegion (u.getMetadataForRegion defaultRegion) false extraction with
      | mk digits rest =>
        obtain ⟨metadata, withCode⟩ := rest
        rw [resolved] at parsed
        dsimp only at parsed
        split at parsed
        · cases parsed
        · rename_i long
          obtain ⟨⟨rest, kept⟩, last, parsed⟩ := bind_eq_ok_iff.mp parsed
          dsimp only at parsed
          split at parsed
          · cases parsed
          · rename_i enough
            split at parsed
            · cases parsed
            · rename_i few
              exact ⟨extension, number, extraction, digits, metadata, withCode, rest, kept, stripped, extracted, resolved,
                Nat.not_lt.mp long, last, Nat.not_lt.mp enough, Nat.not_lt.mp few⟩
  · rintro ⟨extension, number, extraction, digits, metadata, phoneNumber, rest, kept, stripped, extracted, resolved,
      long, last, enough, few⟩
    simp only [stripped, extracted, resolved, last, bind, Except.bind, Nat.not_lt.mpr long, Nat.not_lt.mpr enough,
      Nat.not_lt.mpr few, if_false]
    exact ⟨_, rfl⟩

theorem parseHelper_of_viable {numberToParse defaultRegion : Option NSString} {keepRawInput checkRegion : Bool}
    {s candidate : NSString} (given : numberToParse.map u.normalizeNonBreakingSpace = some s)
    (short : s.length ≤ MAX_INPUT_STRING_LENGTH) (built : u.buildNationalNumberForParsing s = .ok candidate)
    (viable : u.isViablePhoneNumber candidate)
    (known : checkRegion = true → u.checkRegionForParsing candidate defaultRegion = true) :
    u.parseHelper numberToParse defaultRegion keepRawInput checkRegion =
      u.parseViable candidate defaultRegion keepRawInput { rawInput := if keepRawInput then some s else none } := by
  have noError : ¬ (checkRegion && !u.checkRegionForParsing candidate defaultRegion) = true := by
    rw [Bool.and_eq_true]
    rintro ⟨checked, missing⟩
    rw [known checked] at missing
    cases missing
  unfold parseHelper
  rw [given]
  dsimp only
  rw [if_neg (Nat.not_lt.mpr short), built]
  simp only [bind, Except.bind]
  rw [if_neg (by rw [viable]; decide), if_neg noError]

theorem parseHelper_of_unknown_region {numberToParse defaultRegion : Option NSString} {keepRawInput : Bool}
    {s candidate : NSString} (given : numberToParse.map u.normalizeNonBreakingSpace = some s)
    (short : s.length ≤ MAX_INPUT_STRING_LENGTH) (built : u.buildNationalNumberForParsing s = .ok candidate)
    (viable : u.isViablePhoneNumber candidate) (unknown : u.checkRegionForParsing candidate defaultRegion = false) :
    u.parseHelper numberToParse defaultRegion keepRawInput true =
      .ok (.error ⟨.INVALID_COUNTRY_CODE, ns "INVALID_COUNTRY_CODE:" ++ defaultRegion.getD (ns "(null)")⟩) := by
  unfold parseHelper
  rw [given]
  dsimp only
  rw [if_neg (Nat.not_lt.mpr short), built]
  simp only [bind, Except.bind]
  rw [if_neg (by rw [viable]; decide), if_pos (by rw [unknown]; decide)]
  rfl

/-- A string of which the parser makes a number. -/
def Accepts (u : NBPhoneNumberUtil) (s : NSString) (defaultRegion : Option NSString) : Prop :=
  ∃ candidate, u.buildNationalNumberForParsing s = .ok candidate ∧ u.isViablePhoneNumber candidate ∧
    u.checkRegionForParsing candidate defaultRegion ∧ u.LeavesNumber candidate defaultRegion

theorem parseHelper_accepts_iff {numberToParse defaultRegion : Option NSString} :
    (∃ phoneNumber, u.parseHelper numberToParse defaultRegion false true = .ok (.ok phoneNumber)) ↔
      ∃ s ∈ u.considered numberToParse, u.Accepts s defaultRegion := by
  unfold parseHelper considered
  cases numberToParse.map u.normalizeNonBreakingSpace with
  | none => simp [pure, Except.pure]
  | some s =>
    by_cases long : s.length > MAX_INPUT_STRING_LENGTH
    · simp [long, Nat.not_le.mpr long, pure, Except.pure]
    · have short := Nat.not_lt.mp long
      simp only [long, if_false, Option.filter, short, decide_true, if_true, Option.mem_def, Option.some.injEq,
        exists_eq_left', Accepts, bind_eq_ok_iff]
      constructor
      · rintro ⟨phoneNumber, candidate, built, parsed⟩
        split at parsed
        · cases parsed
        · rename_i viable
          split at parsed
          · cases parsed
          · rename_i known
            refine ⟨candidate, built, by simpa using viable, by simpa using known, ?_⟩
            exact parseViable_leaves_iff.mp ⟨phoneNumber, parsed⟩
      · rintro ⟨candidate, built, viable, known, leaves⟩
        obtain ⟨phoneNumber, parsed⟩ := parseViable_leaves_iff.mpr leaves
        refine ⟨phoneNumber, candidate, built, ?_⟩
        rw [if_neg (by simp [viable]), if_neg (by simp [known])]
        exact parsed

section Fields

theorem maybeExtractCountryCode_fields {number nationalNumber : NSString} {metadata : Option NBPhoneMetaData}
    {phoneNumber : NBPhoneNumber} {extraction : Extraction}
    (extracted : u.maybeExtractCountryCode number metadata nationalNumber true phoneNumber = .ok extraction) :
    extraction.phoneNumber.rawInput = phoneNumber.rawInput ∧
      (number ≠ [] ∨ phoneNumber.countryCodeSource.isSome → extraction.phoneNumber.countryCodeSource.isSome) := by
  unfold maybeExtractCountryCode at extracted
  split at extracted
  · rename_i empty
    obtain rfl := Except.ok.inj extracted
    refine ⟨rfl, ?_⟩
    rintro (nonempty | source)
    · exact absurd (List.isEmpty_iff.mp empty) nonempty
    · exact source
  · obtain ⟨⟨source, fullNumber⟩, _, extracted⟩ := bind_eq_ok_iff.mp extracted
    dsimp only at extracted
    split at extracted
    · obtain ⟨raw, kept, _⟩ := extractInternational_fields extracted
      refine ⟨raw, fun _ => ?_⟩
      rw [kept]
      rfl
    · cases metadata with
      | none =>
        obtain rfl := Except.ok.inj extracted
        exact ⟨rfl, fun _ => rfl⟩
      | some metadata =>
        obtain ⟨potential, _, extracted⟩ := bind_eq_ok_iff.mp extracted
        cases potential with
        | none =>
          obtain rfl := Except.ok.inj extracted
          exact ⟨rfl, fun _ => rfl⟩
        | some potentialNationalNumber =>
          obtain rfl := Except.ok.inj extracted
          exact ⟨rfl, fun _ => rfl⟩

theorem extractForParsing_fields {number : NSString} {metadata : Option NBPhoneMetaData} {phoneNumber : NBPhoneNumber}
    {extraction : Extraction} (nonempty : number ≠ [])
    (extracted : u.extractForParsing number metadata true phoneNumber = .ok (.ok extraction)) :
    extraction.phoneNumber.rawInput = phoneNumber.rawInput ∧ extraction.phoneNumber.countryCodeSource.isSome := by
  unfold extractForParsing at extracted
  obtain ⟨first, found, extracted⟩ := bind_eq_ok_iff.mp extracted
  obtain ⟨raw, source⟩ := maybeExtractCountryCode_fields found
  split at extracted
  · obtain rfl := Except.ok.inj (Except.ok.inj extracted)
    exact ⟨raw, source (Or.inl nonempty)⟩
  · dsimp only at extracted
    split at extracted
    · obtain ⟨again, retried, extracted⟩ := bind_eq_ok_iff.mp extracted
      obtain ⟨rawAgain, sourceAgain⟩ := maybeExtractCountryCode_fields retried
      split at extracted
      · cases extracted
      · obtain rfl := Except.ok.inj (Except.ok.inj extracted)
        exact ⟨rawAgain.trans raw, sourceAgain (Or.inr (source (Or.inl nonempty)))⟩
    · cases extracted

theorem resolveRegion_fields (nationalNumber : NSString) {defaultRegion : Option NSString}
    (metadata : Option NBPhoneMetaData) {extraction : Extraction}
    (specified : defaultRegion = none → isEqualToNumber extraction.countryCode (some 0) = false) :
    (u.resolveRegion nationalNumber defaultRegion metadata true extraction).2.2.rawInput =
        extraction.phoneNumber.rawInput ∧
      (u.resolveRegion nationalNumber defaultRegion metadata true extraction).2.2.countryCodeSource =
        extraction.phoneNumber.countryCodeSource := by
  unfold resolveRegion
  split
  · exact ⟨rfl, rfl⟩
  · rename_i zero
    cases defaultRegion with
    | some region => exact ⟨rfl, rfl⟩
    | none =>
      rw [specified rfl] at zero
      exact absurd rfl zero

theorem stripForParsing_fields {number rest : NSString} {metadata : Option NBPhoneMetaData} {keepRawInput : Bool}
    {phoneNumber kept : NBPhoneNumber}
    (stripped : u.stripForParsing number metadata keepRawInput phoneNumber = .ok (rest, kept)) :
    kept.rawInput = phoneNumber.rawInput ∧ kept.countryCodeSource = phoneNumber.countryCodeSource := by
  unfold stripForParsing at stripped
  cases metadata with
  | none =>
    obtain ⟨rfl, rfl⟩ := Prod.mk.inj (Except.ok.inj stripped)
    exact ⟨rfl, rfl⟩
  | some metadata =>
    obtain ⟨result, _, stripped⟩ := bind_eq_ok_iff.mp stripped
    dsimp only at stripped
    split at stripped
    · obtain ⟨_, rfl⟩ := Prod.mk.inj (Except.ok.inj stripped)
      split <;> exact ⟨rfl, rfl⟩
    · obtain ⟨_, rfl⟩ := Prod.mk.inj (Except.ok.inj stripped)
      exact ⟨rfl, rfl⟩

theorem setItalianLeadingZerosForPhoneNumber_fields (number : NSString) (phoneNumber : NBPhoneNumber) :
    (u.setItalianLeadingZerosForPhoneNumber number phoneNumber).rawInput = phoneNumber.rawInput ∧
      (u.setItalianLeadingZerosForPhoneNumber number phoneNumber).countryCodeSource = phoneNumber.countryCodeSource := by
  unfold setItalianLeadingZerosForPhoneNumber
  split <;> exact ⟨rfl, rfl⟩

end Fields

theorem parseViable_sourced (law : u.MatchesLeadingPlus) {candidate : NSString} {defaultRegion : Option NSString}
    {start phoneNumber : NBPhoneNumber} (nonempty : candidate ≠ [])
    (signed : defaultRegion = none → candidate.head?.any isPlusChar)
    (parsed : u.parseViable candidate defaultRegion true start = .ok (.ok phoneNumber)) :
    phoneNumber.rawInput = start.rawInput ∧ phoneNumber.countryCodeSource.isSome := by
  unfold parseViable at parsed
  obtain ⟨⟨extension, number⟩, stripped, parsed⟩ := bind_eq_ok_iff.mp parsed
  obtain ⟨result, extracted, parsed⟩ := bind_eq_ok_iff.mp parsed
  have head := maybeStripExtension_head stripped
  have numberNonempty : number ≠ [] := by
    intro empty
    rw [empty] at head
    exact nonempty (List.head?_eq_none_iff.mp head.symm)
  cases result with
  | error anError => cases parsed
  | ok extraction =>
    obtain ⟨raw, source⟩ := extractForParsing_fields numberNonempty extracted
    have specified : defaultRegion = none → isEqualToNumber extraction.countryCode (some 0) = false := by
      rintro rfl
      exact extractForParsing_without_region law (head ▸ signed rfl) extracted
    obtain ⟨rawResolved, sourceResolved⟩ :=
      resolveRegion_fields (u := u) number (u.getMetadataForRegion defaultRegion) specified
    dsimp only at parsed
    cases resolved : u.resolveRegion number defaultRegion (u.getMetadataForRegion defaultRegion) true extraction with
    | mk digits rest =>
      obtain ⟨metadata, withCode⟩ := rest
      rw [resolved] at parsed rawResolved sourceResolved
      dsimp only at parsed rawResolved sourceResolved
      split at parsed
      · cases parsed
      obtain ⟨⟨rest, kept⟩, last, parsed⟩ := bind_eq_ok_iff.mp parsed
      obtain ⟨rawKept, sourceKept⟩ := stripForParsing_fields last
      dsimp only at parsed
      split at parsed
      · cases parsed
      split at parsed
      · cases parsed
      obtain rfl := Except.ok.inj (Except.ok.inj parsed)
      obtain ⟨rawLast, sourceLast⟩ := setItalianLeadingZerosForPhoneNumber_fields (u := u) rest kept
      dsimp only
      rw [rawLast, sourceLast, rawKept, sourceKept, rawResolved, sourceResolved, raw]
      refine ⟨?_, source⟩
      unfold withExtension
      split <;> rfl

/-- A number that is parsed with its raw input has that and the source of its calling code. -/
theorem parseHelper_sourced (law : u.MatchesLeadingPlus) {numberToParse defaultRegion : Option NSString}
    {phoneNumber : NBPhoneNumber}
    (parsed : u.parseHelper numberToParse defaultRegion true true = .ok (.ok phoneNumber)) :
    phoneNumber.rawInput = numberToParse.map u.normalizeNonBreakingSpace ∧ phoneNumber.countryCodeSource.isSome := by
  unfold parseHelper at parsed
  cases given : numberToParse.map u.normalizeNonBreakingSpace with
  | none =>
    rw [given] at parsed
    cases parsed
  | some s =>
    rw [given] at parsed
    dsimp only at parsed
    split at parsed
    · cases parsed
    obtain ⟨candidate, _, parsed⟩ := bind_eq_ok_iff.mp parsed
    split at parsed
    · cases parsed
    rename_i viable
    split at parsed
    · cases parsed
    rename_i known
    have nonempty : candidate ≠ [] := by
      rintro rfl
      exact viable rfl
    refine parseViable_sourced law nonempty ?_ parsed
    rintro rfl
    rw [Bool.true_and, Bool.not_eq_true, Bool.not_eq_false', checkRegionForParsing, isValidRegionCode, Bool.false_or,
      Bool.and_eq_true, isStartingStringByRegex_leadingPlus law] at known
    exact known.2

/-- Two answers agree: the same number, or errors of one domain, and an error only without a number. -/
structure Agrees (u : NBPhoneNumberUtil) (numberToParse : Option NSString) (plain raw : Parsed) : Prop where
  answers : (∃ number rawNumber, plain.phoneNumber = some number ∧ raw.phoneNumber = some rawNumber ∧
      number.countryCode = rawNumber.countryCode ∧ number.nationalNumber = rawNumber.nationalNumber ∧
      number.italianLeadingZero = rawNumber.italianLeadingZero ∧
      number.numberOfLeadingZeros = rawNumber.numberOfLeadingZeros ∧ number.extension = rawNumber.extension ∧
      rawNumber.rawInput = numberToParse.map u.normalizeNonBreakingSpace ∧ rawNumber.countryCodeSource.isSome) ∨
    (∃ anError rawError, plain.phoneNumber = none ∧ raw.phoneNumber = none ∧ plain.error = some anError ∧
      raw.error = some rawError ∧ anError.domain = rawError.domain)
  plainError : plain.error.isSome ↔ plain.phoneNumber = none
  rawError : raw.error.isSome ↔ raw.phoneNumber = none

/-- The entry points agree unless the error of a missing region is written and a
number is returned after it. -/
theorem agrees_iff_silent (law : u.MatchesLeadingPlus) {numberToParse defaultRegion : Option NSString}
    {plain raw : Parsed} (parsed : u.parse numberToParse defaultRegion = .ok plain)
    (kept : u.parseAndKeepRawInput numberToParse defaultRegion = .ok raw) :
    u.Agrees numberToParse plain raw ↔
      ¬ ((u.missingRegionError numberToParse defaultRegion).isSome ∧
        ∃ phoneNumber, u.parseHelper numberToParse defaultRegion false true = .ok (.ok phoneNumber)) := by
  unfold parse at parsed
  unfold parseAndKeepRawInput at kept
  rw [parseHelper_withoutRaw] at parsed ⊢
  obtain ⟨result, helped, kept⟩ := bind_eq_ok_iff.mp kept
  rw [helped] at parsed ⊢
  cases result with
  | error anError =>
    obtain rfl := Except.ok.inj parsed
    obtain rfl := Except.ok.inj kept
    refine iff_of_true ⟨Or.inr ⟨_, _, rfl, rfl, rfl, rfl, rfl⟩, by simp, by simp⟩ ?_
    rintro ⟨_, number, accepted⟩
    cases accepted
  | ok number =>
    obtain ⟨rawInput, source⟩ := parseHelper_sourced law helped
    obtain rfl := Except.ok.inj parsed
    obtain rfl := Except.ok.inj kept
    constructor
    · rintro agrees ⟨missing, _⟩
      have absent := agrees.rawError.mp missing
      cases absent
    · intro silent
      refine ⟨Or.inl ⟨_, number, rfl, rfl, rfl, rfl, rfl, rfl, rfl, rawInput, source⟩, by simp, ?_⟩
      have unwritten : ¬ (u.missingRegionError numberToParse defaultRegion).isSome := by
        intro missing
        exact silent ⟨missing, _, rfl⟩
      exact iff_of_false unwritten (Option.some_ne_none number)

/-- The default region is valid, or the string is empty or begins with a plus sign,
or what is extracted of it does not begin with one. -/
def StartsClearly (u : NBPhoneNumberUtil) (numberToParse defaultRegion : Option NSString) : Prop :=
  u.isValidRegionCode defaultRegion ∨
    (∀ number ∈ numberToParse, number = [] ∨ u.unicode.hasPrefix number (ns "+")) ∨
    ∀ s ∈ u.considered numberToParse, ∀ candidate, u.buildNationalNumberForParsing s = .ok candidate →
      candidate.head?.any isPlusChar = false

/-- Without a region only what begins with a plus sign is accepted. -/
theorem Accepts.signed (law : u.MatchesLeadingPlus) {s : NSString} {defaultRegion : Option NSString}
    (accepts : u.Accepts s defaultRegion) (invalid : ¬ u.isValidRegionCode defaultRegion) :
    ∃ candidate, u.buildNationalNumberForParsing s = .ok candidate ∧ candidate.head?.any isPlusChar := by
  obtain ⟨candidate, built, _, known, _⟩ := accepts
  refine ⟨candidate, built, ?_⟩
  rw [Bool.not_eq_true] at invalid
  rw [checkRegionForParsing, invalid, Bool.false_or, Bool.and_eq_true, isStartingStringByRegex_leadingPlus law] at known
  exact known.2

theorem missingRegionError_isSome_iff {numberToParse defaultRegion : Option NSString} :
    (u.missingRegionError numberToParse defaultRegion).isSome ↔
      ¬ u.isValidRegionCode defaultRegion ∧
        ¬ ∀ number ∈ numberToParse, number = [] ∨ u.unicode.hasPrefix number (ns "+") := by
  unfold missingRegionError
  cases numberToParse with
  | none => simp
  | some number =>
    simp only [Option.mem_def, Option.some.injEq, forall_eq', not_or]
    split
    · rename_i missing
      simpa [List.length_pos_iff, and_assoc] using missing
    · rename_i present
      simpa [List.length_pos_iff, and_assoc] using present

/-- The entry points agree where the string starts clearly. Elsewhere they agree
exactly when there is no number. -/
theorem entryPoints_agree (law : u.MatchesLeadingPlus) {numberToParse defaultRegion : Option NSString}
    {plain raw : Parsed} (parsed : u.parse numberToParse defaultRegion = .ok plain)
    (kept : u.parseAndKeepRawInput numberToParse defaultRegion = .ok raw) :
    (u.StartsClearly numberToParse defaultRegion → u.Agrees numberToParse plain raw) ∧
      (¬ u.StartsClearly numberToParse defaultRegion →
        (u.Agrees numberToParse plain raw ↔ plain.phoneNumber = none)) := by
  have silent := agrees_iff_silent law parsed kept
  constructor
  · intro clear
    refine silent.mpr ?_
    rintro ⟨missing, number⟩
    obtain ⟨invalid, begins⟩ := missingRegionError_isSome_iff.mp missing
    obtain ⟨s, looked, accepts⟩ := parseHelper_accepts_iff.mp number
    obtain ⟨candidate, built, signed⟩ := accepts.signed law invalid
    rcases clear with valid | plus | unsigned
    · exact invalid valid
    · exact begins plus
    · rw [unsigned s looked candidate built] at signed
      cases signed
  · intro unclear
    unfold StartsClearly at unclear
    rw [not_or, not_or, ← and_assoc] at unclear
    have missing := missingRegionError_isSome_iff.mpr unclear.1
    rw [silent, and_iff_right missing]
    unfold parse at parsed
    obtain ⟨result, helped, parsed⟩ := bind_eq_ok_iff.mp parsed
    rw [helped]
    cases result with
    | error anError =>
      obtain rfl := Except.ok.inj parsed
      simp
    | ok number =>
      obtain rfl := Except.ok.inj parsed
      simp

/-- The plain expressions over the tables of one region. -/
def plainRegion : NBPhoneNumberUtil where
  unicode := Unicode.ascii
  regex := plainExpressions
  helper :=
    { countryCodeToRegionCodeMap := fun code => if code = ns "1" then some [ns "US"] else none
      countryToMetadata := fun region =>
        if region = ns "US" then
          some
            { countryCode := some 1
              generalDesc := { nationalNumberPattern := some (ns "[2-9]\\d\x7b9\x7d"), possibleLength := some [10] } }
        else none }
  sameObject := sameText
  sameObject_eq := sameText_eq
  errorDescription := NSError.localizedDescription

def plainNumber : NBPhoneNumber := { countryCode := some 1, nationalNumber := some 6502530000 }

def rawPlainNumber (rawInput : NSString) : NBPhoneNumber :=
  { plainNumber with
    rawInput := some rawInput
    countryCodeSource := some .FROM_NUMBER_WITH_PLUS_SIGN
    preferredDomesticCarrierCode := some [] }

/-- A text from which this number is extracted parses to it. -/
theorem plainRegion_parseHelper {s : NSString} {keepRawInput : Bool} {phoneNumber : NBPhoneNumber}
    (given : plainRegion.normalizeNonBreakingSpace s = s) (short : s.length ≤ MAX_INPUT_STRING_LENGTH)
    (built : plainRegion.buildNationalNumberForParsing s = .ok (ns "+16502530000"))
    (parsed : plainRegion.parseViable (ns "+16502530000") none keepRawInput
      { rawInput := if keepRawInput then some s else none } = .ok (.ok phoneNumber)) :
    plainRegion.parseHelper (some s) none keepRawInput true = .ok (.ok phoneNumber) := by
  have viable : plainRegion.isViablePhoneNumber (ns "+16502530000") := isViablePhoneNumber_plain rfl (by decide +kernel)
  have known : plainRegion.checkRegionForParsing (ns "+16502530000") none = true := by decide +kernel
  have given : (some s).map plainRegion.normalizeNonBreakingSpace = some s := congrArg some given
  rw [parseHelper_of_viable given short built viable (fun _ => known)]
  exact parsed

/-- The number after a prefix and a plus sign is returned with an error. -/
theorem plainRegion_disagrees :
    plainRegion.parse (some (ns "tel:+16502530000")) none = .ok ⟨some plainNumber, none⟩ ∧
      plainRegion.parseAndKeepRawInput (some (ns "tel:+16502530000")) none =
        .ok ⟨some (rawPlainNumber (ns "tel:+16502530000")),
          some ⟨.INVALID_COUNTRY_CODE, ns "Invalid country code:tel:+16502530000"⟩⟩ ∧
      ¬ plainRegion.Agrees (some (ns "tel:+16502530000")) ⟨some plainNumber, none⟩
        ⟨some (rawPlainNumber (ns "tel:+16502530000")),
          some ⟨.INVALID_COUNTRY_CODE, ns "Invalid country code:tel:+16502530000"⟩⟩ := by
  have given : plainRegion.normalizeNonBreakingSpace (ns "tel:+16502530000") = ns "tel:+16502530000" := by decide +kernel
  have built : plainRegion.buildNationalNumberForParsing (ns "tel:+16502530000") = .ok (ns "+16502530000") := by
    decide +kernel
  have missing : plainRegion.missingRegionError (some (ns "tel:+16502530000")) none =
      some ⟨.INVALID_COUNTRY_CODE, ns "Invalid country code:tel:+16502530000"⟩ := by decide +kernel
  have plain : plainRegion.parseViable (ns "+16502530000") none false {} = .ok (.ok plainNumber) := by decide +kernel
  have raw : plainRegion.parseViable (ns "+16502530000") none true { rawInput := some (ns "tel:+16502530000") } =
      .ok (.ok (rawPlainNumber (ns "tel:+16502530000"))) := by decide +kernel
  refine ⟨?_, ?_, ?_⟩
  · rw [parse, plainRegion_parseHelper given (by decide +kernel) built plain]
    rfl
  · rw [parseAndKeepRawInput, missing, plainRegion_parseHelper given (by decide +kernel) built raw]
    rfl
  · intro agrees
    cases agrees.rawError.mp rfl

theorem entryPoints_agree_plainRegion :
    plainRegion.Agrees (some (ns "+16502530000")) ⟨some plainNumber, none⟩
      ⟨some (rawPlainNumber (ns "+16502530000")), none⟩ := by
  have given : plainRegion.normalizeNonBreakingSpace (ns "+16502530000") = ns "+16502530000" := by decide +kernel
  have built : plainRegion.buildNationalNumberForParsing (ns "+16502530000") = .ok (ns "+16502530000") := by
    decide +kernel
  have silent : plainRegion.missingRegionError (some (ns "+16502530000")) none = none := by decide +kernel
  have plain : plainRegion.parseViable (ns "+16502530000") none false {} = .ok (.ok plainNumber) := by decide +kernel
  have raw : plainRegion.parseViable (ns "+16502530000") none true { rawInput := some (ns "+16502530000") } =
      .ok (.ok (rawPlainNumber (ns "+16502530000"))) := by decide +kernel
  have parsed : plainRegion.parse (some (ns "+16502530000")) none = .ok ⟨some plainNumber, none⟩ := by
    rw [parse, plainRegion_parseHelper given (by decide +kernel) built plain]
    rfl
  have kept : plainRegion.parseAndKeepRawInput (some (ns "+16502530000")) none =
      .ok ⟨some (rawPlainNumber (ns "+16502530000")), none⟩ := by
    rw [parseAndKeepRawInput, silent, plainRegion_parseHelper given (by decide +kernel) built raw]
    rfl
  refine (entryPoints_agree (matchesLeadingPlus_of_plain rfl) parsed kept).1 (Or.inr (Or.inl ?_))
  intro number given
  obtain rfl := Option.some.inj given
  exact Or.inr (by decide +kernel)

end NBPhoneNumberUtil

end SignalPods.PhoneNumber
