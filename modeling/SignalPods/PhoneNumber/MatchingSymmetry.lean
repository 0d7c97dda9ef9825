import SignalPods.PhoneNumber.ParsingExceptions
import SignalPods.PhoneNumber.EntryPoints

namespace SignalPods.PhoneNumber

open Foundation

theorem matchNumbers_ne_notANumber (first second : NBPhoneNumber) : matchNumbers first second ≠ .NOT_A_NUMBER := by
  unfold matchNumbers matchSpecified matchUnspecified
  dsimp only
  split
  · decide
  split
  · split
    · decide
    split <;> decide
  · split
    · decide
    split <;> decide

theorem exactToNsnMatch_ne_notANumber (first second : NBPhoneNumber) :
    exactToNsnMatch (matchNumbers first second) ≠ .NOT_A_NUMBER := by
  have number := matchNumbers_ne_notANumber first second
  cases result : matchNumbers first second with
  | NOT_A_NUMBER => exact absurd result number
  | _ => decide

namespace NBPhoneNumberUtil

variable {u : NBPhoneNumberUtil}

/-- An invalid calling code is only found before the lengths are judged. -/
theorem extractForParsing_of_invalid {candidate : NSString} {defaultRegion : Option NSString} {keepRawInput : Bool}
    {phoneNumber : NBPhoneNumber} {anError : NSError}
    (parsed : u.parseViable candidate defaultRegion keepRawInput phoneNumber = .ok (.error anError))
    (invalid : anError.domain = .INVALID_COUNTRY_CODE) :
    ∃ extension number, u.maybeStripExtension candidate = .ok (extension, number) ∧
      u.extractForParsing number (u.getMetadataForRegion defaultRegion) keepRawInput
        (withExtension extension phoneNumber) = .ok (.error anError) := by
  unfold parseViable at parsed
  obtain ⟨⟨extension, number⟩, stripped, parsed⟩ := bind_eq_ok_iff.mp parsed
  obtain ⟨result, extracted, parsed⟩ := bind_eq_ok_iff.mp parsed
  cases result with
  | error reported =>
    obtain rfl := Except.error.inj (Except.ok.inj parsed)
    exact ⟨extension, number, stripped, extracted⟩
  | ok extraction =>
    -- the errors after this are those of a length
    dsimp only at parsed
    split at parsed
    · obtain rfl := Except.error.inj (Except.ok.inj parsed)
      cases invalid
    obtain ⟨⟨rest, kept⟩, _, parsed⟩ := bind_eq_ok_iff.mp parsed
    dsimp only at parsed
    split at parsed
    · obtain rfl := Except.error.inj (Except.ok.inj parsed)
      cases invalid
    split at parsed
    · obtain rfl := Except.error.inj (Except.ok.inj parsed)
      cases invalid
    · cases parsed

/-- Without a plus sign or a region the calling code is zero. -/
theorem parseViable_unsigned (law : u.MatchesLeadingPlus) {candidate : NSString} {phoneNumber : NBPhoneNumber}
    (nonempty : candidate ≠ []) (unsigned : candidate.head?.any isPlusChar = false)
    (parsed : u.parseViable candidate none false {} = .ok (.ok phoneNumber)) : phoneNumber.countryCode = some 0 := by
  unfold parseViable at parsed
  obtain ⟨⟨extension, number⟩, stripped, parsed⟩ := bind_eq_ok_iff.mp parsed
  obtain ⟨result, extracted, parsed⟩ := bind_eq_ok_iff.mp parsed
  have head := maybeStripExtension_head stripped
  have numberNonempty : number ≠ [] := by
    rintro rfl
    exact nonempty (List.head?_eq_none_iff.mp head.symm)
  obtain ⟨extraction, found, code, absent, specified⟩ := maybeExtractCountryCode_unsigned law (head ▸ unsigned) []
    false (withExtension extension {})
  have same : result = .ok extraction := by
    have first : u.extractForParsing number (u.getMetadataForRegion none) false (withExtension extension {}) =
        .ok (.ok extraction) := by
      unfold extractForParsing
      rw [show u.getMetadataForRegion none = none from rfl, found]
      simp only [bind, Except.bind, absent]
      rfl
    exact Except.ok.inj (extracted.symm.trans first)
  subst same
  have resolved : u.resolveRegion number none (u.getMetadataForRegion none) false extraction =
      (extraction.nationalNumber ++ u.normalize number, none, extraction.phoneNumber) := by
    unfold resolveRegion
    rw [code]
    rfl
  dsimp only at parsed
  rw [resolved] at parsed
  dsimp only at parsed
  split at parsed
  · cases parsed
  rw [show u.stripForParsing (extraction.nationalNumber ++ u.normalize number) none false extraction.phoneNumber =
    .ok (extraction.nationalNumber ++ u.normalize number, extraction.phoneNumber) from rfl] at parsed
  simp only [bind, Except.bind] at parsed
  split at parsed
  · cases parsed
  split at parsed
  · cases parsed
  obtain rfl := Except.ok.inj (Except.ok.inj parsed)
  dsimp only
  unfold setItalianLeadingZerosForPhoneNumber
  split <;> exact specified numberNonempty

/-- A string without a calling code of its own: only a region is missing. -/
def NeedsRegion (u : NBPhoneNumberUtil) (s : NSString) : Prop :=
  ∃ anError : NSError, u.parseHelper (some s) (some NB_UNKNOWN_REGION) false true = .ok (.error anError) ∧
    anError.domain = .INVALID_COUNTRY_CODE

theorem NeedsRegion.countryCode (law : u.MatchesLeadingPlus) {s : NSString} {phoneNumber : NBPhoneNumber}
    (needs : u.NeedsRegion s) (parsed : u.parseHelper (some s) none false false = .ok (.ok phoneNumber)) :
    phoneNumber.countryCode = some 0 := by
  obtain ⟨anError, failed, invalid⟩ := needs
  unfold parseHelper at parsed
  cases given : (some s).map u.normalizeNonBreakingSpace with
  | none => cases given
  | some normalized =>
    rw [given] at parsed
    dsimp only at parsed
    split at parsed
    · cases parsed
    rename_i short
    obtain ⟨candidate, built, parsed⟩ := bind_eq_ok_iff.mp parsed
    split at parsed
    · cases parsed
    rename_i unviable
    have viable : u.isViablePhoneNumber candidate := by simpa using unviable
    have nonempty : candidate ≠ [] := by
      rintro rfl
      cases viable
    cases signed : candidate.head?.any isPlusChar with
    | false => exact parseViable_unsigned law nonempty signed parsed
    | true =>
      -- a plus sign would have been enough
      have known : u.checkRegionForParsing candidate (some NB_UNKNOWN_REGION) = true := by
        unfold checkRegionForParsing
        rw [isStartingStringByRegex_leadingPlus law, signed, List.isEmpty_eq_false_iff.mpr nonempty]
        simp
      rw [parseHelper_of_viable given (Nat.not_lt.mp short) built viable (fun _ => known)] at failed
      obtain ⟨extension, number, stripped, extracted⟩ := extractForParsing_of_invalid failed invalid
      obtain ⟨extension', number', extraction, _, _, _, _, _, stripped', extracted', _⟩ :=
        parseViable_leaves_iff.mp ⟨phoneNumber, parsed⟩
      obtain ⟨rfl, rfl⟩ := Prod.mk.inj (Except.ok.inj (stripped.symm.trans stripped'))
      have signed' : number.head?.any isPlusChar := (maybeStripExtension_head stripped) ▸ signed
      have again := extractForParsing_in_region law signed' extracted' (u.getMetadataForRegion (some NB_UNKNOWN_REGION))
      cases extracted.symm.trans again

/-- No number can be made of a string alone, but one can in the region of a number. -/
def OnlyInRegionOf (u : NBPhoneNumberUtil) (s : NSString) (number : NBPhoneNumber) : Prop :=
  (∃ anError, u.parseHelper (some s) none false false = .ok (.error anError)) ∧
    ∃ region other, u.knownRegion number.countryCode = some region ∧
      u.parseHelper (some s) (some region) false true = .ok (.ok other)

/-- The first string alone is compared with the second in a region. -/
def matchInRegion (u : NBPhoneNumberUtil) (region first second : NSString) : Objc NBEMatchType := do
  match ← u.parseHelper (some first) none false false with
  | .error _ => return .NOT_A_NUMBER
  | .ok firstNumber =>
    match ← u.parseHelper (some second) (some region) false true with
    | .error _ => return .NOT_A_NUMBER
    | .ok secondNumber => return exactToNsnMatch (matchNumbers secondNumber firstNumber)

/-- The order of two strings makes no difference: a string without a calling code
can be parsed alone if it can in the region of the other one. -/
structure StringsMatchAlike (u : NBPhoneNumberUtil) (first second : NSString) : Prop where
  secondAlone : ∀ number, u.parseHelper (some first) (some NB_UNKNOWN_REGION) false true = .ok (.ok number) →
    u.NeedsRegion second → ¬ u.OnlyInRegionOf second number
  firstAlone : ∀ number, u.parseHelper (some second) (some NB_UNKNOWN_REGION) false true = .ok (.ok number) →
    u.NeedsRegion first → ¬ u.OnlyInRegionOf first number

theorem StringsMatchAlike.symm {first second : NSString} (alike : u.StringsMatchAlike first second) :
    u.StringsMatchAlike second first :=
  ⟨alike.firstAlone, alike.secondAlone⟩

/-- The metadata lists a known region under the calling code zero, and neither
string has a calling code: then one is parsed alone and the other one in it. -/
def MeetInRegionOfZero (u : NBPhoneNumberUtil) (first second : NSString) : Prop :=
  u.knownRegion (some 0) ≠ none ∧ u.NeedsRegion first ∧ u.NeedsRegion second

theorem MeetInRegionOfZero.symm {first second : NSString} (meet : u.MeetInRegionOfZero first second) :
    u.MeetInRegionOfZero second first :=
  ⟨meet.1, meet.2.2, meet.2.1⟩

/-- What the parsing of a string gives, raising nothing. -/
def ParsesString (u : NBPhoneNumberUtil) (s : NSString) : Prop :=
  ∀ defaultRegion checkRegion, Returns (u.parseHelper (some s) defaultRegion false checkRegion)

section Strings

variable {first second : NSString}

theorem matchStringNumber_own {number ownNumber : NBPhoneNumber}
    (own : u.parseHelper (some first) (some NB_UNKNOWN_REGION) false true = .ok (.ok ownNumber)) :
    u.matchStringNumber first number = .ok (matchNumbers ownNumber number) := by
  unfold matchStringNumber firstNumberOfString
  rw [own]
  rfl

theorem matchStringNumber_unknown {number : NBPhoneNumber} (needs : u.NeedsRegion first)
    (unknown : u.knownRegion number.countryCode = none) :
    u.matchStringNumber first number =
      (u.parseHelper (some first) none false false).map fun alone =>
        match alone with
        | .error _ => .NOT_A_NUMBER
        | .ok firstNumber => matchNumbers firstNumber number := by
  obtain ⟨anError, failed, invalid⟩ := needs
  unfold matchStringNumber firstNumberOfString
  rw [failed, unknown]
  simp only [bind, Except.bind, invalid, ne_eq, not_true, if_false]
  cases u.parseHelper (some first) none false false with
  | error exception => rfl
  | ok alone => cases alone <;> rfl

theorem matchStringNumber_known {number : NBPhoneNumber} {region : NSString} (needs : u.NeedsRegion first)
    (known : u.knownRegion number.countryCode = some region) :
    u.matchStringNumber first number =
      (u.parseHelper (some first) (some region) false true).map fun located =>
        match located with
        | .error _ => .NOT_A_NUMBER
        | .ok firstNumber => exactToNsnMatch (matchNumbers firstNumber number) := by
  obtain ⟨anError, failed, invalid⟩ := needs
  unfold matchStringNumber firstNumberOfString
  rw [failed, known]
  simp only [bind, Except.bind, invalid, ne_eq, not_true, if_false]
  cases u.parseHelper (some first) (some region) false true with
  | error exception => rfl
  | ok located => cases located <;> rfl

/-- The first string is none at all. -/
theorem matchStrings_first_error {anError : NSError}
    (failed : u.parseHelper (some first) (some NB_UNKNOWN_REGION) false true = .ok (.error anError))
    (other : anError.domain ≠ .INVALID_COUNTRY_CODE) : u.matchStrings first second = .ok .NOT_A_NUMBER := by
  unfold matchStrings firstNumberOfString
  rw [failed]
  simp only [bind, Except.bind, if_pos other]
  rfl

theorem matchStrings_own {firstNumber : NBPhoneNumber}
    (own : u.parseHelper (some first) (some NB_UNKNOWN_REGION) false true = .ok (.ok firstNumber)) :
    u.matchStrings first second =
      (do
        match ← u.parseHelper (some second) (some NB_UNKNOWN_REGION) false true with
        | .error parseError =>
          if parseError.domain ≠ .INVALID_COUNTRY_CODE then return .NOT_A_NUMBER
          else u.matchStringNumber second firstNumber
        | .ok secondNumber => u.matchStringNumber first secondNumber) := by
  unfold matchStrings firstNumberOfString
  rw [own]
  rfl

theorem matchStrings_needs (needs : u.NeedsRegion first) :
    u.matchStrings first second =
      (do
        match ← u.parseHelper (some first) none false false with
        | .error _ => return .NOT_A_NUMBER
        | .ok firstNumber =>
          match ← u.parseHelper (some second) (some NB_UNKNOWN_REGION) false true with
          | .error parseError =>
            if parseError.domain ≠ .INVALID_COUNTRY_CODE then return .NOT_A_NUMBER
            else u.matchStringNumber second firstNumber
          | .ok secondNumber => u.matchStringNumber first secondNumber) := by
  obtain ⟨anError, failed, invalid⟩ := needs
  unfold matchStrings firstNumberOfString
  rw [failed]
  simp only [bind, Except.bind, invalid, ne_eq, not_true, if_false]
  cases u.parseHelper (some first) none false false with
  | error exception => rfl
  | ok alone => cases alone <;> rfl

theorem NeedsRegion.not_own (needs : u.NeedsRegion first) (number : NBPhoneNumber) :
    u.parseHelper (some first) (some NB_UNKNOWN_REGION) false true ≠ .ok (.ok number) := by
  obtain ⟨anError, failed, _⟩ := needs
  rw [failed]
  intro own
  cases own

theorem ParsesString.cases (parses : u.ParsesString first) :
    (∃ number, u.parseHelper (some first) (some NB_UNKNOWN_REGION) false true = .ok (.ok number)) ∨
      u.NeedsRegion first ∨
      ∃ anError : NSError, u.parseHelper (some first) (some NB_UNKNOWN_REGION) false true = .ok (.error anError) ∧
        anError.domain ≠ .INVALID_COUNTRY_CODE := by
  obtain ⟨result, parsed⟩ := parses (some NB_UNKNOWN_REGION) true
  cases result with
  | ok number => exact Or.inl ⟨number, parsed⟩
  | error anError =>
    by_cases invalid : anError.domain = .INVALID_COUNTRY_CODE
    · exact Or.inr (Or.inl ⟨anError, parsed, invalid⟩)
    · exact Or.inr (Or.inr ⟨anError, parsed, invalid⟩)

theorem matchStrings_second_error (parses : u.ParsesString first) {anError : NSError}
    (failed : u.parseHelper (some second) (some NB_UNKNOWN_REGION) false true = .ok (.error anError))
    (other : anError.domain ≠ .INVALID_COUNTRY_CODE) : u.matchStrings first second = .ok .NOT_A_NUMBER := by
  obtain ⟨number, own⟩ | needs | ⟨anError', failed', other'⟩ := parses.cases
  · rw [matchStrings_own own, failed]
    simp only [bind, Except.bind, if_pos other]
    rfl
  · obtain ⟨alone, parsed⟩ := parses none false
    rw [matchStrings_needs needs, parsed, failed]
    cases alone with
    | error anError => rfl
    | ok number =>
      simp only [bind, Except.bind, if_pos other]
      rfl
  · exact matchStrings_first_error failed' other'

/-- Only one of two strings has a calling code. -/
theorem matchStrings_own_needs (parses : u.ParsesString second) {number : NBPhoneNumber}
    (own : u.parseHelper (some first) (some NB_UNKNOWN_REGION) false true = .ok (.ok number))
    (needs : u.NeedsRegion second) :
    ∃ result result', u.matchStrings first second = .ok result ∧ u.matchStrings second first = .ok result' ∧
      (result = result' ↔ ¬ u.OnlyInRegionOf second number) := by
  obtain ⟨alone, parsed⟩ := parses none false
  have forward : u.matchStrings first second = u.matchStringNumber second number := by
    obtain ⟨anError, failed, invalid⟩ := needs
    rw [matchStrings_own own, failed]
    simp only [bind, Except.bind, invalid, ne_eq, not_true, if_false]
  rw [forward, matchStrings_needs needs, parsed]
  cases alone with
  | ok alone =>
    -- then the strings are swapped to the same call
    obtain ⟨result, returned⟩ : Returns (u.matchStringNumber second number) := by
      cases known : u.knownRegion number.countryCode with
      | none =>
        rw [matchStringNumber_unknown needs known]
        exact Returns.map _ (parses _ _)
      | some region =>
        rw [matchStringNumber_known needs known]
        exact Returns.map _ (parses _ _)
    refine ⟨result, result, returned, ?_, iff_of_true rfl ?_⟩
    · rw [own]
      exact returned
    · rintro ⟨⟨anError, failed⟩, _⟩
      cases parsed.symm.trans failed
  | error anError =>
    cases known : u.knownRegion number.countryCode with
    | none =>
      rw [matchStringNumber_unknown needs known, parsed]
      refine ⟨_, _, rfl, rfl, iff_of_true rfl ?_⟩
      rintro ⟨_, region, _, located, _⟩
      rw [known] at located
      cases located
    | some region =>
      obtain ⟨located, parsedThere⟩ := parses (some region) true
      rw [matchStringNumber_known needs known, parsedThere]
      cases located with
      | error located =>
        refine ⟨_, _, rfl, rfl, iff_of_true rfl ?_⟩
        rintro ⟨_, region', other, known', there⟩
        obtain rfl := Option.some.inj (known.symm.trans known')
        cases parsedThere.symm.trans there
      | ok other =>
        refine ⟨_, _, rfl, rfl, iff_of_false (exactToNsnMatch_ne_notANumber other number) ?_⟩
        intro nowhere
        exact nowhere ⟨⟨anError, parsed⟩, region, other, known, parsedThere⟩

/-- Neither of two strings has a calling code. -/
theorem matchStrings_needs_needs (law : u.MatchesLeadingPlus) (parses : u.ParsesString first)
    (needsFirst : u.NeedsRegion first) (needsSecond : u.NeedsRegion second) :
    u.matchStrings first second =
      match u.knownRegion (some 0) with
      | some region => u.matchInRegion region first second
      | none => (do
        match ← u.parseHelper (some first) none false false with
        | .error _ => return .NOT_A_NUMBER
        | .ok firstNumber =>
          match ← u.parseHelper (some second) none false false with
          | .error _ => return .NOT_A_NUMBER
          | .ok secondNumber => return matchNumbers secondNumber firstNumber) := by
  obtain ⟨alone, parsed⟩ := parses none false
  have swapped (firstNumber : NBPhoneNumber) (same : alone = .ok firstNumber) :
      u.matchStrings first second = u.matchStringNumber second firstNumber := by
    obtain ⟨anError, failed, invalid⟩ := needsSecond
    rw [matchStrings_needs needsFirst, parsed, same, failed]
    simp only [bind, Except.bind, invalid, ne_eq, not_true, if_false]
  cases alone with
  | error anError =>
    unfold matchInRegion
    rw [matchStrings_needs needsFirst, parsed]
    cases u.knownRegion (some 0) <;> rfl
  | ok firstNumber =>
    have zero := needsFirst.countryCode law parsed
    rw [swapped firstNumber rfl]
    cases known : u.knownRegion (some 0) with
    | none =>
      rw [matchStringNumber_unknown needsSecond (zero ▸ known), parsed]
      simp only [bind, Except.bind]
      cases u.parseHelper (some second) none false false with
      | error exception => rfl
      | ok alone => cases alone <;> rfl
    | some region =>
      unfold matchInRegion
      rw [matchStringNumber_known needsSecond (zero ▸ known), parsed]
      simp only [bind, Except.bind]
      cases u.parseHelper (some second) (some region) false true with
      | error exception => rfl
      | ok located => cases located <;> rfl

theorem matchInRegion_returns (region : NSString) (parsesFirst : u.ParsesString first)
    (parsesSecond : u.ParsesString second) : Returns (u.matchInRegion region first second) := by
  unfold matchInRegion
  refine (parsesFirst none false).bind fun alone _ => ?_
  cases alone with
  | error anError => exact returns_pure _
  | ok firstNumber =>
    refine (parsesSecond (some region) true).bind fun located _ => ?_
    cases located with
    | error anError => exact returns_pure _
    | ok secondNumber => exact returns_pure _

/-- Both orders of two strings have a match, and when it is the same one. -/
def ComparesAlike (u : NBPhoneNumberUtil) (first second : NSString) : Prop :=
  ∃ result result', u.matchStrings first second = .ok result ∧ u.matchStrings second first = .ok result' ∧
    (¬ u.MeetInRegionOfZero first second → (result = result' ↔ u.StringsMatchAlike first second))

theorem ComparesAlike.symm (compares : u.ComparesAlike first second) : u.ComparesAlike second first := by
  obtain ⟨result, result', forward, backward, same⟩ := compares
  refine ⟨result', result, backward, forward, fun apart => ?_⟩
  rw [eq_comm, same fun meet => apart meet.symm]
  exact ⟨StringsMatchAlike.symm, StringsMatchAlike.symm⟩

theorem comparesAlike_of_error (parses : u.ParsesString second) {anError : NSError}
    (failed : u.parseHelper (some first) (some NB_UNKNOWN_REGION) false true = .ok (.error anError))
    (other : anError.domain ≠ .INVALID_COUNTRY_CODE) : u.ComparesAlike first second := by
  have whole : ¬ u.NeedsRegion first := by
    rintro ⟨anError', failed', invalid⟩
    obtain rfl := Except.error.inj (Except.ok.inj (failed.symm.trans failed'))
    exact other invalid
  refine ⟨_, _, matchStrings_first_error failed other, matchStrings_second_error parses failed other, ?_⟩
  intro _
  refine iff_of_true rfl ⟨?_, ?_⟩
  · intro number own
    cases failed.symm.trans own
  · intro _ _ needs
    exact absurd needs whole

theorem comparesAlike_of_own {firstNumber secondNumber : NBPhoneNumber}
    (ownFirst : u.parseHelper (some first) (some NB_UNKNOWN_REGION) false true = .ok (.ok firstNumber))
    (ownSecond : u.parseHelper (some second) (some NB_UNKNOWN_REGION) false true = .ok (.ok secondNumber)) :
    u.ComparesAlike first second := by
  refine ⟨matchNumbers firstNumber secondNumber, matchNumbers secondNumber firstNumber, ?_, ?_, ?_⟩
  · rw [matchStrings_own ownFirst, ownSecond]
    exact matchStringNumber_own ownFirst
  · rw [matchStrings_own ownSecond, ownFirst]
    exact matchStringNumber_own ownSecond
  · intro _
    refine iff_of_true (matchNumbers_comm _ _) ⟨?_, ?_⟩
    · intro _ _ needs
      exact absurd ownSecond (needs.not_own secondNumber)
    · intro _ _ needs
      exact absurd ownFirst (needs.not_own firstNumber)

theorem comparesAlike_of_own_needs (parses : u.ParsesString second) {number : NBPhoneNumber}
    (own : u.parseHelper (some first) (some NB_UNKNOWN_REGION) false true = .ok (.ok number))
    (needs : u.NeedsRegion second) : u.ComparesAlike first second := by
  obtain ⟨result, result', forward, backward, same⟩ := matchStrings_own_needs parses own needs
  refine ⟨result, result', forward, backward, fun _ => same.trans ⟨?_, ?_⟩⟩
  · intro nowhere
    refine ⟨?_, ?_⟩
    · intro number' own' _
      obtain rfl := Except.ok.inj (Except.ok.inj (own.symm.trans own'))
      exact nowhere
    · intro number' own'
      exact absurd own' (needs.not_own number')
  · intro alike
    exact alike.secondAlone number own needs

theorem comparesAlike_of_needs (law : u.MatchesLeadingPlus) (parsesFirst : u.ParsesString first)
    (parsesSecond : u.ParsesString second) (needsFirst : u.NeedsRegion first) (needsSecond : u.NeedsRegion second) :
    u.ComparesAlike first second := by
  have own (first second : NSString) (needs : u.NeedsRegion first) :
      ∀ number, u.parseHelper (some first) (some NB_UNKNOWN_REGION) false true = .ok (.ok number) →
        u.NeedsRegion second → ¬ u.OnlyInRegionOf second number := by
    intro number own
    exact absurd own (needs.not_own number)
  unfold ComparesAlike
  rw [matchStrings_needs_needs law parsesFirst needsFirst needsSecond,
    matchStrings_needs_needs law parsesSecond needsSecond needsFirst]
  cases known : u.knownRegion (some 0) with
  | some region =>
    obtain ⟨result, forward⟩ := matchInRegion_returns region parsesFirst parsesSecond
    obtain ⟨result', backward⟩ := matchInRegion_returns region parsesSecond parsesFirst
    refine ⟨result, result', forward, backward, fun apart => ?_⟩
    have meet : u.MeetInRegionOfZero first second := by
      refine ⟨?_, needsFirst, needsSecond⟩
      rw [known]
      exact Option.some_ne_none region
    exact absurd meet apart
  | none =>
    have alike : u.StringsMatchAlike first second :=
      ⟨own first second needsFirst, own second first needsSecond⟩
    obtain ⟨aloneFirst, parsedFirst⟩ := parsesFirst none false
    obtain ⟨aloneSecond, parsedSecond⟩ := parsesSecond none false
    dsimp only
    rw [parsedFirst, parsedSecond]
    cases aloneFirst with
    | error anError =>
      cases aloneSecond with
      | error anError' => exact ⟨_, _, rfl, rfl, fun _ => iff_of_true rfl alike⟩
      | ok secondNumber => exact ⟨_, _, rfl, rfl, fun _ => iff_of_true rfl alike⟩
    | ok firstNumber =>
      cases aloneSecond with
      | error anError' => exact ⟨_, _, rfl, rfl, fun _ => iff_of_true rfl alike⟩
      | ok secondNumber => exact ⟨_, _, rfl, rfl, fun _ => iff_of_true (matchNumbers_comm _ _) alike⟩

theorem comparesAlike (law : u.MatchesLeadingPlus) (parsesFirst : u.ParsesString first)
    (parsesSecond : u.ParsesString second) : u.ComparesAlike first second := by
  obtain ⟨number, own⟩ | needs | ⟨anError, failed, other⟩ := parsesFirst.cases
  · obtain ⟨number', own'⟩ | needs' | ⟨anError, failed, other⟩ := parsesSecond.cases
    · exact comparesAlike_of_own own own'
    · exact comparesAlike_of_own_needs parsesSecond own needs'
    · exact (comparesAlike_of_error parsesFirst failed other).symm
  · obtain ⟨number', own'⟩ | needs' | ⟨anError, failed, other⟩ := parsesSecond.cases
    · exact (comparesAlike_of_own_needs parsesFirst own' needs).symm
    · exact comparesAlike_of_needs law parsesFirst parsesSecond needs needs'
    · exact (comparesAlike_of_error parsesFirst failed other).symm
  · exact comparesAlike_of_error parsesSecond failed other

end Strings

theorem matchNumberString_eq {s : NSString} (parses : u.ParsesString s) (number : NBPhoneNumber) :
    u.matchNumberString number s = u.matchStringNumber s number := by
  unfold matchNumberString
  obtain ⟨own, parsed⟩ | ⟨anError, failed, invalid⟩ | ⟨anError, failed, other⟩ := parses.cases
  · rw [matchStringNumber_own parsed, parsed, matchNumbers_comm]
    rfl
  · rw [failed]
    simp only [bind, Except.bind, invalid, ne_eq, not_true, if_false]
  · unfold matchStringNumber firstNumberOfString
    rw [failed]
    simp only [bind, Except.bind, if_pos other]
    rfl

theorem matchStringNumber_returns_of_parses {s : NSString} (parses : u.ParsesString s) (number : NBPhoneNumber) :
    Returns (u.matchStringNumber s number) := by
  obtain ⟨own, parsed⟩ | needs | ⟨anError, failed, other⟩ := parses.cases
  · rw [matchStringNumber_own parsed]
    exact returns_ok _
  · cases known : u.knownRegion number.countryCode with
    | none =>
      rw [matchStringNumber_unknown needs known]
      exact Returns.map _ (parses _ _)
    | some region =>
      rw [matchStringNumber_known needs known]
      exact Returns.map _ (parses _ _)
  · unfold matchStringNumber firstNumberOfString
    rw [failed]
    simp only [bind, Except.bind, if_pos other]
    exact returns_ok _

/-- The parsing of an argument raises nothing. -/
def ParsesValue (u : NBPhoneNumberUtil) : MatchValue → Prop
  | .string s => u.ParsesString s
  | .phoneNumber _ => True

/-- Only two strings may compare differently in the other order. -/
def MatchesAlike (u : NBPhoneNumberUtil) : MatchValue → MatchValue → Prop
  | .string first, .string second => u.StringsMatchAlike first second
  | _, _ => True

/-- Two strings that are parsed in a region the calling code zero has. -/
def ValuesMeetInRegionOfZero (u : NBPhoneNumberUtil) : MatchValue → MatchValue → Prop
  | .string first, .string second => u.MeetInRegionOfZero first second
  | _, _ => False

theorem matchValues_alike_iff (law : u.MatchesLeadingPlus) {first second : MatchValue}
    (parsesFirst : u.ParsesValue first) (parsesSecond : u.ParsesValue second) :
    ∃ result result', u.matchValues first second = .ok result ∧ u.matchValues second first = .ok result' ∧
      (¬ u.ValuesMeetInRegionOfZero first second → (result = result' ↔ u.MatchesAlike first second)) := by
  cases first with
  | string first =>
    cases second with
    | string second => exact comparesAlike law parsesFirst parsesSecond
    | phoneNumber number =>
      obtain ⟨result, returned⟩ := matchStringNumber_returns_of_parses parsesFirst number
      exact ⟨result, result, returned, (matchNumberString_eq parsesFirst number).trans returned,
        fun _ => iff_of_true rfl trivial⟩
  | phoneNumber number =>
    cases second with
    | string second =>
      obtain ⟨result, returned⟩ := matchStringNumber_returns_of_parses parsesSecond number
      exact ⟨result, result, (matchNumberString_eq parsesSecond number).trans returned, returned,
        fun _ => iff_of_true rfl trivial⟩
    | phoneNumber other => exact ⟨_, _, rfl, rfl, fun _ => iff_of_true (matchNumbers_comm _ _) trivial⟩

/-- A match of two arguments ends and leaves every number as it was. It is the same
in the other order exactly when two strings compare alike; of strings that meet in a
region of the calling code zero nothing more is said. -/
theorem isNumberMatch_symmetric_iff (law : u.MatchesLeadingPlus) {heap : List NBPhoneNumber}
    {first second : MatchInput} {firstValue secondValue : MatchValue}
    (denotesFirst : first.Denotes heap firstValue) (denotesSecond : second.Denotes heap secondValue)
    (parsesFirst : u.ParsesValue firstValue) (parsesSecond : u.ParsesValue secondValue) :
    ∃ result result' after after', (u.isNumberMatch first second).run heap = .ok (result, after) ∧
      (u.isNumberMatch second first).run heap = .ok (result', after') ∧ heap <+: after ∧ heap <+: after' ∧
      (¬ u.ValuesMeetInRegionOfZero firstValue secondValue →
        (result = result' ↔ u.MatchesAlike firstValue secondValue)) := by
  obtain ⟨result, result', forward, backward, same⟩ := matchValues_alike_iff law parsesFirst parsesSecond
  obtain ⟨after, kept, run⟩ := isNumberMatch_keeps (u := u) denotesFirst denotesSecond
  obtain ⟨after', kept', run'⟩ := isNumberMatch_keeps (u := u) denotesSecond denotesFirst
  rw [forward] at run
  rw [backward] at run'
  exact ⟨result, result', after, after', run, run', kept, kept', same⟩

/-- The plain expressions over the tables of a region with an international prefix. -/
def plainGermany : NBPhoneNumberUtil where
  unicode := Unicode.ascii
  regex := plainExpressions
  helper :=
    { countryCodeToRegionCodeMap := fun code => if code = ns "49" then some [ns "DE"] else none
      countryToMetadata := fun region =>
        if region = ns "DE" then
          some
            { countryCode := some 49
              internationalPrefix := some (ns "00")
              generalDesc := { nationalNumberPattern := some (ns "\\d+"), possibleLength := some [10, 14] } }
        else none }
  sameObject := sameText
  sameObject_eq := sameText_eq
  errorDescription := NSError.localizedDescription

theorem plainGermany_complete : plainGermany.helper.Complete := by
  intro region metadata found
  unfold plainGermany at found
  dsimp only at found
  split at found
  · cases found
    exact ⟨rfl, by decide⟩
  · cases found

section LongNumber

/-- Fourteen digits after the calling code. -/
def longNumber : NBPhoneNumber := { countryCode := some 49, nationalNumber := some 30123456789012 }

theorem plainGermany_viable (s : NSString) (number : isPlainNumber s) : plainGermany.isViablePhoneNumber s :=
  isViablePhoneNumber_plain rfl number

theorem plainGermany_parses {s : NSString}
    (plain : literalSearch (plainGermany.normalizeNonBreakingSpace s) RFC3966_PHONE_CONTEXT = none) :
    plainGermany.ParsesString s := by
  intro defaultRegion checkRegion
  refine (parseHelper_returns_iff plainGermany_complete _ _ _ _).mpr ?_
  intro t member index found
  obtain ⟨same, _⟩ := Option.mem_filter_iff.mp member
  obtain rfl := Option.some.inj same
  cases plain.symm.trans found

theorem plainGermany_signed :
    plainGermany.parseHelper (some (ns "+4930123456789012")) (some NB_UNKNOWN_REGION) false true =
      .ok (.ok longNumber) := by
  have given : (some (ns "+4930123456789012")).map plainGermany.normalizeNonBreakingSpace =
      some (ns "+4930123456789012") := by decide +kernel
  have built : plainGermany.buildNationalNumberForParsing (ns "+4930123456789012") = .ok (ns "+4930123456789012") := by
    decide +kernel
  rw [parseHelper_of_viable given (by decide +kernel) built (plainGermany_viable _ (by decide +kernel))
    (fun _ => by decide +kernel)]
  decide +kernel

/-- With its international prefix the number is too long to stand alone. -/
theorem plainGermany_prefixed :
    plainGermany.NeedsRegion (ns "004930123456789012") ∧
      plainGermany.parseHelper (some (ns "004930123456789012")) none false false =
        .ok (.error ⟨.TOO_LONG, ns "TOO_LONG:004930123456789012"⟩) ∧
      plainGermany.parseHelper (some (ns "004930123456789012")) (some (ns "DE")) false true = .ok (.ok longNumber) := by
  have given : (some (ns "004930123456789012")).map plainGermany.normalizeNonBreakingSpace =
      some (ns "004930123456789012") := by decide +kernel
  have short : (ns "004930123456789012").length ≤ MAX_INPUT_STRING_LENGTH := by decide +kernel
  have built : plainGermany.buildNationalNumberForParsing (ns "004930123456789012") = .ok (ns "004930123456789012") := by
    decide +kernel
  have viable := plainGermany_viable (ns "004930123456789012") (by decide +kernel)
  have unknown : plainGermany.checkRegionForParsing (ns "004930123456789012") (some NB_UNKNOWN_REGION) = false := by
    decide +kernel
  have known : plainGermany.checkRegionForParsing (ns "004930123456789012") (some (ns "DE")) = true := by
    decide +kernel
  refine ⟨⟨_, parseHelper_of_unknown_region given short built viable unknown, rfl⟩, ?_, ?_⟩
  · rw [parseHelper_of_viable given short built viable (fun checked => by cases checked)]
    decide +kernel
  · rw [parseHelper_of_viable given short built viable (fun _ => known)]
    decide +kernel

theorem plainGermany_not_alike :
    ¬ plainGermany.StringsMatchAlike (ns "+4930123456789012") (ns "004930123456789012") := by
  obtain ⟨needs, alone, located⟩ := plainGermany_prefixed
  intro alike
  exact alike.secondAlone longNumber plainGermany_signed needs
    ⟨⟨_, alone⟩, ns "DE", longNumber, by decide +kernel, located⟩

/-- One order is a match, the other is not a number. -/
theorem plainGermany_asymmetric :
    (∃ after, (plainGermany.isNumberMatch (.string (ns "+4930123456789012")) (.string (ns "004930123456789012"))).run [] =
        .ok (.NSN_MATCH, after)) ∧
      ∃ after, (plainGermany.isNumberMatch (.string (ns "004930123456789012")) (.string (ns "+4930123456789012"))).run [] =
        .ok (.NOT_A_NUMBER, after) := by
  obtain ⟨needs, alone, located⟩ := plainGermany_prefixed
  have known : plainGermany.knownRegion longNumber.countryCode = some (ns "DE") := by decide +kernel
  have forward : plainGermany.matchStrings (ns "+4930123456789012") (ns "004930123456789012") = .ok .NSN_MATCH := by
    obtain ⟨anError, failed, invalid⟩ := needs
    rw [matchStrings_own plainGermany_signed, failed]
    simp only [bind, Except.bind, invalid, ne_eq, not_true, if_false]
    rw [matchStringNumber_known ⟨anError, failed, invalid⟩ known, located]
    rfl
  have backward : plainGermany.matchStrings (ns "004930123456789012") (ns "+4930123456789012") = .ok .NOT_A_NUMBER := by
    rw [matchStrings_needs needs, alone]
    rfl
  have keeps (first second : NSString) : Keeps [] (plainGermany.isNumberMatch (.string first) (.string second)) []
      (plainGermany.matchStrings first second) := isNumberMatch_strings_keeps List.prefix_rfl
  obtain ⟨after, _, run⟩ := keeps (ns "+4930123456789012") (ns "004930123456789012")
  obtain ⟨after', _, run'⟩ := keeps (ns "004930123456789012") (ns "+4930123456789012")
  rw [forward] at run
  rw [backward] at run'
  exact ⟨⟨after, run⟩, after', run'⟩

/-- The theorem on these two strings. -/
theorem isNumberMatch_symmetric_iff_plainGermany :
    ∃ result result' after after',
      (plainGermany.isNumberMatch (.string (ns "+4930123456789012")) (.string (ns "004930123456789012"))).run [] =
        .ok (result, after) ∧
      (plainGermany.isNumberMatch (.string (ns "004930123456789012")) (.string (ns "+4930123456789012"))).run [] =
        .ok (result', after') ∧ result ≠ result' := by
  have denotes (s : NSString) : MatchInput.Denotes [] (.string s) (.string s) := rfl
  have signed : plainGermany.ParsesValue (.string (ns "+4930123456789012")) := plainGermany_parses (by decide +kernel)
  have prefixed : plainGermany.ParsesValue (.string (ns "004930123456789012")) :=
    plainGermany_parses (by decide +kernel)
  obtain ⟨result, result', after, after', run, run', _, _, same⟩ :=
    isNumberMatch_symmetric_iff (matchesLeadingPlus_of_plain rfl) (denotes _) (denotes _) signed prefixed
  refine ⟨result, result', after, after', run, run', ?_⟩
  intro equal
  have apart : ¬ plainGermany.ValuesMeetInRegionOfZero (.string (ns "+4930123456789012"))
      (.string (ns "004930123456789012")) := fun meet => meet.2.1.not_own longNumber plainGermany_signed
  exact plainGermany_not_alike ((same apart).mp equal)

end LongNumber

end NBPhoneNumberUtil

end SignalPods.PhoneNumber
