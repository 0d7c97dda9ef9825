import SignalPods.PhoneNumber.PhoneContext
import SignalPods.PhoneNumber.MatchingValues

namespace SignalPods.PhoneNumber

open Foundation

namespace NBPhoneNumberUtil

variable {u : NBPhoneNumberUtil}

theorem isNumberMatch_strings_returns_iff {first second : NSString} {heap : List NBPhoneNumber} :
    Returns ((u.isNumberMatch (.string first) (.string second)).run heap) ↔ Returns (u.matchStrings first second) := by
  obtain ⟨heap', _, run⟩ : Keeps heap (u.isNumberMatch (.string first) (.string second)) heap
      (u.matchStrings first second) := isNumberMatch_strings_keeps List.prefix_rfl
  rw [run]
  constructor
  · rintro ⟨result, returned⟩
    cases value : u.matchStrings first second with
    | error exception => simp [value, Except.map] at returned
    | ok result => exact ⟨result, rfl⟩
  · exact Returns.map _

section Complete

variable (complete : u.helper.Complete)

include complete

theorem firstNumberOfString_returns {s : NSString} (inside : ∀ t ∈ u.considered (some s), u.ContextInside t)
    (compare : NBPhoneNumber → NBEMatchType) (region : Option NSString) :
    Returns (u.firstNumberOfString compare s region) := by
  have parsed (region : Option NSString) (checkRegion : Bool) :
      Returns (u.parseHelper (some s) region false checkRegion) :=
    (parseHelper_returns_iff complete _ _ _ _).mpr inside
  unfold firstNumberOfString
  refine (parsed _ _).bind fun result _ => ?_
  cases result with
  | ok firstNumber => exact returns_pure _
  | error anError =>
    refine Returns.ite (fun _ => returns_pure _) (fun _ => ?_)
    cases region with
    | some region =>
      refine (parsed _ _).bind fun result _ => ?_
      cases result with
      | error anError => exact returns_pure _
      | ok firstNumber => exact returns_pure _
    | none =>
      refine (parsed _ _).bind fun result _ => ?_
      cases result with
      | error anError => exact returns_pure _
      | ok firstNumber => exact returns_pure _

theorem matchStringNumber_returns {s : NSString} (inside : ∀ t ∈ u.considered (some s), u.ContextInside t)
    (number : NBPhoneNumber) : Returns (u.matchStringNumber s number) := by
  unfold matchStringNumber
  refine (firstNumberOfString_returns complete inside _ _).bind fun result _ => ?_
  cases result with
  | error result => exact returns_pure _
  | ok firstNumber => exact returns_pure _

theorem matchStrings_returns {first second : NSString} (insideFirst : ∀ t ∈ u.considered (some first), u.ContextInside t)
    (insideSecond : ∀ t ∈ u.considered (some second), u.ContextInside t) : Returns (u.matchStrings first second) := by
  unfold matchStrings
  refine (firstNumberOfString_returns complete insideFirst _ _).bind fun result _ => ?_
  cases result with
  | error result => exact returns_pure _
  | ok firstNumber =>
    refine Returns.bind ((parseHelper_returns_iff complete _ _ _ _).mpr insideSecond) fun result _ => ?_
    cases result with
    | error parseError =>
      refine Returns.ite (fun _ => returns_pure _) (fun _ => ?_)
      exact matchStringNumber_returns complete insideSecond firstNumber
    | ok secondNumber => exact matchStringNumber_returns complete insideFirst secondNumber

end Complete

/-- Both entry points answer, and without the prefix all text before a phone context is kept. -/
structure ParsesSafely (u : NBPhoneNumberUtil) (numberToParse defaultRegion : Option NSString) : Prop where
  parse : Answers (u.parse numberToParse defaultRegion)
  parseAndKeepRawInput : Answers (u.parseAndKeepRawInput numberToParse defaultRegion)
  keepsText : ∀ s ∈ u.considered numberToParse, u.KeepsText s

theorem parsesSafely_iff (complete : u.helper.Complete) (numberToParse defaultRegion : Option NSString) :
    u.ParsesSafely numberToParse defaultRegion ↔ ∀ s ∈ u.considered numberToParse, u.WellPlaced s := by
  have short (s : NSString) (member : s ∈ u.considered numberToParse) : s.length ≤ MAX_INPUT_STRING_LENGTH := by
    obtain ⟨_, short⟩ := Option.mem_filter_iff.mp member
    exact of_decide_eq_true short
  constructor
  · intro safe s member
    have inside := (parse_answers_iff complete numberToParse defaultRegion).mp safe.parse s member
    exact (wellPlaced_iff (short s member)).mpr ⟨inside, safe.keepsText s member⟩
  · intro placed
    have inside (s : NSString) (member : s ∈ u.considered numberToParse) : u.ContextInside s :=
      ((wellPlaced_iff (short s member)).mp (placed s member)).1
    refine ⟨?_, ?_, ?_⟩
    · exact (parse_answers_iff complete numberToParse defaultRegion).mpr inside
    · exact (parseAndKeepRawInput_answers_iff complete numberToParse defaultRegion).mpr inside
    · intro s member
      exact ((wellPlaced_iff (short s member)).mp (placed s member)).2

/-- Parsing and matching are safe when every phone context that is not at the
start has the prefix before it and something after it, and only then. -/
theorem parsing_and_matching_safe_iff (complete : u.helper.Complete) (first second : NSString)
    (defaultRegion : Option NSString) (heap : List NBPhoneNumber) :
    (u.ParsesSafely (some first) defaultRegion ∧ u.ParsesSafely (some second) defaultRegion ∧
        Returns ((u.isNumberMatch (.string first) (.string second)).run heap) ∧
        Returns ((u.isNumberMatch (.string second) (.string first)).run heap)) ↔
      (∀ s ∈ u.considered (some first), u.WellPlaced s) ∧ ∀ s ∈ u.considered (some second), u.WellPlaced s := by
  rw [← parsesSafely_iff complete (some first) defaultRegion, ← parsesSafely_iff complete (some second) defaultRegion]
  constructor
  · rintro ⟨safeFirst, safeSecond, _⟩
    exact ⟨safeFirst, safeSecond⟩
  · rintro ⟨safeFirst, safeSecond⟩
    have insideFirst := (parse_answers_iff complete _ _).mp safeFirst.parse
    have insideSecond := (parse_answers_iff complete _ _).mp safeSecond.parse
    refine ⟨safeFirst, safeSecond, ?_, ?_⟩
    · exact isNumberMatch_strings_returns_iff.mpr (matchStrings_returns complete insideFirst insideSecond)
    · exact isNumberMatch_strings_returns_iff.mpr (matchStrings_returns complete insideSecond insideFirst)

/-- The tables of one region, and no expression that matches. -/
def singleRegion : NBPhoneNumberUtil where
  unicode := Unicode.ascii
  regex :=
    { matchesInString := fun _ _ _ => []
      firstAnchoredMatch := fun _ _ => none
      matches_inside := by simp
      anchored_inside := by simp }
  helper :=
    { countryCodeToRegionCodeMap := fun code => if code = ns "1" then some [ns "US"] else none
      countryToMetadata := fun region =>
        if region = ns "US" then
          some
            { countryCode := some 1
              generalDesc := { nationalNumberPattern := some (ns "[2-9]\\d\x7b9\x7d"), possibleLength := some [10] } }
        else none }
  sameObject := fun a b => a == b
  sameObject_eq := by simp
  errorDescription := NSError.localizedDescription

theorem singleRegion_complete : singleRegion.helper.Complete := by
  intro region metadata found
  unfold singleRegion at found
  dsimp only at found
  split at found
  · cases found
    exact ⟨rfl, by decide⟩
  · cases found

/-- A phone context at the end raises, and three digits before another one are dropped. -/
theorem singleRegion_unsafe :
    singleRegion.helper.Complete ∧
      ¬ Answers (singleRegion.parse (some (ns "2530000;phone-context=")) (some (ns "US"))) ∧
      ¬ Answers (singleRegion.parseAndKeepRawInput (some (ns "2530000;phone-context=")) (some (ns "US"))) ∧
      ¬ Returns ((singleRegion.isNumberMatch (.string (ns "2530000;phone-context=")) (.string (ns "2530000"))).run []) ∧
      singleRegion.textBeforePhoneContext (ns "2530000;phone-context=+1650") 7 = .ok (ns "0000") := by
  have parse : singleRegion.parse (some (ns "2530000;phone-context=")) (some (ns "US")) = .error .rangeException := by
    decide +kernel
  have keep : singleRegion.parseAndKeepRawInput (some (ns "2530000;phone-context=")) (some (ns "US")) =
      .error .rangeException := by decide +kernel
  have first : singleRegion.matchStrings (ns "2530000;phone-context=") (ns "2530000") = .error .rangeException := by
    decide +kernel
  refine ⟨singleRegion_complete, ?_, ?_, ?_, by decide +kernel⟩
  · rintro ⟨parsed, answer, _⟩
    rw [parse] at answer
    cases answer
  · rintro ⟨parsed, answer, _⟩
    rw [keep] at answer
    cases answer
  · rw [isNumberMatch_strings_returns_iff, first]
    exact not_returns_error _

/-- The theorem on a phone context at the end. -/
theorem parsing_and_matching_safe_iff_singleRegion :
    ¬ (singleRegion.ParsesSafely (some (ns "2530000;phone-context=")) (some (ns "US")) ∧
        singleRegion.ParsesSafely (some (ns "2530000")) (some (ns "US")) ∧
        Returns ((singleRegion.isNumberMatch (.string (ns "2530000;phone-context=")) (.string (ns "2530000"))).run []) ∧
        Returns ((singleRegion.isNumberMatch (.string (ns "2530000")) (.string (ns "2530000;phone-context="))).run [])) := by
  rw [parsing_and_matching_safe_iff singleRegion_complete]
  rintro ⟨placed, _⟩
  obtain ⟨early, _⟩ := placed (ns "2530000;phone-context=") (by decide +kernel) 7 (by decide +kernel) (by decide)
  revert early
  decide +kernel

end NBPhoneNumberUtil

end SignalPods.PhoneNumber
