import SignalPods.PhoneNumber.KeptDigits
import SignalPods.PhoneNumber.RoundTrip
import SignalPods.Foundation.Relations

namespace SignalPods.PhoneNumber

open Foundation

/-- The unit is kept, or an ASCII digit is written in another script. -/
def SameDigit (c c' : unichar) : Prop :=
  c' = c ∨ (isAsciiDigit c ∧ isValidDigit c' ∧ DIGIT_MAPPINGS c' = some c)

instance (c c' : unichar) : Decidable (SameDigit c c') := inferInstanceAs (Decidable (_ ∨ _))

/-- The second text is the first with some ASCII digits in other scripts. -/
abbrev Rewritten : NSString → NSString → Prop := List.Forall₂ SameDigit

section Units

variable {c c' : unichar}

theorem SameDigit.eq (same : SameDigit c c') (other : isAsciiDigit c = false) : c' = c := by
  rcases same with same | ⟨isDigit, _⟩
  · exact same
  · rw [other] at isDigit
    cases isDigit

/-- Rewriting makes nothing but digits of digits. -/
theorem SameDigit.beq_right (same : SameDigit c c') {t : unichar} (other : isValidDigit t = false) :
    (t == c') = (t == c) := by
  rcases same with rfl | ⟨isDigit, valid, _⟩
  · rfl
  · have first : t ≠ c := by
      rintro rfl
      rw [isValidDigit_of_isAsciiDigit isDigit] at other
      cases other
    have second : t ≠ c' := by
      rintro rfl
      rw [valid] at other
      cases other
    rw [beq_false_of_ne first, beq_false_of_ne second]

theorem SameDigit.DIGIT_MAPPINGS_eq (same : SameDigit c c') : DIGIT_MAPPINGS c' = DIGIT_MAPPINGS c := by
  rcases same with rfl | ⟨isDigit, _, value⟩
  · rfl
  · rw [value, DIGIT_MAPPINGS_digit isDigit]

/-- Both tables have the digits of the four scripts. -/
theorem ALL_NORMALIZATION_MAPPINGS_of_valid (valid : isValidDigit c) : ALL_NORMALIZATION_MAPPINGS c = DIGIT_MAPPINGS c := by
  have bounds := isValidDigit_bounds valid
  have indic : indicDigit c = none := by
    rw [← Option.not_isSome_iff_eq_none, isSome_indicDigit]
    simp only [isIndicDigit, Bool.or_eq_true, Bool.and_eq_true, decide_eq_true_eq, UInt16.le_iff_toNat_le,
      UInt16.reduceToNat]
    omega
  have letter : keypad c = none := by
    unfold keypad
    refine if_neg ?_
    simp only [Bool.and_eq_true, decide_eq_true_eq, UInt16.le_iff_toNat_le, UInt16.reduceToNat]
    omega
  rw [PhoneNumber.ALL_NORMALIZATION_MAPPINGS_eq, PhoneNumber.DIGIT_MAPPINGS_eq, indic, letter]

theorem canonical_of_sameDigit (same : SameDigit c c') : canonical c' = canonical c := by
  rcases same with rfl | ⟨isDigit, valid, _⟩
  · rfl
  · rw [canonical_of_digit valid, canonical_of_digit (isValidDigit_of_isAsciiDigit isDigit)]

end Units

section Texts

variable {R : unichar → unichar → Prop} {s s' : NSString}

theorem related_substringFromIndex (related : List.Forall₂ R s s') (index : Nat) :
    Related (List.Forall₂ R) (substringFromIndex s index) (substringFromIndex s' index) := by
  unfold substringFromIndex
  rw [← related.length_eq]
  exact .ite (fun _ => .returns (List.forall₂_drop index related)) (fun _ => .throws _)

theorem isEmpty_of_related (related : List.Forall₂ R s s') : s'.isEmpty = s.isEmpty := by
  cases related with
  | nil => rfl
  | cons _ _ => rfl

theorem related_slice (related : List.Forall₂ R s s') (range : NSRange) :
    List.Forall₂ R (slice s range) (slice s' range) :=
  List.forall₂_take _ (List.forall₂_drop _ related)

theorem related_substringWithRange (related : List.Forall₂ R s s') (range : NSRange) :
    Related (List.Forall₂ R) (substringWithRange s range) (substringWithRange s' range) := by
  unfold substringWithRange
  rw [← related.length_eq]
  exact .ite (fun _ => .returns (related_slice related range)) (fun _ => .throws _)

theorem related_characterAtIndex (related : List.Forall₂ R s s') (index : Nat) :
    Related R (characterAtIndex s index) (characterAtIndex s' index) := by
  induction related generalizing index with
  | nil => exact .throws _
  | cons head _ ih =>
    cases index with
    | zero => exact .returns head
    | succ index => exact ih index

/-- What is deleted is deleted at the same places. -/
theorem related_replaceMatches (related : List.Forall₂ R s s') (position : Nat) (results : List NSTextCheckingResult) :
    List.Forall₂ R (replaceMatches s [] position results) (replaceMatches s' [] position results) := by
  induction results generalizing position with
  | nil => exact List.forall₂_drop position related
  | cons result results ih =>
    have deleted (t : NSString) : replacementString t [] result = [] := rfl
    rw [replaceMatches, replaceMatches, deleted, deleted, List.append_nil, List.append_nil]
    exact List.rel_append (related_slice related _) (ih _)

theorem filterMap_rewritten {f : unichar → Option unichar} (rewritten : Rewritten s s')
    (same : ∀ c c', SameDigit c c' → f c' = f c) : s'.filterMap f = s.filterMap f := by
  induction rewritten with
  | nil => rfl
  | cons head _ ih => rw [List.filterMap_cons, List.filterMap_cons, same _ _ head, ih]

/-- A text without digits is the start of both or of neither. -/
theorem isPrefixOf_rewritten {target : NSString} (free : target.all fun t => !isValidDigit t)
    (rewritten : Rewritten s s') : target.isPrefixOf s' = target.isPrefixOf s := by
  induction target generalizing s s' with
  | nil => rfl
  | cons t target ih =>
    cases rewritten with
    | nil => rfl
    | cons head tail =>
      rw [List.all_cons, Bool.and_eq_true, Bool.not_eq_true'] at free
      rw [List.isPrefixOf, List.isPrefixOf, head.beq_right free.1, ih free.2 tail]

theorem literalSearch_rewritten {target : NSString} (free : target.all fun t => !isValidDigit t)
    (rewritten : Rewritten s s') : literalSearch s' target = literalSearch s target := by
  unfold literalSearch
  rw [rewritten.length_eq]
  congr 1
  funext index
  exact isPrefixOf_rewritten free (List.forall₂_drop index rewritten)

/-- A digit combines with nothing before it, so that what is rewritten combines as before. -/
theorem combines_rewritten (unicode : Unicode) (rewritten : Rewritten s s') :
    unicode.combines s' = unicode.combines s := by
  cases rewritten with
  | nil => rfl
  | cons head tail =>
    rcases head with rfl | ⟨isDigit, valid, _⟩
    · cases tail with
      | nil => rfl
      | cons next _ =>
        rcases next with rfl | ⟨isDigit, valid, _⟩
        · rfl
        · unfold Unicode.combines
          rw [Unicode.firstCharacter_plain (isPlain_of_isValidDigit valid),
            Unicode.firstCharacter_plain (isPlain_of_isAsciiDigit isDigit)]
    · rw [Unicode.combines_plain (isPlain_of_isValidDigit valid), Unicode.combines_plain (isPlain_of_isAsciiDigit isDigit)]

theorem map_canonical_rewritten (rewritten : Rewritten s s') : s'.map canonical = s.map canonical := by
  induction rewritten with
  | nil => rfl
  | cons head _ ih => rw [List.map_cons, List.map_cons, canonical_of_sameDigit head, ih]

end Texts

/-- A way to rewrite texts: a unit goes to itself or to a digit of its value. -/
structure RewritesDigits (R : unichar → unichar → Prop) : Prop where
  same : ∀ c c', R c c' → SameDigit c c'
  space : R 0x20 0x20

namespace RewritesDigits

variable {R : unichar → unichar → Prop} (rewrites : RewritesDigits R) {s s' : NSString}

include rewrites

theorem rewritten (related : List.Forall₂ R s s') : Rewritten s s' := related.imp rewrites.same

theorem normalizeNonBreakingSpace (u : NBPhoneNumberUtil) (related : List.Forall₂ R s s') :
    List.Forall₂ R (u.normalizeNonBreakingSpace s) (u.normalizeNonBreakingSpace s') := by
  unfold NBPhoneNumberUtil.normalizeNonBreakingSpace
  induction related with
  | nil => exact .nil
  | cons head tail ih =>
    rename_i c c' s s'
    have beq := (rewrites.same c c' head).beq_right (t := 0xa0) (by decide)
    rw [Bool.eq_iff_iff, beq_iff_eq, beq_iff_eq] at beq
    rw [Unicode.stringByReplacingUnit, Unicode.stringByReplacingUnit,
      combines_rewritten u.unicode (rewrites.rewritten tail)]
    refine .cons ?_ ih
    by_cases space : c = 0xa0 ∧ u.unicode.combines s = false
    · rw [if_pos space, if_pos ⟨(beq.mpr space.1.symm).symm, space.2⟩]
      exact rewrites.space
    · rw [if_neg space, if_neg fun found => space ⟨(beq.mp found.1.symm).symm, found.2⟩]
      exact head

end RewritesDigits

theorem rewritesDigits_sameDigit : RewritesDigits SameDigit := ⟨fun _ _ same => same, .inl rfl⟩

/-- The expressions that are searched for in the text to parse. -/
abbrev scannedPatterns : List NSString :=
  [LEADING_PLUS_CHARS_PATTERN, VALID_START_CHAR_PATTERN, UNWANTED_END_CHAR_PATTERN, SECOND_NUMBER_START_PATTERN,
    EXTN_PATTERN]

/-- The expressions of the parser and its searches take the digits of all scripts
alike, and digits have no case. -/
structure ScriptBlind (u : NBPhoneNumberUtil) : Prop where
  matching : ∀ pattern ∈ scannedPatterns, ∀ s s' range, Rewritten s s' →
    u.regex.matchesInString pattern s' range = u.regex.matchesInString pattern s range
  anchored : ∀ pattern ∈ [VALID_PHONE_NUMBER_PATTERN, alphaPattern], ∀ s s', Rewritten s s' →
    u.regex.firstAnchoredMatch pattern s' = u.regex.firstAnchoredMatch pattern s
  search : ∀ target ∈ [RFC3966_PREFIX, RFC3966_PHONE_CONTEXT, RFC3966_ISDN_SUBADDRESS], ∀ s s', Rewritten s s' →
    u.unicode.rangeOfString s' target = u.unicode.rangeOfString s target
  upper : ∀ c, isValidDigit c → u.unicode.uppercaseString [c] = [c]

namespace NBPhoneNumberUtil

variable {u : NBPhoneNumberUtil}

section Expressions

variable (law : ScriptBlind u) {s s' : NSString}

include law

theorem allMatches_rewritten {pattern : NSString} (fixed : pattern ∈ scannedPatterns)
    (rewritten : Rewritten s s') : u.regex.allMatches pattern s' = u.regex.allMatches pattern s := by
  unfold NSRegularExpressions.allMatches
  rw [← rewritten.length_eq]
  exact law.matching pattern fixed s s' _ rewritten

theorem stringPositionByRegex_rewritten {pattern : NSString} (fixed : pattern ∈ scannedPatterns)
    (rewritten : Rewritten s s') : u.stringPositionByRegex s' pattern = u.stringPositionByRegex s pattern := by
  unfold stringPositionByRegex
  rw [isEmpty_of_related rewritten, allMatches_rewritten law fixed rewritten]

theorem isStartingStringByRegex_rewritten (rewritten : Rewritten s s') :
    u.isStartingStringByRegex s' LEADING_PLUS_CHARS_PATTERN = u.isStartingStringByRegex s LEADING_PLUS_CHARS_PATTERN := by
  unfold isStartingStringByRegex
  rw [allMatches_rewritten law (by simp) rewritten]

theorem indexOfStringByString_rewritten {target : NSString}
    (named : target ∈ [RFC3966_PREFIX, RFC3966_PHONE_CONTEXT, RFC3966_ISDN_SUBADDRESS]) (rewritten : Rewritten s s') :
    u.indexOfStringByString s' target = u.indexOfStringByString s target := by
  unfold indexOfStringByString
  rw [law.search target named s s' rewritten]

theorem matchesPattern_rewritten {pattern : NSString} (fixed : pattern ∈ [VALID_PHONE_NUMBER_PATTERN, alphaPattern])
    {given : NSString} (whole : entireRegularExpressionWithPattern given = pattern) (rewritten : Rewritten s s') :
    u.matchesPattern given s' = u.matchesPattern given s := by
  unfold matchesPattern
  rw [whole, law.anchored pattern fixed s s' rewritten, rewritten.length_eq]

theorem isViablePhoneNumber_rewritten (rewritten : Rewritten s s') :
    u.isViablePhoneNumber s' = u.isViablePhoneNumber s := by
  have anchored : VALID_PHONE_NUMBER_PATTERN.contains 94 = true := by decide +kernel
  have spaced := rewritesDigits_sameDigit.normalizeNonBreakingSpace u rewritten
  unfold isViablePhoneNumber
  dsimp only
  rw [spaced.length_eq, matchesPattern_rewritten law List.mem_cons_self (if_pos anchored) spaced]

theorem normalizeHelper_rewritten (rewritten : Rewritten s s') :
    u.normalizeHelper ALL_NORMALIZATION_MAPPINGS true s' = u.normalizeHelper ALL_NORMALIZATION_MAPPINGS true s := by
  rw [normalizeHelper_removing, normalizeHelper_removing]
  refine filterMap_rewritten rewritten fun c c' same => ?_
  rcases same with rfl | ⟨isDigit, valid, value⟩
  · rfl
  · have known := isValidDigit_of_isAsciiDigit isDigit
    unfold newDigit
    rw [law.upper c' valid, law.upper c known]
    dsimp only
    rw [ALL_NORMALIZATION_MAPPINGS_of_valid valid, ALL_NORMALIZATION_MAPPINGS_of_valid known, value,
      DIGIT_MAPPINGS_digit isDigit]

/-- The normalization does not see the scripts. -/
theorem normalize_rewritten (rewritten : Rewritten s s') : u.normalize s' = u.normalize s := by
  have free : ¬ VALID_ALPHA_PHONE_PATTERN_STRING.contains 94 = true := by decide +kernel
  unfold normalize
  rw [matchesPattern_rewritten law (List.mem_cons_of_mem _ List.mem_cons_self) (if_neg free) rewritten,
    normalizeHelper_rewritten law rewritten, normalizeDigitsOnly_eq, normalizeDigitsOnly_eq,
    filterMap_rewritten rewritten fun _ _ => SameDigit.DIGIT_MAPPINGS_eq]

end Expressions

section Candidates

variable (law : ScriptBlind u) {R : unichar → unichar → Prop} (rewrites : RewritesDigits R) {s s' : NSString}

include law rewrites

theorem replaceStringByRegex_related {pattern : NSString} (fixed : pattern ∈ scannedPatterns)
    (related : List.Forall₂ R s s') :
    List.Forall₂ R (u.replaceStringByRegex s pattern []) (u.replaceStringByRegex s' pattern []) := by
  have rewritten := rewrites.rewritten related
  have deleted (range : NSRange) : List.Forall₂ R (u.regex.stringByReplacingMatches pattern s range [])
      (u.regex.stringByReplacingMatches pattern s' range []) := by
    unfold NSRegularExpressions.stringByReplacingMatches
    rw [law.matching pattern fixed s s' range rewritten]
    exact related_replaceMatches related 0 _
  unfold replaceStringByRegex
  rw [allMatches_rewritten law fixed rewritten, ← rewritten.length_eq]
  split
  · exact related
  · exact deleted _
  · exact deleted _

theorem extractPossibleNumber_related (related : List.Forall₂ R s s') :
    Related (List.Forall₂ R) (u.extractPossibleNumber s) (u.extractPossibleNumber s') := by
  have spaced := rewrites.normalizeNonBreakingSpace u related
  unfold extractPossibleNumber
  dsimp only
  rw [stringPositionByRegex_rewritten law (by simp) (rewrites.rewritten spaced)]
  refine .ite (fun _ => ?_) (fun _ => .returns .nil)
  refine .bind (related_substringFromIndex spaced _) fun possible possible' started => ?_
  have ended : List.Forall₂ R (u.replaceStringByRegex possible UNWANTED_END_CHAR_PATTERN [])
      (u.replaceStringByRegex possible' UNWANTED_END_CHAR_PATTERN []) :=
    replaceStringByRegex_related law rewrites (by simp) started
  rw [stringPositionByRegex_rewritten law (by simp) (rewrites.rewritten ended)]
  exact .ite (fun _ => related_substringWithRange ended _) (fun _ => .returns ended)

omit law in
theorem phoneContextNumber_related (related : List.Forall₂ R s s') (start : Nat) :
    Related (List.Forall₂ R) (phoneContextNumber s start) (phoneContextNumber s' start) := by
  unfold phoneContextNumber
  refine .bind (related_characterAtIndex related start) fun c c' head => ?_
  have same : c' = 43 ↔ c = 43 := by
    have beq := (rewrites.same c c' head).beq_right (t := 43) (by decide)
    rw [Bool.eq_iff_iff, beq_iff_eq, beq_iff_eq] at beq
    exact ⟨fun found => (beq.mp found.symm).symm, fun found => (beq.mpr found.symm).symm⟩
  by_cases signed : c = 43
  · rw [if_pos signed, if_pos (same.mpr signed),
      literalSearch_rewritten (by decide) (rewrites.rewritten (List.forall₂_drop start related))]
    split
    · exact related_substringWithRange related _
    · exact related_substringFromIndex related _
  · rw [if_neg signed, if_neg fun found => signed (same.mp found)]
    exact .returns .nil

theorem textBeforePhoneContext_related (related : List.Forall₂ R s s') (index : Int) :
    Related (List.Forall₂ R) (u.textBeforePhoneContext s index) (u.textBeforePhoneContext s' index) := by
  unfold textBeforePhoneContext
  rw [indexOfStringByString_rewritten law (by simp) (rewrites.rewritten related)]
  exact related_substringWithRange related _

/-- The candidates of two texts are written alike. -/
theorem buildNationalNumberForParsing_related (related : List.Forall₂ R s s') :
    Related (List.Forall₂ R) (u.buildNationalNumberForParsing s) (u.buildNationalNumberForParsing s') := by
  unfold buildNationalNumberForParsing
  refine .bind (R := List.Forall₂ R) ?_ fun result result' built => ?_
  · unfold numberWithPhoneContext
    dsimp only
    rw [indexOfStringByString_rewritten law (by simp) (rewrites.rewritten related)]
    refine .ite (fun _ => ?_) (fun _ => extractPossibleNumber_related law rewrites related)
    refine .bind (phoneContextNumber_related rewrites related _) fun context context' contexts => ?_
    refine .bind (textBeforePhoneContext_related law rewrites related _) fun text text' texts => ?_
    exact .returns (List.rel_append contexts texts)
  · unfold withoutIsdnSubaddress
    dsimp only
    rw [indexOfStringByString_rewritten law (by simp) (rewrites.rewritten built)]
    exact .ite (fun _ => related_substringWithRange built _) (fun _ => .returns built)

omit law rewrites in
theorem capturedExtension_related (related : List.Forall₂ R s s') (groups : List (Option NSRange)) :
    Related (Option.Rel (List.Forall₂ R)) (capturedExtension s groups) (capturedExtension s' groups) := by
  induction groups with
  | nil => exact .returns .none
  | cons group groups ih =>
    cases group with
    | none => exact ih
    | some range =>
      unfold capturedExtension
      rw [← related.length_eq]
      refine .ite (fun _ => ?_) (fun _ => ih)
      exact .map (related_substringWithRange related range) fun _ _ captured => .some captured

/-- Extension and number are taken apart at the same places. -/
theorem maybeStripExtension_related (related : List.Forall₂ R s s') :
    Related (fun stripped stripped' => List.Forall₂ R stripped.1 stripped'.1 ∧ List.Forall₂ R stripped.2 stripped'.2)
      (u.maybeStripExtension s) (u.maybeStripExtension s') := by
  have rewritten := rewrites.rewritten related
  unfold maybeStripExtension
  dsimp only
  rw [stringPositionByRegex_rewritten law (by simp) rewritten, allMatches_rewritten law (by simp) rewritten]
  refine .ite (fun _ => ?_) (fun _ => .returns ⟨.nil, related⟩)
  refine .bind (related_substringWithRange related _) fun token token' tokens => ?_
  rw [isViablePhoneNumber_rewritten law (rewrites.rewritten tokens)]
  refine .ite (fun _ => ?_) (fun _ => .returns ⟨.nil, related⟩)
  cases u.regex.allMatches EXTN_PATTERN s with
  | nil => exact .returns ⟨.nil, related⟩
  | cons firstMatch rest =>
    refine .bind (capturedExtension_related related firstMatch.groups) fun found found' captured => ?_
    cases captured with
    | none => exact .returns ⟨.nil, related⟩
    | some captured => exact .returns ⟨captured, tokens⟩

end Candidates

section Extraction

variable (law : ScriptBlind u) {s s' : NSString}

include law

theorem withoutPlus_rewritten (rewritten : Rewritten s s') :
    Rewritten (u.replaceStringByRegex s LEADING_PLUS_CHARS_PATTERN [])
      (u.replaceStringByRegex s' LEADING_PLUS_CHARS_PATTERN []) :=
  replaceStringByRegex_related law rewritesDigits_sameDigit List.mem_cons_self rewritten

theorem maybeStripInternationalPrefix_rewritten (rewritten : Rewritten s s') (idd : NSString) :
    u.maybeStripInternationalPrefixAndNormalize s' idd = u.maybeStripInternationalPrefixAndNormalize s idd := by
  by_cases empty : s.isEmpty
  · obtain rfl := List.isEmpty_iff.mp empty
    obtain rfl := List.forall₂_nil_left_iff.mp rewritten
    rfl
  have unsigned := withoutPlus_rewritten law rewritten
  unfold maybeStripInternationalPrefixAndNormalize
  rw [isEmpty_of_related rewritten, if_neg empty, if_neg empty, isStartingStringByRegex_rewritten law rewritten,
    normalize_rewritten law unsigned, normalize_rewritten law rewritten]

theorem maybeExtractCountryCode_rewritten (rewritten : Rewritten s s') (metadata : Option NBPhoneMetaData)
    (nationalNumber : NSString) (keepRawInput : Bool) (phoneNumber : NBPhoneNumber) :
    u.maybeExtractCountryCode s' metadata nationalNumber keepRawInput phoneNumber =
      u.maybeExtractCountryCode s metadata nationalNumber keepRawInput phoneNumber := by
  unfold maybeExtractCountryCode
  rw [isEmpty_of_related rewritten, maybeStripInternationalPrefix_rewritten law rewritten]

/-- The same calling code is read in every script. -/
theorem extractForParsing_rewritten (rewritten : Rewritten s s') (metadata : Option NBPhoneMetaData)
    (keepRawInput : Bool) (phoneNumber : NBPhoneNumber) :
    u.extractForParsing s' metadata keepRawInput phoneNumber =
      u.extractForParsing s metadata keepRawInput phoneNumber := by
  have unsigned := withoutPlus_rewritten law rewritten
  unfold extractForParsing
  rw [maybeExtractCountryCode_rewritten law rewritten, stringPositionByRegex_rewritten law List.mem_cons_self rewritten]
  simp only [maybeExtractCountryCode_rewritten law unsigned]

theorem resolveRegion_rewritten (rewritten : Rewritten s s') (defaultRegion : Option NSString)
    (metadata : Option NBPhoneMetaData) (keepRawInput : Bool) (extraction : Extraction) :
    u.resolveRegion s' defaultRegion metadata keepRawInput extraction =
      u.resolveRegion s defaultRegion metadata keepRawInput extraction := by
  unfold resolveRegion
  rw [normalize_rewritten law rewritten]

theorem checkRegionForParsing_rewritten (rewritten : Rewritten s s') (defaultRegion : Option NSString) :
    u.checkRegionForParsing s' defaultRegion = u.checkRegionForParsing s defaultRegion := by
  unfold checkRegionForParsing
  rw [isEmpty_of_related rewritten, isStartingStringByRegex_rewritten law rewritten]

end Extraction

end NBPhoneNumberUtil

/-- With an extension in place of its own. -/
def NBPhoneNumber.extended (extension : Option NSString) (number : NBPhoneNumber) : NBPhoneNumber :=
  { number with extension }

/-- With as many leading zeros as a number has at first. -/
def NBPhoneNumber.withOneZero (number : NBPhoneNumber) : NBPhoneNumber := { number with numberOfLeadingZeros := some 1 }

namespace NBPhoneNumberUtil

def Extraction.withNumber (f : NBPhoneNumber → NBPhoneNumber) (extraction : Extraction) : Extraction :=
  { extraction with phoneNumber := f extraction.phoneNumber }

section CarriedFields

variable {u : NBPhoneNumberUtil} {f : NBPhoneNumber → NBPhoneNumber}
  (carries : ∀ number code, f { number with countryCode := code } = { f number with countryCode := code })

include carries

theorem extractInternational_carries (fullNumber nationalNumber : NSString) (phoneNumber : NBPhoneNumber) :
    u.extractInternational fullNumber nationalNumber (f phoneNumber) =
      (u.extractInternational fullNumber nationalNumber phoneNumber).map (Extraction.withNumber f) := by
  unfold extractInternational
  by_cases short : fullNumber.length ≤ MIN_LENGTH_FOR_NSN
  · rw [if_pos short, if_pos short]
    rfl
  rw [if_neg short, if_neg short]
  cases u.extractCountryCode fullNumber nationalNumber with
  | error exception => rfl
  | ok extracted =>
    obtain ⟨code, rest⟩ := extracted
    by_cases found : code ≠ 0
    · simp only [bind, Except.bind, if_pos found, ← carries]
      rfl
    · simp only [bind, Except.bind, if_neg found]
      rfl

theorem maybeExtractCountryCode_carries (number : NSString) (metadata : Option NBPhoneMetaData)
    (nationalNumber : NSString) (phoneNumber : NBPhoneNumber) :
    u.maybeExtractCountryCode number metadata nationalNumber false (f phoneNumber) =
      (u.maybeExtractCountryCode number metadata nationalNumber false phoneNumber).map (Extraction.withNumber f) := by
  unfold maybeExtractCountryCode
  by_cases empty : number.isEmpty
  · rw [if_pos empty, if_pos empty]
    rfl
  rw [if_neg empty, if_neg empty]
  cases u.maybeStripInternationalPrefixAndNormalize number (possibleCountryIddPrefix metadata) with
  | error exception => rfl
  | ok normalized =>
    obtain ⟨countryCodeSource, fullNumber⟩ := normalized
    simp only [bind, Except.bind]
    by_cases international : countryCodeSource ≠ .FROM_DEFAULT_COUNTRY
    · rw [if_pos international, if_pos international]
      exact extractInternational_carries carries fullNumber nationalNumber phoneNumber
    rw [if_neg international, if_neg international]
    cases metadata with
    | none =>
      simp only [Bool.false_eq_true, if_false, ← carries]
      rfl
    | some metadata =>
      dsimp only
      cases u.withoutDefaultCountryCode fullNumber metadata with
      | error exception => rfl
      | ok potential =>
        cases potential with
        | none =>
          simp only [Bool.false_eq_true, if_false, ← carries]
          rfl
        | some potentialNationalNumber =>
          simp only [Bool.false_eq_true, if_false, ← carries]
          rfl

/-- Fields other than the calling code are carried through the parsing. -/
theorem extractForParsing_carries (number : NSString) (metadata : Option NBPhoneMetaData) (phoneNumber : NBPhoneNumber) :
    u.extractForParsing number metadata false (f phoneNumber) =
      (u.extractForParsing number metadata false phoneNumber).map (Except.map (Extraction.withNumber f)) := by
  unfold extractForParsing
  rw [maybeExtractCountryCode_carries carries]
  cases u.maybeExtractCountryCode number metadata [] false phoneNumber with
  | error exception => rfl
  | ok extraction =>
    simp only [bind, Except.bind, Except.map]
    have error : (extraction.withNumber f).error = extraction.error := rfl
    rw [error]
    cases extraction.error with
    | none => rfl
    | some anError =>
      dsimp only
      split
      · have again := maybeExtractCountryCode_carries (u := u) carries
          (u.replaceStringByRegex number LEADING_PLUS_CHARS_PATTERN []) metadata extraction.nationalNumber
          extraction.phoneNumber
        change u.maybeExtractCountryCode _ _ (extraction.withNumber f).nationalNumber _
          (extraction.withNumber f).phoneNumber = _ at again
        rw [again]
        cases u.maybeExtractCountryCode (u.replaceStringByRegex number LEADING_PLUS_CHARS_PATTERN []) metadata
          extraction.nationalNumber false extraction.phoneNumber with
        | error exception => rfl
        | ok extraction =>
          have code : (extraction.withNumber f).countryCode = extraction.countryCode := rfl
          dsimp only [Except.map]
          rw [code]
          split <;> rfl
      · rfl

theorem resolveRegion_carries (nationalNumber : NSString) (defaultRegion : Option NSString)
    (metadata : Option NBPhoneMetaData) (extraction : Extraction) :
    u.resolveRegion nationalNumber defaultRegion metadata false (extraction.withNumber f) =
      let resolved := u.resolveRegion nationalNumber defaultRegion metadata false extraction
      (resolved.1, resolved.2.1, f resolved.2.2) := by
  have code : (extraction.withNumber f).countryCode = extraction.countryCode := rfl
  have number : (extraction.withNumber f).phoneNumber = f extraction.phoneNumber := rfl
  unfold resolveRegion
  rw [code, number]
  by_cases found : (!isEqualToNumber extraction.countryCode (some 0)) = true
  · rw [if_pos found, if_pos found]
    rfl
  · rw [if_neg found, if_neg found]
    cases defaultRegion with
    | none => rfl
    | some region =>
      simp only [Option.isSome_some, if_true, ← carries]
      rfl

omit carries in
theorem stripForParsing_carries (number : NSString) (metadata : Option NBPhoneMetaData) (phoneNumber : NBPhoneNumber) :
    u.stripForParsing number metadata false (f phoneNumber) =
      (u.stripForParsing number metadata false phoneNumber).map fun stripped => (stripped.1, f stripped.2) := by
  unfold stripForParsing
  cases metadata with
  | none => rfl
  | some metadata =>
    dsimp only
    cases u.maybeStripNationalPrefixAndCarrierCode number metadata (some []) with
    | error exception => rfl
    | ok stripped =>
      simp only [bind, Except.bind]
      split <;> rfl

end CarriedFields

/-- What `parseViable` does with a number whose extension has been taken off. -/
def parseNumber (u : NBPhoneNumberUtil) (nationalNumber : NSString) (defaultRegion : Option NSString) :
    Objc (Except NSError NBPhoneNumber) := do
  let regionMetadata := u.getMetadataForRegion defaultRegion
  match ← u.extractForParsing nationalNumber regionMetadata false {} with
  | .error error => return .error error
  | .ok extraction =>
    let (normalizedNationalNumber, regionMetadata, phoneNumber) :=
      u.resolveRegion nationalNumber defaultRegion regionMetadata false extraction
    if normalizedNationalNumber.length < MIN_LENGTH_FOR_NSN then return .error (tooShortNsn normalizedNationalNumber)
    else
      let (normalizedNationalNumber, phoneNumber) ←
        u.stripForParsing normalizedNationalNumber regionMetadata false phoneNumber
      if normalizedNationalNumber.length < MIN_LENGTH_FOR_NSN then return .error (tooShortNsn normalizedNationalNumber)
      else if normalizedNationalNumber.length > MAX_LENGTH_FOR_NSN then
        return .error ⟨.TOO_LONG, ns "TOO_LONG:" ++ normalizedNationalNumber⟩
      else
        let phoneNumber := u.setItalianLeadingZerosForPhoneNumber normalizedNationalNumber phoneNumber
        return .ok { phoneNumber with nationalNumber := some (longLongValue normalizedNationalNumber) }

def storedExtension (extension : NSString) : Option NSString := if extension.length > 0 then some extension else none

section Numbers

variable {u : NBPhoneNumberUtil}

theorem carries_extended (extension : Option NSString) (number : NBPhoneNumber) (code : Option Int) :
    NBPhoneNumber.extended extension { number with countryCode := code } =
      { NBPhoneNumber.extended extension number with countryCode := code } := rfl

theorem setItalianLeadingZerosForPhoneNumber_extended (extension : Option NSString) (number : NSString)
    (phoneNumber : NBPhoneNumber) :
    u.setItalianLeadingZerosForPhoneNumber number (phoneNumber.extended extension) =
      (u.setItalianLeadingZerosForPhoneNumber number phoneNumber).extended extension := by
  unfold setItalianLeadingZerosForPhoneNumber
  split <;> rfl

/-- The extension is stored as it was written, and the rest of the number is parsed without it. -/
theorem parseViable_eq (candidate : NSString) (defaultRegion : Option NSString) :
    u.parseViable candidate defaultRegion false {} = (do
      let stripped ← u.maybeStripExtension candidate
      (u.parseNumber stripped.2 defaultRegion).map
        (Except.map (NBPhoneNumber.extended (storedExtension stripped.1)))) := by
  unfold parseViable parseNumber
  cases u.maybeStripExtension candidate with
  | error exception => rfl
  | ok stripped =>
    obtain ⟨extension, number⟩ := stripped
    have stored : withExtension extension {} = NBPhoneNumber.extended (storedExtension extension) {} :=
      withExtension_eq extension
    simp only [bind, Except.bind]
    rw [stored, extractForParsing_carries (carries_extended _)]
    cases u.extractForParsing number (u.getMetadataForRegion defaultRegion) false {} with
    | error exception => rfl
    | ok result =>
      cases result with
      | error anError => rfl
      | ok extraction =>
        dsimp only [Except.map]
        rw [resolveRegion_carries (carries_extended _)]
        obtain ⟨digits, metadata, resolved⟩ :=
          u.resolveRegion number defaultRegion (u.getMetadataForRegion defaultRegion) false extraction
        dsimp only
        by_cases short : digits.length < MIN_LENGTH_FOR_NSN
        · rw [if_pos short, if_pos short]
          rfl
        rw [if_neg short, if_neg short, stripForParsing_carries]
        cases u.stripForParsing digits metadata false resolved with
        | error exception => rfl
        | ok kept =>
          obtain ⟨rest, last⟩ := kept
          dsimp only [Except.map]
          by_cases short : rest.length < MIN_LENGTH_FOR_NSN
          · rw [if_pos short, if_pos short]
            rfl
          rw [if_neg short, if_neg short]
          by_cases long : rest.length > MAX_LENGTH_FOR_NSN
          · rw [if_pos long, if_pos long]
            rfl
          rw [if_neg long, if_neg long, setItalianLeadingZerosForPhoneNumber_extended]
          rfl

theorem parseNumber_rewritten (law : ScriptBlind u) {s s' : NSString} (rewritten : Rewritten s s')
    (defaultRegion : Option NSString) : u.parseNumber s' defaultRegion = u.parseNumber s defaultRegion := by
  unfold parseNumber
  simp only [extractForParsing_rewritten law rewritten, resolveRegion_rewritten law rewritten]

/-- The number of leading zeros starts at one and is never taken away. -/
theorem parseNumber_specified {number : NSString} {defaultRegion : Option NSString} {phoneNumber : NBPhoneNumber}
    (parsed : u.parseNumber number defaultRegion = .ok (.ok phoneNumber)) :
    phoneNumber.nationalNumber.isSome ∧ phoneNumber.numberOfLeadingZeros.isSome := by
  have carries (number : NBPhoneNumber) (code : Option Int) :
      NBPhoneNumber.withOneZero { number with countryCode := code } =
        { NBPhoneNumber.withOneZero number with countryCode := code } := rfl
  have start : ({} : NBPhoneNumber) = NBPhoneNumber.withOneZero {} := rfl
  unfold parseNumber at parsed
  dsimp only at parsed
  rw [start, extractForParsing_carries carries] at parsed
  obtain ⟨result, extracted, parsed⟩ := bind_eq_ok_iff.mp parsed
  cases result with
  | error anError => cases parsed
  | ok extraction =>
    obtain ⟨first, _, found⟩ := map_eq_ok_iff.mp extracted
    obtain ⟨found, _, rfl⟩ := map_eq_ok_iff.mp found
    dsimp only at parsed
    rw [resolveRegion_carries carries] at parsed
    dsimp only at parsed
    split at parsed
    · cases parsed
    · rw [stripForParsing_carries] at parsed
      obtain ⟨stripped, kept, parsed⟩ := bind_eq_ok_iff.mp parsed
      obtain ⟨⟨rest, last⟩, _, rfl⟩ := map_eq_ok_iff.mp kept
      dsimp only at parsed
      split at parsed
      · cases parsed
      split at parsed
      · cases parsed
      obtain rfl := Except.ok.inj (Except.ok.inj parsed)
      refine ⟨rfl, ?_⟩
      unfold setItalianLeadingZerosForPhoneNumber
      split
      · dsimp only
        split
        · rfl
        · rfl
      · rfl

/-- The extension of a text and the rest of its number, none when the text is
refused before they are taken apart. -/
def numberAndExtension (u : NBPhoneNumberUtil) (s : NSString) (defaultRegion : Option NSString) :
    Objc (Option (NSString × NSString)) := do
  let s := u.normalizeNonBreakingSpace s
  if s.length > MAX_INPUT_STRING_LENGTH then return none
  else
    let candidate ← u.buildNationalNumberForParsing s
    if !u.isViablePhoneNumber candidate || !u.checkRegionForParsing candidate defaultRegion then return none
    else return some (← u.maybeStripExtension candidate)

theorem parse_returns_iff {s defaultRegion : Option NSString} {phoneNumber : NBPhoneNumber} :
    (∃ parsed, u.parse s defaultRegion = .ok parsed ∧ parsed.phoneNumber = some phoneNumber) ↔
      u.parseHelper s defaultRegion false true = .ok (.ok phoneNumber) := by
  unfold parse
  cases u.parseHelper s defaultRegion false true with
  | error exception => exact iff_of_false (by rintro ⟨_, ⟨⟩, _⟩) (by rintro ⟨⟩)
  | ok result =>
    cases result with
    | error anError => exact iff_of_false (by rintro ⟨_, ⟨⟩, ⟨⟩⟩) (by rintro ⟨⟩)
    | ok number =>
      constructor
      · rintro ⟨_, ⟨⟩, ⟨⟩⟩
        rfl
      · intro same
        obtain rfl := Except.ok.inj (Except.ok.inj same)
        exact ⟨_, rfl, rfl⟩

/-- What a text is parsed to, if it is a number. -/
theorem parseHelper_eq_ok_iff {s : NSString} {defaultRegion : Option NSString} {phoneNumber : NBPhoneNumber} :
    u.parseHelper (some s) defaultRegion false true = .ok (.ok phoneNumber) ↔
      ∃ stripped number, u.numberAndExtension s defaultRegion = .ok (some stripped) ∧
        u.parseNumber stripped.2 defaultRegion = .ok (.ok number) ∧
        phoneNumber = number.extended (storedExtension stripped.1) := by
  unfold parseHelper numberAndExtension
  dsimp only [Option.map_some]
  by_cases long : (u.normalizeNonBreakingSpace s).length > MAX_INPUT_STRING_LENGTH
  · rw [if_pos long, if_pos long]
    exact iff_of_false (by rintro ⟨⟩) (by rintro ⟨_, _, ⟨⟩, _⟩)
  rw [if_neg long, if_neg long]
  cases u.buildNationalNumberForParsing (u.normalizeNonBreakingSpace s) with
  | error exception => exact iff_of_false (by rintro ⟨⟩) (by rintro ⟨_, _, ⟨⟩, _⟩)
  | ok candidate =>
    simp only [bind, Except.bind]
    by_cases viable : u.isViablePhoneNumber candidate
    · by_cases known : u.checkRegionForParsing candidate defaultRegion
      · simp only [viable, known, Bool.not_true, Bool.false_eq_true, if_false, Bool.and_false, Bool.or_false]
        rw [parseViable_eq]
        constructor
        · intro parsed
          obtain ⟨stripped, took, parsed⟩ := bind_eq_ok_iff.mp parsed
          obtain ⟨result, number, found⟩ := map_eq_ok_iff.mp parsed
          obtain ⟨number', rfl, same⟩ := map_eq_ok_iff.mp found
          rw [took]
          exact ⟨stripped, number', rfl, number, same.symm⟩
        · rintro ⟨stripped, number, took, parsed, rfl⟩
          cases strips : u.maybeStripExtension candidate with
          | error exception =>
            rw [strips] at took
            cases took
          | ok stripped' =>
            rw [strips] at took
            obtain rfl := Option.some.inj (Except.ok.inj took)
            simp only [bind, Except.bind, parsed]
            rfl
      · simp only [viable, known, Bool.not_true, Bool.false_eq_true, if_false, Bool.not_false, Bool.and_true, if_true,
          Bool.or_true]
        exact iff_of_false (by rintro ⟨⟩) (by rintro ⟨_, _, ⟨⟩, _⟩)
    · simp only [viable, Bool.not_false, if_true, Bool.true_or]
      exact iff_of_false (by rintro ⟨⟩) (by rintro ⟨_, _, ⟨⟩, _⟩)

end Numbers

/-- Errors of one domain, or one number with extensions that are written alike. -/
inductive SameOutcome (R : unichar → unichar → Prop) :
    Except NSError NBPhoneNumber → Except NSError NBPhoneNumber → Prop
  | fails {error error' : NSError} (domain : error'.domain = error.domain) : SameOutcome R (.error error) (.error error')
  | returns (number : NBPhoneNumber) {extension extension' : NSString} (related : List.Forall₂ R extension extension') :
    SameOutcome R (.ok (number.extended (storedExtension extension))) (.ok (number.extended (storedExtension extension')))

section Outcomes

variable {u : NBPhoneNumberUtil} (law : ScriptBlind u) {R : unichar → unichar → Prop} (rewrites : RewritesDigits R)
  {s s' : NSString}

include law rewrites

theorem parseViable_related (related : List.Forall₂ R s s') (defaultRegion : Option NSString) :
    Related (SameOutcome R) (u.parseViable s defaultRegion false {}) (u.parseViable s' defaultRegion false {}) := by
  rw [parseViable_eq, parseViable_eq]
  refine .bind (maybeStripExtension_related law rewrites related) fun stripped stripped' same => ?_
  obtain ⟨extensions, numbers⟩ := same
  rw [parseNumber_rewritten law (rewrites.rewritten numbers)]
  cases u.parseNumber stripped.2 defaultRegion with
  | error exception => exact .throws exception
  | ok result =>
    cases result with
    | error anError => exact .returns (.fails rfl)
    | ok number => exact .returns (.returns number extensions)

/-- A text and its copy in other scripts fail alike, or give one number. -/
theorem parseHelper_related (related : List.Forall₂ R s s') (defaultRegion : Option NSString) :
    Related (SameOutcome R) (u.parseHelper (some s) defaultRegion false true)
      (u.parseHelper (some s') defaultRegion false true) := by
  have spaced := rewrites.normalizeNonBreakingSpace u related
  unfold parseHelper
  dsimp only [Option.map_some]
  rw [spaced.length_eq]
  refine .ite (fun _ => .returns (.fails rfl)) (fun _ => ?_)
  refine .bind (buildNationalNumberForParsing_related law rewrites spaced) fun candidate candidate' candidates => ?_
  have rewritten := rewrites.rewritten candidates
  rw [isViablePhoneNumber_rewritten law rewritten, checkRegionForParsing_rewritten law rewritten]
  refine .ite (fun _ => .returns (.fails rfl)) (fun _ => ?_)
  refine .ite (fun _ => .returns (.fails rfl)) (fun _ => ?_)
  exact parseViable_related law rewrites candidates defaultRegion

end Outcomes

/-- Two parses fail with one domain, or give equal numbers. -/
structure Parsed.Alike (parsed parsed' : Parsed) : Prop where
  domains : parsed'.error.map NSError.domain = parsed.error.map NSError.domain
  numbers : Option.Rel (fun number number' => number'.isEqual number) parsed.phoneNumber parsed'.phoneNumber

/-- Two texts raise the same when they are parsed, or give like results. -/
def ParsesAlike (u : NBPhoneNumberUtil) (s s' : NSString) (defaultRegion : Option NSString) : Prop :=
  Related Parsed.Alike (u.parse (some s) defaultRegion) (u.parse (some s') defaultRegion)

/-- If a text is parsed to a number, the number has a calling code and the
extension in the text has no ASCII digit. -/
def KeepsScript (u : NBPhoneNumberUtil) (s : NSString) (defaultRegion : Option NSString) : Prop :=
  ∀ stripped number, u.numberAndExtension s defaultRegion = .ok (some stripped) →
    u.parseNumber stripped.2 defaultRegion = .ok (.ok number) →
      number.countryCode.isSome ∧ ∀ c ∈ stripped.1, isAsciiDigit c = false

/-- The full-width digit for an ASCII one. -/
def widen (c : unichar) : unichar := if isAsciiDigit c then c + 0xfee0 else c

theorem rewritesDigits_widen : RewritesDigits fun c c' => c' = widen c := by
  constructor
  · rintro c _ rfl
    unfold widen
    split
    · rename_i isDigit
      refine .inr ⟨isDigit, ?_, ?_⟩
      · exact forall_digit (P := fun c => isValidDigit (c + 0xfee0)) (by decide) isDigit
      · exact forall_digit (P := fun c => DIGIT_MAPPINGS (c + 0xfee0) = some c) (by decide) isDigit
    · exact .inl rfl
  · rfl

theorem isEqual_extended_iff {number : NBPhoneNumber} (national : number.nationalNumber.isSome)
    (zeros : number.numberOfLeadingZeros.isSome) (extension : Option NSString) :
    (number.extended extension).isEqual (number.extended extension) ↔ number.countryCode.isSome := by
  have same {n : Option Int} (given : n.isSome) : isEqualToNumber n n = true := by
    obtain ⟨value, rfl⟩ := Option.isSome_iff_exists.mp given
    exact beq_self_eq_true value
  unfold NBPhoneNumber.isEqual NBPhoneNumber.extended
  dsimp only
  rw [same national, same zeros, beq_self_eq_true, beq_self_eq_true]
  cases number.countryCode with
  | none => exact iff_of_false (by rintro ⟨⟩) (by rintro ⟨⟩)
  | some code => exact iff_of_true (by simp [isEqualToNumber]) rfl

theorem storedExtension_injective {extension extension' : NSString}
    (same : storedExtension extension = storedExtension extension') : extension = extension' := by
  unfold storedExtension at same
  cases extension with
  | nil =>
    cases extension' with
    | nil => rfl
    | cons _ _ => cases same
  | cons _ _ =>
    cases extension' with
    | nil => cases same
    | cons _ _ => exact Option.some.inj same

theorem SameOutcome.of_ok {R : unichar → unichar → Prop} {phoneNumber : NBPhoneNumber}
    {result : Except NSError NBPhoneNumber} (same : SameOutcome R (.ok phoneNumber) result) :
    ∃ (number : NBPhoneNumber) (extension extension' : NSString), List.Forall₂ R extension extension' ∧
      phoneNumber = number.extended (storedExtension extension) ∧
      result = .ok (number.extended (storedExtension extension')) := by
  generalize outcome : (.ok phoneNumber : Except NSError NBPhoneNumber) = first at same
  cases same with
  | fails _ => cases outcome
  | returns number related => exact ⟨number, _, _, related, Except.ok.inj outcome, rfl⟩

theorem eq_of_rewritten {extension extension' : NSString} (rewritten : Rewritten extension extension')
    (none : ∀ c ∈ extension, isAsciiDigit c = false) : extension' = extension := by
  induction rewritten with
  | nil => rfl
  | cons head _ ih =>
    rw [head.eq (none _ List.mem_cons_self), ih fun c member => none c (List.mem_cons_of_mem _ member)]

section Main

variable {u : NBPhoneNumberUtil} (law : ScriptBlind u) {s s' : NSString} {defaultRegion : Option NSString}

include law

/-- Digits outside the extension may be written in any script. -/
theorem parsesAlike_of_keepsScript (keeps : u.KeepsScript s defaultRegion) (rewritten : Rewritten s s') :
    u.ParsesAlike s s' defaultRegion := by
  have outcome := parseHelper_related law rewritesDigits_sameDigit rewritten defaultRegion
  unfold ParsesAlike parse
  cases first : u.parseHelper (some s) defaultRegion false true with
  | error exception =>
    rw [first] at outcome
    cases second : u.parseHelper (some s') defaultRegion false true with
    | error exception' =>
      rw [second] at outcome
      cases outcome
      exact .throws exception
    | ok result =>
      rw [second] at outcome
      cases outcome
  | ok result =>
    rw [first] at outcome
    obtain ⟨result', second, same⟩ := outcome.returns_of_ok
    rw [second]
    cases result with
    | error anError =>
      cases same with
      | fails domain => exact .returns ⟨congrArg some domain, .none⟩
    | ok phoneNumber =>
      obtain ⟨number, extension, extension', extensions, rfl, rfl⟩ := same.of_ok
      obtain ⟨stripped, parsed, took, parses, equal⟩ := parseHelper_eq_ok_iff.mp first
      obtain ⟨coded, noDigits⟩ := keeps stripped parsed took parses
      obtain ⟨national, zeros⟩ := parseNumber_specified parses
      obtain rfl : extension = stripped.1 := storedExtension_injective (congrArg NBPhoneNumber.extension equal)
      rw [eq_of_rewritten extensions noDigits, equal]
      exact .returns ⟨rfl, .some ((isEqual_extended_iff national zeros _).mpr coded)⟩

/-- A number parses alike in all scripts exactly when its extension, stored as it
was written, has no ASCII digit. -/
theorem parses_alike_iff (s : NSString) (defaultRegion : Option NSString) :
    (∀ s', Rewritten s s' → u.ParsesAlike s s' defaultRegion) ↔ u.KeepsScript s defaultRegion := by
  refine ⟨?_, fun keeps s' => parsesAlike_of_keepsScript law keeps⟩
  intro alike stripped number took parses
  have first := parseHelper_eq_ok_iff.mpr ⟨stripped, number, took, parses, rfl⟩
  obtain ⟨national, zeros⟩ := parseNumber_specified parses
  constructor
  · have again := alike s (List.forall₂_same.mpr fun c _ => .inl rfl)
    unfold ParsesAlike parse at again
    rw [first] at again
    cases again with
    | returns same =>
      cases same.numbers with
      | some equal => exact (isEqual_extended_iff national zeros _).mp equal
  · have widened : List.Forall₂ (fun c c' => c' = widen c) s (s.map widen) :=
      List.forall₂_map_right_iff.mpr (List.forall₂_same.mpr fun _ _ => rfl)
    have outcome := parseHelper_related law rewritesDigits_widen widened defaultRegion
    rw [first] at outcome
    obtain ⟨result, second, same⟩ := outcome.returns_of_ok
    obtain ⟨number', extension, extension', extensions, equal, rfl⟩ := same.of_ok
    have wide := alike (s.map widen) (rewritesDigits_widen.rewritten widened)
    unfold ParsesAlike parse at wide
    rw [first, second] at wide
    cases wide with
    | returns same =>
      cases same.numbers with
      | some equals =>
        obtain rfl : extension = stripped.1 := (storedExtension_injective (congrArg NBPhoneNumber.extension equal)).symm
        have stored : storedExtension extension' = storedExtension stripped.1 := by
          unfold NBPhoneNumber.isEqual at equals
          rw [Bool.and_eq_true] at equals
          exact beq_iff_eq.mp equals.2
        obtain rfl := storedExtension_injective stored
        intro c member
        have kept : c = widen c := List.forall₂_same.mp extensions c member
        rw [← Bool.not_eq_true]
        intro isDigit
        have moved : c + 0xfee0 ≠ c := forall_digit (P := fun c => c + 0xfee0 ≠ c) (by decide) isDigit
        rw [widen, if_pos isDigit] at kept
        exact moved kept.symm

end Main

/-- The parser's own expressions put the digits of all scripts in one class. -/
theorem scriptBlind_parserRegions (others : NSRegularExpressions) (helper : NBMetadataHelper) :
    ScriptBlind (parserRegions others helper) := by
  refine ⟨?_, ?_, ?_, ?_⟩
  · intro pattern fixed s s' range rewritten
    have matching (s : NSString) : (parserRegions others helper).regex.matchesInString pattern s range =
        parserMatches others pattern (s.map canonical) s range := rfl
    rw [matching, matching, map_canonical_rewritten rewritten]
    simp only [List.mem_cons, List.not_mem_nil, or_false] at fixed
    unfold parserMatches
    by_cases plus : pattern = LEADING_PLUS_CHARS_PATTERN
    · rw [if_pos plus, if_pos plus]
    by_cases start : pattern = VALID_START_CHAR_PATTERN
    · rw [if_neg plus, if_neg plus, if_pos start, if_pos start]
    by_cases ending : pattern = UNWANTED_END_CHAR_PATTERN
    · rw [if_neg plus, if_neg plus, if_neg start, if_neg start, if_pos ending, if_pos ending]
    by_cases second : pattern = SECOND_NUMBER_START_PATTERN
    · rw [if_neg plus, if_neg plus, if_neg start, if_neg start, if_neg ending, if_neg ending, if_pos second, if_pos second]
    have extended : pattern = EXTN_PATTERN := by
      rcases fixed with found | found | found | found | found
      · exact absurd found plus
      · exact absurd found start
      · exact absurd found ending
      · exact absurd found second
      · exact found
    rw [if_neg plus, if_neg plus, if_neg start, if_neg start, if_neg ending, if_neg ending, if_neg second, if_neg second,
      if_pos extended, if_pos extended]
  · intro pattern fixed s s' rewritten
    have anchored (s : NSString) : (parserRegions others helper).regex.firstAnchoredMatch pattern s =
        parserAnchoredMatch others pattern (s.map canonical) s := rfl
    rw [anchored, anchored, map_canonical_rewritten rewritten]
    simp only [List.mem_cons, List.not_mem_nil, or_false] at fixed
    unfold parserAnchoredMatch
    by_cases viable : pattern = VALID_PHONE_NUMBER_PATTERN
    · rw [if_pos viable, if_pos viable]
    · have alpha : pattern = alphaPattern := fixed.resolve_left viable
      rw [if_neg viable, if_neg viable, if_pos alpha, if_pos alpha]
  · intro target named s s' rewritten
    refine literalSearch_rewritten ?_ rewritten
    simp only [List.mem_cons, List.not_mem_nil, or_false] at named
    rcases named with rfl | rfl | rfl
    · decide
    · decide
    · decide
  · intro c valid
    have bounds := isValidDigit_bounds valid
    exact (ascii_uppercaseString_eq_iff (by omega) (by omega)).mpr rfl

theorem ParsesAlike.isEqual {u : NBPhoneNumberUtil} {s s' : NSString} {defaultRegion : Option NSString}
    (alike : u.ParsesAlike s s' defaultRegion) {number number' : NBPhoneNumber}
    (first : (u.parse (some s) defaultRegion).toOption = some ⟨some number, none⟩)
    (second : (u.parse (some s') defaultRegion).toOption = some ⟨some number', none⟩) : number'.isEqual number := by
  unfold ParsesAlike at alike
  generalize u.parse (some s) defaultRegion = x at alike first
  generalize u.parse (some s') defaultRegion = y at alike second
  cases alike with
  | throws exception => cases first
  | returns same =>
    obtain rfl := Option.some.inj first
    obtain rfl := Option.some.inj second
    cases same.numbers with
    | some equal => exact equal

/-- The extension 5 in full width is not the extension 5. -/
theorem fullwidth_extension_differs :
    ScriptBlind writtenRegion ∧ Rewritten (ns "+12530000;ext=5") (ns "+12530000;ext=\uff15") ∧
      ¬ writtenRegion.ParsesAlike (ns "+12530000;ext=5") (ns "+12530000;ext=\uff15") (some (ns "US")) := by
  refine ⟨scriptBlind_parserRegions _ _, by decide +kernel, ?_⟩
  intro alike
  have digit (extension : NSString) (valid : isExtension extension) : ∀ digits ∈ some extension, isExtension digits := by
    rintro _ ⟨⟩
    exact valid
  have ascii := writtenRegion_parse (digit (ns "5") (by decide)) (by decide) (some (ns "US"))
  have wide := writtenRegion_parse (digit (ns "\uff15") (by decide)) (by decide) (some (ns "US"))
  have equal := alike.isEqual (congrArg Except.toOption ascii) (congrArg Except.toOption wide)
  revert equal
  decide

/-- A number without an extension is the same in every script. -/
theorem parses_alike_in_scripts :
    writtenRegion.ParsesAlike (ns "+12530000") (ns "+\u0661253\uff10\uff1000") (some (ns "US")) := by
  have law : ScriptBlind writtenRegion := scriptBlind_parserRegions _ _
  have bare : extensionText none = [] := rfl
  have parsed : writtenRegion.parse (some (ns "+12530000" ++ extensionText none)) (some (ns "US")) =
      .ok ⟨some (writtenNumber none), none⟩ := writtenRegion_parse (fun _ absent => by cases absent) (by decide) _
  refine (parses_alike_iff law (ns "+12530000") (some (ns "US"))).mpr ?_ _ (by decide +kernel)
  intro stripped number took parses
  have same := parseHelper_eq_ok_iff.mpr ⟨stripped, number, took, parses, rfl⟩
  obtain ⟨_, again, found⟩ := parse_returns_iff.mpr same
  rw [bare, List.append_nil, again] at parsed
  obtain rfl := Except.ok.inj parsed
  have number' := Option.some.inj found
  have coded := congrArg NBPhoneNumber.countryCode number'
  have none : [] = stripped.1 := storedExtension_injective (congrArg NBPhoneNumber.extension number')
  rw [← none]
  exact ⟨coded ▸ rfl, fun _ absent => by cases absent⟩

end NBPhoneNumberUtil

end SignalPods.PhoneNumber
