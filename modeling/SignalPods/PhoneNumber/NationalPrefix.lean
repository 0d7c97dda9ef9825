import SignalPods.PhoneNumber.ParsingSafety
import SignalPods.Foundation.Decimals

namespace SignalPods.PhoneNumber

open Foundation

section Digits

variable {s : NSString}

theorem not_isWhitespace_of_digit {c : unichar} (isDigit : isAsciiDigit c = true) : isWhitespace c = false := by
  have each : ∀ d < 10, isWhitespace (digit d) = false := by decide
  rw [← digit_digitValue isDigit]
  exact each _ (digitValue_lt isDigit)

theorem stringByTrimming_of_absent (absent : ∀ c ∈ s, isWhitespace c = false) : stringByTrimming s = s := by
  have blank : ∀ c ∈ s, ¬ isWhitespace c = true := by
    intro c member
    rw [absent c member]
    decide
  have front : s.dropWhile isWhitespace = s := by
    cases s with
    | nil => rfl
    | cons c rest => exact List.dropWhile_cons_of_neg (blank c List.mem_cons_self)
  rw [stringByTrimming, front, List.rdropWhile_eq_self_iff]
  intro nonempty
  exact blank _ (List.getLast_mem nonempty)

theorem stringByTrimming_digits (digits : s.all isAsciiDigit = true) : stringByTrimming s = s := by
  rw [List.all_eq_true] at digits
  exact stringByTrimming_of_absent fun c member => not_isWhitespace_of_digit (digits c member)

theorem hasValue_digits (digits : s.all isAsciiDigit = true) : hasValue (some s) = !s.isEmpty := by
  rw [hasValue, stringByTrimming_digits digits]

theorem slice_digits (digits : s.all isAsciiDigit = true) (range : NSRange) : (slice s range).all isAsciiDigit = true := by
  rw [List.all_eq_true] at digits ⊢
  intro c member
  exact digits c (List.mem_of_mem_drop (List.mem_of_mem_take member))

end Digits

namespace NBPhoneNumberUtil

variable {u : NBPhoneNumberUtil} {s : NSString} {metadata : NBPhoneMetaData} {firstMatch : NSTextCheckingResult}

/-- What the last group of a match captured, the whole match when there is no group. -/
def lastCaptured (s : NSString) (firstMatch : NSTextCheckingResult) : NSString :=
  groupText s firstMatch firstMatch.groups.length

/-- There is a rule, and the last group captured something. -/
def transforms (metadata : NBPhoneMetaData) (s : NSString) (firstMatch : NSTextCheckingResult) : Bool :=
  metadata.nationalPrefixTransformRule.any (!·.isEmpty) && !(lastCaptured s firstMatch).isEmpty

/-- The pattern of the national prefix, anchored. -/
def prefixPattern (metadata : NBPhoneMetaData) : NSString :=
  nationalPrefixPattern (metadata.nationalPrefixForParsing.getD [])

def strippedNumber (u : NBPhoneNumberUtil) (metadata : NBPhoneMetaData) (s : NSString)
    (firstMatch : NSTextCheckingResult) : NSString :=
  if transforms metadata s firstMatch then
    u.replaceFirstStringByRegex s (prefixPattern metadata) (metadata.nationalPrefixTransformRule.getD [])
  else s.drop firstMatch.range.length

/-- What is appended to the carrier code. -/
def carrierText (metadata : NBPhoneMetaData) (s : NSString) (firstMatch : NSTextCheckingResult) : NSString :=
  if transforms metadata s firstMatch then if 1 < firstMatch.groups.length then lastCaptured s firstMatch else []
  else if firstMatch.groups.length = 0 then []
  else if (lastCaptured s firstMatch).isEmpty then slice s firstMatch.range else lastCaptured s firstMatch

theorem lastGroup_spec (digits : s.all isAsciiDigit = true) (inside : firstMatch.Inside s) :
    ∃ group, lastGroup s firstMatch = .ok group ∧ hasValue group = !(lastCaptured s firstMatch).isEmpty ∧
      (hasValue group = true → group = some (lastCaptured s firstMatch)) := by
  have last : firstMatch.numberOfRanges - 1 = firstMatch.groups.length := Nat.add_sub_cancel _ _
  unfold lastGroup lastCaptured groupText
  rw [last]
  cases atLast : firstMatch.rangeAtIndex firstMatch.groups.length with
  | none => exact ⟨none, rfl, rfl, fun value => by cases value⟩
  | some range =>
    dsimp only
    by_cases starts : range.location < s.length
    · rw [if_pos starts, substringWithRange_of_inside (inside _ range atLast)]
      exact ⟨some (slice s range), rfl, hasValue_digits (slice_digits digits range), fun _ => rfl⟩
    · have nothing : slice s range = [] := by
        rw [slice, List.drop_eq_nil_of_le (Nat.le_of_not_lt starts), List.take_nil]
      rw [if_neg starts]
      refine ⟨none, rfl, ?_, fun value => by cases value⟩
      simp [nothing, hasValue]

theorem transformedNumber_spec {group : Option NSString} (inside : firstMatch.Inside s)
    (value : hasValue group = !(lastCaptured s firstMatch).isEmpty) :
    u.transformedNumber s metadata (prefixPattern metadata) (slice s firstMatch.range) group =
      .ok (!transforms metadata s firstMatch, u.strippedNumber metadata s firstMatch) := by
  have whole := inside 0 _ rfl
  have length := length_slice_of_inside whole
  have short : (slice s firstMatch.range).length ≤ s.length := by
    unfold NSRange.Inside at whole
    omega
  unfold transformedNumber strippedNumber transforms
  rw [value, length]
  rw [length] at short
  rw [substringFromIndex_of_le short]
  cases metadata.nationalPrefixTransformRule with
  | none => rfl
  | some rule =>
    cases noRule : rule.isEmpty with
    | true => simp [noRule, Except.map]
    | false =>
      cases nothing : (lastCaptured s firstMatch).isEmpty with
      | true => simp [Except.map]
      | false => simp [noRule]

theorem losesViability_eq_true_iff {rule : Option NSString} {number transformed : NSString} :
    u.losesViability rule number transformed = true ↔ ∃ pattern, rule = some pattern ∧ hasValue (some pattern) = true ∧
      u.matchesPattern pattern number = true ∧ u.matchesPattern pattern transformed = false := by
  cases rule with
  | none => simp [losesViability]
  | some pattern => simp [losesViability, and_assoc]

/-- What the function returns for a number that the prefix pattern matches. -/
theorem maybeStripNationalPrefixAndCarrierCode_of_match {others : List NSTextCheckingResult}
    (digits : s.all isAsciiDigit = true)
    (nonempty : s ≠ []) (parsing : hasValue metadata.nationalPrefixForParsing = true)
    (found : u.regex.allMatches (prefixPattern metadata) s = firstMatch :: others) (carrierCode : NSString) :
    u.maybeStripNationalPrefixAndCarrierCode s metadata (some carrierCode) = .ok
      (if u.losesViability metadata.generalDesc.nationalNumberPattern s (u.strippedNumber metadata s firstMatch) then
        ⟨false, s, some carrierCode⟩
      else ⟨true, u.strippedNumber metadata s firstMatch, some (carrierCode ++ carrierText metadata s firstMatch)⟩) := by
  have inside : firstMatch.Inside s := NSRegularExpressions.inside_of_mem_allMatches (found ▸ List.mem_cons_self)
  obtain ⟨group, read, value, captured⟩ := lastGroup_spec digits inside
  have searched : (s.isEmpty || !hasValue metadata.nationalPrefixForParsing) = false := by
    simp [parsing, nonempty]
  have appended (text : NSString) :
      appendCarrierCode (some carrierCode) (some text) = .ok (some (carrierCode ++ text)) := rfl
  have matchedText := hasValue_digits (slice_digits digits firstMatch.range)
  unfold maybeStripNationalPrefixAndCarrierCode
  dsimp only
  rw [if_neg (by rw [searched]; decide), show nationalPrefixPattern _ = prefixPattern metadata from rfl, found]
  dsimp only
  simp only [substringWithRange_of_inside (inside 0 _ rfl), bind, Except.bind, read,
    transformedNumber_spec inside value]
  cases u.losesViability metadata.generalDesc.nationalNumberPattern s (u.strippedNumber metadata s firstMatch) with
  | true => rfl
  | false =>
    have last : firstMatch.numberOfRanges - 1 = firstMatch.groups.length := Nat.add_sub_cancel _ _
    unfold carrierText
    rw [last, value, matchedText]
    cases applied : transforms metadata s firstMatch with
    | true =>
      have something := (Bool.and_eq_true_iff.mp applied).2
      have group := captured (value.trans something)
      rw [group]
      by_cases several : 1 < firstMatch.groups.length
      · simp [several, appended, pure, Except.pure]
      · simp [several, pure, Except.pure]
    | false =>
      by_cases grouped : firstMatch.groups.length = 0
      · simp [grouped, pure, Except.pure]
      · have positive : 0 < firstMatch.groups.length := Nat.pos_of_ne_zero grouped
        cases nothing : (lastCaptured s firstMatch).isEmpty with
        | false =>
          have group := captured (by rw [value, nothing]; rfl)
          rw [group]
          simp [grouped, positive, appended, pure, Except.pure]
        | true =>
          -- the whole match is appended, and appending an empty match changes nothing
          cases empty : (slice s firstMatch.range).isEmpty with
          | false => simp [grouped, positive, appended, pure, Except.pure]
          | true => simp [grouped, List.isEmpty_iff.mp empty, pure, Except.pure]

/-- Without a match, or without a prefix to look for, nothing is stripped. -/
theorem maybeStripNationalPrefixAndCarrierCode_of_none
    (unmatched : s = [] ∨ hasValue metadata.nationalPrefixForParsing = false ∨
      u.regex.allMatches (prefixPattern metadata) s = [])
    (carrierCode : Option NSString) :
    u.maybeStripNationalPrefixAndCarrierCode s metadata carrierCode = .ok ⟨false, s, carrierCode⟩ := by
  unfold maybeStripNationalPrefixAndCarrierCode
  dsimp only
  by_cases early : (s.isEmpty || !hasValue metadata.nationalPrefixForParsing) = true
  · rw [if_pos early]
    rfl
  · rw [if_neg early]
    simp only [Bool.or_eq_true, List.isEmpty_iff, Bool.not_eq_true', not_or] at early
    have none := (unmatched.resolve_left early.1).resolve_left early.2
    unfold prefixPattern at none
    rw [none]
    rfl

/-- The pattern matches at the start only, and finds a match again when nothing but that
match is searched. -/
structure PrefixLaws (u : NBPhoneNumberUtil) (metadata : NBPhoneMetaData) : Prop where
  starts : ∀ s, ∀ result ∈ u.regex.allMatches (prefixPattern metadata) s, result.range.location = 0
  again : ∀ s result others, u.regex.allMatches (prefixPattern metadata) s = result :: others →
    u.regex.matchesInString (prefixPattern metadata) s result.range = [result]

/-- The transform replaces the match by the rule with the groups filled in. -/
theorem strippedNumber_of_transforms {others : List NSTextCheckingResult} (laws : PrefixLaws u metadata)
    (found : u.regex.allMatches (prefixPattern metadata) s = firstMatch :: others)
    (applied : transforms metadata s firstMatch = true) :
    u.strippedNumber metadata s firstMatch =
      replacementString s (metadata.nationalPrefixTransformRule.getD []) firstMatch ++ s.drop firstMatch.range.length := by
  have start := laws.starts s firstMatch (found ▸ List.mem_cons_self)
  have again := laws.again s firstMatch others found
  rw [strippedNumber, if_pos applied, replaceFirstStringByRegex, found]
  dsimp only
  rw [NSRegularExpressions.stringByReplacingMatches, again, replaceMatches, replaceMatches, start]
  simp [slice]

theorem strippedNumber_of_not_transforms {others : List NSTextCheckingResult} (laws : PrefixLaws u metadata)
    (found : u.regex.allMatches (prefixPattern metadata) s = firstMatch :: others)
    (plain : transforms metadata s firstMatch = false) :
    slice s firstMatch.range ++ u.strippedNumber metadata s firstMatch = s := by
  have start := laws.starts s firstMatch (found ▸ List.mem_cons_self)
  rw [strippedNumber, if_neg (by rw [plain]; decide), slice, start, List.drop_zero, List.take_append_drop]

/-- What becomes of a number whose prefix matched. Nothing is said of the carrier code
when the pattern has several groups, or has one that captured nothing beside a trunk prefix. -/
structure PrefixTaken (u : NBPhoneNumberUtil) (metadata : NBPhoneMetaData) (s carrierCode : NSString)
    (firstMatch : NSTextCheckingResult) (result : StrippedPrefix) : Prop where
  removed : metadata.nationalPrefixTransformRule.getD [] = [] ∨ lastCaptured s firstMatch = [] →
    slice s firstMatch.range ++ result.number = s
  transformed : metadata.nationalPrefixTransformRule.getD [] ≠ [] → lastCaptured s firstMatch ≠ [] →
    result.number =
      replacementString s (metadata.nationalPrefixTransformRule.getD []) firstMatch ++ s.drop firstMatch.range.length
  ungrouped : firstMatch.groups = [] → result.carrierCode = some carrierCode
  unmatched : slice s firstMatch.range = [] → lastCaptured s firstMatch = [] → result.carrierCode = some carrierCode
  captured : firstMatch.groups.length = 1 → metadata.nationalPrefixTransformRule.getD [] = [] →
    groupText s firstMatch 1 ≠ [] → result.carrierCode = some (carrierCode ++ groupText s firstMatch 1)
  rewritten : firstMatch.groups.length = 1 → metadata.nationalPrefixTransformRule.getD [] ≠ [] →
    groupText s firstMatch 1 ≠ [] → result.carrierCode = some carrierCode

structure StripsPrefix (u : NBPhoneNumberUtil) (metadata : NBPhoneMetaData) (s carrierCode : NSString)
    (result : StrippedPrefix) : Prop where
  unstripped : result.stripped = false → result.number = s ∧ result.carrierCode = some carrierCode
  stripped : result.stripped = true → ∃ firstMatch others,
    u.regex.allMatches (prefixPattern metadata) s = firstMatch :: others ∧
      PrefixTaken u metadata s carrierCode firstMatch result
  viable : ∀ rule, metadata.generalDesc.nationalNumberPattern = some rule → hasValue (some rule) = true →
    u.matchesPattern rule s = true → u.matchesPattern rule result.number = true

theorem transforms_eq_true_iff : transforms metadata s firstMatch = true ↔
    metadata.nationalPrefixTransformRule.getD [] ≠ [] ∧ lastCaptured s firstMatch ≠ [] := by
  unfold transforms
  cases metadata.nationalPrefixTransformRule with
  | none => simp
  | some rule => simp

theorem prefixTaken (laws : PrefixLaws u metadata) {others : List NSTextCheckingResult}
    (found : u.regex.allMatches (prefixPattern metadata) s = firstMatch :: others) (carrierCode : NSString) :
    PrefixTaken u metadata s carrierCode firstMatch
      ⟨true, u.strippedNumber metadata s firstMatch, some (carrierCode ++ carrierText metadata s firstMatch)⟩ := by
  have plain (nothing : metadata.nationalPrefixTransformRule.getD [] = [] ∨ lastCaptured s firstMatch = []) :
      transforms metadata s firstMatch = false := by
    rw [← Bool.not_eq_true, transforms_eq_true_iff]
    rcases nothing with noRule | nothing
    · exact fun both => both.1 noRule
    · exact fun both => both.2 nothing
  have one (single : firstMatch.groups.length = 1) : lastCaptured s firstMatch = groupText s firstMatch 1 := by
    rw [lastCaptured, single]
  have unchanged (nothing : carrierText metadata s firstMatch = []) :
      some (carrierCode ++ carrierText metadata s firstMatch) = some carrierCode := by
    rw [nothing, List.append_nil]
  constructor
  · intro nothing
    exact strippedNumber_of_not_transforms laws found (plain nothing)
  · intro rule something
    exact strippedNumber_of_transforms laws found (transforms_eq_true_iff.mpr ⟨rule, something⟩)
  · intro ungrouped
    refine unchanged ?_
    simp [carrierText, ungrouped]
  · intro empty nothing
    refine unchanged ?_
    simp [carrierText, plain (Or.inr nothing), nothing, empty]
  · intro single noRule something
    have text : carrierText metadata s firstMatch = groupText s firstMatch 1 := by
      rw [← one single] at something ⊢
      simp [carrierText, plain (Or.inl noRule), single, something]
    rw [text]
  · intro single rule something
    rw [← one single] at something
    refine unchanged ?_
    simp [carrierText, transforms_eq_true_iff.mpr ⟨rule, something⟩, single]

/-- The stripping is faithful for every number of digits. -/
theorem maybeStripNationalPrefixAndCarrierCode_faithful (u : NBPhoneNumberUtil) (metadata : NBPhoneMetaData)
    (laws : PrefixLaws u metadata) (s : NSString) (digits : s.all isAsciiDigit = true) (carrierCode : NSString) :
    ∃ result, u.maybeStripNationalPrefixAndCarrierCode s metadata (some carrierCode) = .ok result ∧
      StripsPrefix u metadata s carrierCode result := by
  have kept (number : NSString) : StripsPrefix u metadata number carrierCode ⟨false, number, some carrierCode⟩ :=
    ⟨fun _ => ⟨rfl, rfl⟩, fun stripped => Bool.noConfusion stripped, fun _ _ _ viable => viable⟩
  by_cases unmatched : s = [] ∨ hasValue metadata.nationalPrefixForParsing = false ∨
      u.regex.allMatches (prefixPattern metadata) s = []
  · exact ⟨_, maybeStripNationalPrefixAndCarrierCode_of_none unmatched _, kept s⟩
  · obtain ⟨nonempty, parsing, matched⟩ := by simpa only [not_or] using unmatched
    obtain ⟨firstMatch, others, found⟩ := List.exists_cons_of_ne_nil matched
    have result := maybeStripNationalPrefixAndCarrierCode_of_match digits nonempty (Bool.eq_true_of_not_eq_false parsing)
      found carrierCode
    cases loses : u.losesViability metadata.generalDesc.nationalNumberPattern s (u.strippedNumber metadata s firstMatch) with
    | true =>
      rw [loses, if_pos rfl] at result
      exact ⟨_, result, kept s⟩
    | false =>
      rw [loses, if_neg (by decide)] at result
      refine ⟨_, result, fun unstripped => Bool.noConfusion unstripped,
        fun _ => ⟨firstMatch, others, found, prefixTaken laws found carrierCode⟩, ?_⟩
      intro rule general value viable
      by_contra unviable
      have lost := losesViability_eq_true_iff.mpr ⟨rule, general, value, viable, Bool.eq_false_of_not_eq_true unviable⟩
      rw [loses] at lost
      cases lost

end NBPhoneNumberUtil

/-- The length of a match at the start of a text, with the groups in it. -/
abbrev HeadMatch := Nat × List (Option NSRange)

def HeadMatch.fits (text : NSString) (found : HeadMatch) : Bool :=
  found.1 ≤ text.length && found.2.all fun group => group.all fun range => range.location + range.length ≤ found.1

def HeadMatch.result (start : Nat) (found : HeadMatch) : NSTextCheckingResult :=
  { range := ⟨start, found.1⟩
    groups := found.2.map (Option.map fun range => ⟨start + range.location, range.length⟩) }

/-- The match of an anchored expression in a range. -/
def headMatches (find : NSString → Option HeadMatch) (s : NSString) (range : NSRange) : List NSTextCheckingResult :=
  match find (slice s range) with
  | some found => if found.fits (slice s range) then [found.result range.location] else []
  | none => []

theorem headMatches_inside {find : NSString → Option HeadMatch} {s : NSString} {range : NSRange} (inside : range.Inside s) :
    ∀ result ∈ headMatches find s range, result.Inside s := by
  intro result member
  have length := length_slice_of_inside inside
  unfold headMatches at member
  split at member
  · rename_i found _
    split at member
    · rename_i fits
      obtain rfl := List.mem_singleton.mp member
      rw [HeadMatch.fits, Bool.and_eq_true, List.all_eq_true, decide_eq_true_iff] at fits
      unfold NSRange.Inside at inside
      intro index group atIndex
      unfold NSRange.Inside
      cases index with
      | zero =>
        obtain rfl := Option.some.inj atIndex
        have short := fits.1
        show range.location + found.1 ≤ s.length
        omega
      | succ index =>
        have listed := List.mem_of_getElem? (Option.join_eq_some_iff.mp atIndex)
        obtain ⟨captured, member, shifted⟩ := List.mem_map.mp listed
        obtain ⟨offset, rfl, rfl⟩ := Option.map_eq_some_iff.mp shifted
        have short := fits.1
        have bound := fits.2 _ member
        rw [Option.all_some, decide_eq_true_iff] at bound
        show range.location + offset.location + offset.length ≤ s.length
        omega
    · cases member
  · cases member

theorem headMatches_of_found {find : NSString → Option HeadMatch} {s : NSString} {range : NSRange} {found : HeadMatch}
    (atStart : find (slice s range) = some found) (fits : found.fits (slice s range) = true) :
    headMatches find s range = [found.result range.location] := by
  rw [headMatches, atStart]
  exact if_pos fits

theorem headMatches_eq_cons {find : NSString → Option HeadMatch} {s : NSString} {range : NSRange}
    {result : NSTextCheckingResult} {others : List NSTextCheckingResult}
    (matched : headMatches find s range = result :: others) :
    ∃ found, find (slice s range) = some found ∧ found.fits (slice s range) = true ∧
      result = found.result range.location := by
  unfold headMatches at matched
  split at matched
  · rename_i found atStart
    split at matched
    · rename_i fits
      exact ⟨found, atStart, fits, (List.cons.inj matched).1.symm⟩
    · cases matched
  · cases matched

theorem headMatches_location {find : NSString → Option HeadMatch} {s : NSString} {range : NSRange}
    {result : NSTextCheckingResult} (member : result ∈ headMatches find s range) :
    result.range.location = range.location := by
  unfold headMatches at member
  split at member
  · split at member
    · obtain rfl := List.mem_singleton.mp member
      rfl
    · cases member
  · cases member

/-- An expression that needs nothing behind its match finds it again in the match alone. -/
theorem headMatches_again {find : NSString → Option HeadMatch}
    (alone : ∀ text found, find text = some found → find (text.take found.1) = some found) {s : NSString}
    {result : NSTextCheckingResult} {others : List NSTextCheckingResult}
    (matched : headMatches find s ⟨0, s.length⟩ = result :: others) : headMatches find s result.range = [result] := by
  obtain ⟨found, atStart, fits, rfl⟩ := headMatches_eq_cons matched
  rw [slice_zero, List.take_length] at atStart fits
  have again := alone s found atStart
  have short : found.1 ≤ s.length := by
    rw [HeadMatch.fits, Bool.and_eq_true, decide_eq_true_iff] at fits
    exact fits.1
  have there : slice s (found.result 0).range = s.take found.1 := slice_zero _
  refine headMatches_of_found (there ▸ again) ?_
  rw [there, HeadMatch.fits, List.length_take, Nat.min_eq_left short]
  rw [HeadMatch.fits, Bool.and_eq_true] at fits
  simp only [le_refl, decide_true, Bool.true_and]
  exact fits.2

/-- Antigua: a seven-digit subscriber number gets its area code, or a trunk prefix is
taken off. -/
def antiguaPrefix : NSString := ns "([457]\\d\x7b6\x7d)$|1"

def antiguaRule : NSString := ns "(?:268|[58]\\d\\d|900)\\d\x7b7\x7d"

def antigua : NBPhoneMetaData :=
  { countryCode := some 1
    generalDesc :=
      { nationalNumberPattern := some antiguaRule, possibleLength := some [10], possibleLengthLocalOnly := some [7] }
    nationalPrefix := some (ns "1")
    nationalPrefixForParsing := some antiguaPrefix
    nationalPrefixTransformRule := some (ns "268$1") }

/-- Brazil: a trunk prefix, then perhaps a carrier and a number. -/
def brazilPrefix : NSString := ns "(?:0|90)(?:(1[245]|2[1-35]|31|4[13]|[56]5|99)(\\d\x7b10,11\x7d))?"

def brazil : NBPhoneMetaData :=
  { countryCode := some 55
    nationalPrefix := some (ns "0")
    nationalPrefixForParsing := some brazilPrefix
    nationalPrefixTransformRule := some (ns "$2") }

/-- A trunk prefix and a number that may be missing. -/
def optionalNumberPrefix : NSString := ns "0(\\d*)"

def optionalNumber : NBPhoneMetaData :=
  { nationalPrefixForParsing := some optionalNumberPrefix
    nationalPrefixTransformRule := some (ns "9$1") }

def antiguaMatch (text : NSString) : Option HeadMatch :=
  if text.length = 7 ∧ text.all isAsciiDigit ∧ (text.head?.any fun c => c = 52 ∨ c = 53 ∨ c = 55) then some (7, [some ⟨0, 7⟩])
  else if text.head? = some 49 then some (1, [none])
  else none

def brazilCarriers : List NSString :=
  [ns "12", ns "14", ns "15", ns "21", ns "22", ns "23", ns "25", ns "31", ns "41", ns "43", ns "55", ns "65", ns "99"]

def brazilMatch (text : NSString) : Option HeadMatch :=
  let trunk := if (ns "0").isPrefixOf text then 1 else if (ns "90").isPrefixOf text then 2 else 0
  let subscriber := ((text.drop (trunk + 2)).takeWhile isAsciiDigit).length
  if trunk = 0 then none
  else if (text.drop trunk).take 2 ∈ brazilCarriers ∧ 10 ≤ subscriber then
    some (trunk + 2 + min subscriber 11, [some ⟨trunk, 2⟩, some ⟨trunk + 2, min subscriber 11⟩])
  else some (trunk, [none, none])

def optionalNumberMatch (text : NSString) : Option HeadMatch :=
  match text with
  | 48 :: rest => some (1 + (rest.takeWhile isAsciiDigit).length, [some ⟨1, (rest.takeWhile isAsciiDigit).length⟩])
  | _ => none

def isAntiguan (s : NSString) : Bool :=
  s.length = 10 && s.all isAsciiDigit && ((ns "268").isPrefixOf s || (ns "900").isPrefixOf s ||
    s.head?.any fun c => c = 53 ∨ c = 56)

def prefixExpressions : NSRegularExpressions where
  matchesInString pattern s range :=
    if pattern = NBPhoneNumberUtil.nationalPrefixPattern antiguaPrefix then headMatches antiguaMatch s range
    else if pattern = NBPhoneNumberUtil.nationalPrefixPattern brazilPrefix then headMatches brazilMatch s range
    else if pattern = NBPhoneNumberUtil.nationalPrefixPattern optionalNumberPrefix then
      headMatches optionalNumberMatch s range
    else []
  firstAnchoredMatch pattern s :=
    if pattern = ns "^(?:" ++ antiguaRule ++ ns ")$" ∧ isAntiguan s then some { range := ⟨0, s.length⟩ } else none
  matches_inside := by
    intro pattern s range inside result member
    split at member
    · exact headMatches_inside inside result member
    split at member
    · exact headMatches_inside inside result member
    split at member
    · exact headMatches_inside inside result member
    · cases member
  anchored_inside := by
    intro pattern s result found
    split at found
    · obtain rfl := Option.some.inj found
      intro index range atIndex
      cases index with
      | zero =>
        obtain rfl := Option.some.inj atIndex
        exact Nat.le_of_eq (Nat.zero_add _)
      | succ index => cases atIndex
    · cases found

def prefixRegions : NBPhoneNumberUtil where
  unicode := Unicode.ascii
  regex := prefixExpressions
  helper := { countryCodeToRegionCodeMap := fun _ => none, countryToMetadata := fun _ => none }
  sameObject a b := decide (a = b)
  sameObject_eq _ _ same := of_decide_eq_true same
  errorDescription := NSError.localizedDescription

theorem prefixRegions_antigua (s : NSString) (range : NSRange) :
    prefixRegions.regex.matchesInString (NBPhoneNumberUtil.prefixPattern antigua) s range =
      headMatches antiguaMatch s range := by
  have asked : NBPhoneNumberUtil.prefixPattern antigua = NBPhoneNumberUtil.nationalPrefixPattern antiguaPrefix := rfl
  simp only [prefixRegions, prefixExpressions, asked, if_true]

theorem antiguaMatch_alone (text : NSString) (found : HeadMatch) (atStart : antiguaMatch text = some found) :
    antiguaMatch (text.take found.1) = some found := by
  unfold antiguaMatch at atStart
  split at atStart
  · rename_i subscriber
    obtain rfl := Option.some.inj atStart
    have whole : text.take 7 = text := List.take_of_length_le (Nat.le_of_eq subscriber.1)
    rw [whole]
    exact if_pos subscriber
  · split at atStart
    · rename_i trunk
      obtain rfl := Option.some.inj atStart
      obtain ⟨rest, rfl⟩ := List.head?_eq_some_iff.mp trunk
      rfl
    · cases atStart

theorem antigua_laws : prefixRegions.PrefixLaws antigua where
  starts := by
    intro s result member
    rw [NSRegularExpressions.allMatches, prefixRegions_antigua] at member
    exact headMatches_location member
  again := by
    intro s result others matched
    rw [NSRegularExpressions.allMatches, prefixRegions_antigua] at matched
    rw [prefixRegions_antigua, headMatches_again antiguaMatch_alone matched]

namespace NBPhoneNumberUtil

theorem maybeStripNationalPrefixAndCarrierCode_faithful_antigua :
    ∃ result, prefixRegions.maybeStripNationalPrefixAndCarrierCode (ns "4641234") antigua (some []) = .ok result ∧
      StripsPrefix prefixRegions antigua (ns "4641234") [] result :=
  maybeStripNationalPrefixAndCarrierCode_faithful prefixRegions antigua antigua_laws (ns "4641234") (by decide) []

/-- The only group of a rewritten number is no carrier and is not recorded, though it took
part. A group that captured nothing does not call for the rule. Where no group took part the trunk
prefix is recorded, and of two groups the second, which is the subscriber number. -/
theorem carrierCode_is_not_the_first_group :
    ((prefixRegions.regex.allMatches (prefixPattern antigua) (ns "4641234")).map (groupText (ns "4641234") · 1) =
        [ns "4641234"] ∧
      prefixRegions.maybeStripNationalPrefixAndCarrierCode (ns "4641234") antigua (some []) =
        .ok ⟨true, ns "2684641234", some []⟩) ∧
    ((prefixRegions.regex.allMatches (prefixPattern optionalNumber) (ns "0")).map (·.rangeAtIndex 1) = [some ⟨1, 0⟩] ∧
      (prefixRegions.maybeStripNationalPrefixAndCarrierCode (ns "0") optionalNumber (some [])).toOption.map (·.number) =
        some []) ∧
    ((prefixRegions.regex.allMatches (prefixPattern antigua) (ns "12684641234")).map (·.rangeAtIndex 1) = [none] ∧
      prefixRegions.maybeStripNationalPrefixAndCarrierCode (ns "12684641234") antigua (some []) =
        .ok ⟨true, ns "2684641234", some (ns "1")⟩) ∧
    (prefixRegions.regex.allMatches (prefixPattern brazil) (ns "0151123456789")).map
        (groupText (ns "0151123456789") · 1) = [ns "15"] ∧
      prefixRegions.maybeStripNationalPrefixAndCarrierCode (ns "0151123456789") brazil (some []) =
        .ok ⟨true, ns "1123456789", some (ns "1123456789")⟩ := by
  decide +kernel

end NBPhoneNumberUtil

end SignalPods.PhoneNumber
