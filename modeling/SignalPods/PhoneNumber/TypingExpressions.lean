import SignalPods.PhoneNumber.DigitConservation

namespace SignalPods.PhoneNumber

open Foundation

def sevenDigitPattern : NSString := ns "(\\d\x7b3\x7d)(\\d\x7b4\x7d)"

def longerPrefixPattern : NSString := ns "15(?=\\d\x7b3\x7d)|1"

def internationalPattern (internationalPrefix : NSString) : NSString := ns "^(?:\\+|" ++ internationalPrefix ++ ns ")"

/-- One match of seven digits after the other, in groups of three and of four. -/
def sevenDigitMatches (s : NSString) (range : NSRange) : List NSTextCheckingResult :=
  if (slice s range).all isAsciiDigit then
    (List.range (range.length / 7)).map fun index =>
      { range := ⟨range.location + 7 * index, 7⟩
        groups := [some ⟨range.location + 7 * index, 3⟩, some ⟨range.location + 7 * index + 3, 4⟩] }
  else []

/-- The match of the first of some literals that a string starts with. -/
def startMatches (literals : List NSString) (s : NSString) (range : NSRange) : List NSTextCheckingResult :=
  match literals.find? fun literal => literal.isPrefixOf (slice s range) with
  | some literal => [{ range := ⟨range.location, literal.length⟩ }]
  | none => []

/-- With three digits after it the prefix is two digits long. -/
def longerPrefixMatches (s : NSString) (range : NSRange) : List NSTextCheckingResult :=
  if (ns "15").isPrefixOf (slice s range) && 3 ≤ (((slice s range).drop 2).takeWhile isAsciiDigit).length then
    [{ range := ⟨range.location, 2⟩ }]
  else startMatches [ns "1"] s range

def eligibleMatches (s : NSString) (range : NSRange) : List NSTextCheckingResult :=
  match templateGroups isPunctuation (slice s range) with
  | some (_ :: _) => if range.location = 0 ∧ range.length = s.length then [{ range := range }] else []
  | _ => []

def typingMatches (pattern s : NSString) (range : NSRange) : List NSTextCheckingResult :=
  if pattern = NBDigitPlaceHolder then unitMatches isPlaceholder 0 s range
  else if pattern = ns "9" then unitMatches (· == 57) 0 s range
  else if pattern = CAPTURING_DIGIT_PATTERN then unitMatches isAsciiDigit 1 s range
  else if pattern = PLUS_CHARS_PATTERN then unitMatches isPlusChar 0 s range
  else if pattern = internationalPattern (ns "011") then startMatches [ns "+", ns "011"] s range
  else if pattern = internationalPattern (ns "(null)") then startMatches [ns "+", ns "null"] s range
  else if pattern = sevenDigitPattern then sevenDigitMatches s range
  else if pattern = ns "^(?:" ++ sevenDigitPattern ++ ns ")$" then
    if range.length = 7 then sevenDigitMatches s range else []
  else if pattern = ns "^(?:" ++ longerPrefixPattern ++ ns ")" then longerPrefixMatches s range
  else if pattern = ELIGIBLE_FORMAT_PATTERN then eligibleMatches s range
  else []

theorem inside_of_tiled {s : NSString} {range : NSRange} {groups : List (Option NSRange)} (inside : range.Inside s)
    (within : ∀ group ∈ groups, ∀ part ∈ group, part.Inside s) :
    NSTextCheckingResult.Inside { range := range, groups := groups } s := by
  intro index found atIndex
  cases index with
  | zero =>
    obtain rfl := Option.some.inj atIndex
    exact inside
  | succ index =>
    have listed : groups[index]? = some (some found) := Option.join_eq_some_iff.mp atIndex
    exact within _ (List.mem_of_getElem? listed) found rfl

theorem sevenDigitMatches_inside {s : NSString} {range : NSRange} (inside : range.Inside s) :
    ∀ result ∈ sevenDigitMatches s range, result.Inside s := by
  intro result member
  unfold sevenDigitMatches at member
  split at member
  · obtain ⟨index, listed, rfl⟩ := List.mem_map.mp member
    rw [List.mem_range] at listed
    unfold NSRange.Inside at inside
    refine inside_of_tiled ?_ ?_
    · unfold NSRange.Inside
      dsimp only
      omega
    · intro group member part here
      unfold NSRange.Inside
      rcases List.mem_pair.mp member with rfl | rfl
      · obtain rfl := Option.some.inj here
        dsimp only
        omega
      · obtain rfl := Option.some.inj here
        dsimp only
        omega
  · cases member

theorem startMatches_inside {literals : List NSString} {s : NSString} {range : NSRange} (inside : range.Inside s) :
    ∀ result ∈ startMatches literals s range, result.Inside s := by
  intro result member
  unfold startMatches at member
  split at member
  · rename_i literal found
    obtain rfl := List.mem_singleton.mp member
    have start := List.find?_some found
    have fits := (List.isPrefixOf_iff_prefix.mp start).length_le
    rw [length_slice_of_inside inside] at fits
    refine inside_of_captures ?_ 0
    unfold NSRange.Inside at inside ⊢
    dsimp only
    omega
  · cases member

theorem longerPrefixMatches_inside {s : NSString} {range : NSRange} (inside : range.Inside s) :
    ∀ result ∈ longerPrefixMatches s range, result.Inside s := by
  intro result member
  unfold longerPrefixMatches at member
  split at member
  · rename_i start
    rw [Bool.and_eq_true] at start
    have fits := (List.isPrefixOf_iff_prefix.mp start.1).length_le
    rw [length_slice_of_inside inside] at fits
    have two : (ns "15").length = 2 := rfl
    obtain rfl := List.mem_singleton.mp member
    refine inside_of_captures ?_ 0
    unfold NSRange.Inside at inside ⊢
    dsimp only
    omega
  · exact startMatches_inside inside result member

theorem eligibleMatches_inside {s : NSString} {range : NSRange} (inside : range.Inside s) :
    ∀ result ∈ eligibleMatches s range, result.Inside s := by
  intro result member
  unfold eligibleMatches at member
  split at member
  · split at member
    · obtain rfl := List.mem_singleton.mp member
      exact inside_of_captures inside 0
    · cases member
  · cases member

/-- What holds of each kind of search holds of the search for any pattern. -/
theorem typingMatches_kinds {s : NSString} {range : NSRange} (holds : List NSTextCheckingResult → Prop)
    (none : holds []) (units : ∀ contains captures, holds (unitMatches contains captures s range))
    (starts : ∀ literals, holds (startMatches literals s range)) (seven : holds (sevenDigitMatches s range))
    (longer : holds (longerPrefixMatches s range)) (eligible : holds (eligibleMatches s range)) (pattern : NSString) :
    holds (typingMatches pattern s range) := by
  unfold typingMatches
  refine iteInduction (fun _ => units _ _) fun _ => ?_
  refine iteInduction (fun _ => units _ _) fun _ => ?_
  refine iteInduction (fun _ => units _ _) fun _ => ?_
  refine iteInduction (fun _ => units _ _) fun _ => ?_
  refine iteInduction (fun _ => starts _) fun _ => ?_
  refine iteInduction (fun _ => starts _) fun _ => ?_
  refine iteInduction (fun _ => seven) fun _ => ?_
  refine iteInduction (fun _ => iteInduction (fun _ => seven) fun _ => none) fun _ => ?_
  refine iteInduction (fun _ => longer) fun _ => ?_
  exact iteInduction (fun _ => eligible) fun _ => none

theorem typingMatches_inside (pattern s : NSString) (range : NSRange) (inside : range.Inside s) :
    ∀ result ∈ typingMatches pattern s range, result.Inside s := by
  refine typingMatches_kinds (fun results => ∀ result ∈ results, result.Inside s) ?_ ?_ ?_ ?_ ?_ ?_ pattern
  · intro result member
    cases member
  · intro contains captures
    exact unitMatches_inside inside
  · intro literals
    exact startMatches_inside inside
  · exact sevenDigitMatches_inside inside
  · exact longerPrefixMatches_inside inside
  · exact eligibleMatches_inside inside

theorem none_inside (_pattern s : NSString) : ∀ result ∈ (none : Option NSTextCheckingResult), result.Inside s := by
  intro result found
  cases found

/-- The expressions of the formatter as they are on typed digits. -/
def typingExpressions : NSRegularExpressions where
  matchesInString := typingMatches
  firstAnchoredMatch _ _ := none
  matches_inside := typingMatches_inside
  anchored_inside := none_inside

def sevenDigitMetadata : NBPhoneMetaData where
  countryCode := some 1
  internationalPrefix := some (ns "011")
  numberFormats := [{ pattern := some sevenDigitPattern, format := some (ns "$1-$2") }]

def longerPrefixMetadata : NBPhoneMetaData where
  countryCode := some 7
  nationalPrefixForParsing := some longerPrefixPattern

/-- One region with a format for seven digits, and one without formats whose
national prefix is one digit long until more digits follow. -/
def typingRegions : NBPhoneNumberUtil where
  unicode := Unicode.ascii
  regex := typingExpressions
  helper :=
    { countryCodeToRegionCodeMap := fun code =>
        if code = ns "1" then some [ns "US"] else if code = ns "7" then some [ns "RU"] else none
      countryToMetadata := fun region =>
        if region = ns "US" then some sevenDigitMetadata
        else if region = ns "RU" then some longerPrefixMetadata
        else none }
  sameObject := sameText
  sameObject_eq := sameText_eq
  errorDescription := NSError.localizedDescription

section Order

/-- Matches one after the other. -/
def Ordered (results : List NSTextCheckingResult) : Prop :=
  results.Pairwise fun first second => first.range.location + first.range.length ≤ second.range.location

theorem unitMatches_ordered (contains : unichar → Bool) (captures : Nat) (s : NSString) (range : NSRange) :
    Ordered (unitMatches contains captures s range) := by
  unfold Ordered unitMatches
  rw [List.pairwise_map]
  have increasing : (List.range' range.location range.length).Pairwise (· < ·) := List.pairwise_lt_range'
  exact (increasing.imp fun earlier => earlier).filter _

theorem sevenDigitMatches_ordered (s : NSString) (range : NSRange) : Ordered (sevenDigitMatches s range) := by
  unfold Ordered sevenDigitMatches
  split
  · rw [List.pairwise_map]
    refine List.pairwise_lt_range.imp ?_
    intro first second earlier
    dsimp only
    omega
  · exact .nil

theorem startMatches_ordered (literals : List NSString) (s : NSString) (range : NSRange) :
    Ordered (startMatches literals s range) := by
  unfold Ordered startMatches
  split
  · exact List.pairwise_singleton _ _
  · exact .nil

theorem longerPrefixMatches_ordered (s : NSString) (range : NSRange) : Ordered (longerPrefixMatches s range) := by
  unfold longerPrefixMatches
  split
  · exact List.pairwise_singleton _ _
  · exact startMatches_ordered _ s range

theorem eligibleMatches_ordered (s : NSString) (range : NSRange) : Ordered (eligibleMatches s range) := by
  unfold Ordered eligibleMatches
  split
  · split
    · exact List.pairwise_singleton _ _
    · exact .nil
  · exact .nil

theorem typingMatches_ordered (pattern s : NSString) (range : NSRange) : Ordered (typingMatches pattern s range) :=
  typingMatches_kinds Ordered .nil (fun contains captures => unitMatches_ordered contains captures s range)
    (fun literals => startMatches_ordered literals s range) (sevenDigitMatches_ordered s range)
    (longerPrefixMatches_ordered s range) (eligibleMatches_ordered s range) pattern

end Order

theorem sevenDigitMatches_tiles {s : NSString} {range : NSRange} {result : NSTextCheckingResult}
    (found : result ∈ sevenDigitMatches s range) :
    result.groups.length = 2 ∧ Tiles result.range.location (result.range.location + result.range.length) result.groups := by
  unfold sevenDigitMatches at found
  split at found
  · obtain ⟨index, _, rfl⟩ := List.mem_map.mp found
    exact ⟨rfl, rfl, rfl, rfl⟩
  · cases found

namespace NBPhoneNumberUtil

theorem typingRegions_serves {metadata : NBPhoneMetaData} (served : typingRegions.Serves metadata) :
    metadata = {} ∨ metadata = sevenDigitMetadata ∨ metadata = longerPrefixMetadata := by
  rcases served with rfl | ⟨region, found⟩
  · exact Or.inl rfl
  · cases region with
    | none => cases found
    | some region =>
      unfold getMetadataForRegion at found
      dsimp only at found
      split at found
      · cases found
      · have found : (if typingRegions.unicode.uppercaseString (stringByTrimming region) = ns "US" then
            some sevenDigitMetadata
          else if typingRegions.unicode.uppercaseString (stringByTrimming region) = ns "RU" then
            some longerPrefixMetadata
          else none) = some metadata := found
        split at found
        · exact Or.inr (Or.inl (Option.some.inj found).symm)
        split at found
        · exact Or.inr (Or.inr (Option.some.inj found).symm)
        · cases found

theorem typingRegions_matches (pattern s : NSString) (range : NSRange) :
    typingRegions.regex.matchesInString pattern s range = typingMatches pattern s range := rfl

theorem typingRegions_typingExpressions : typingRegions.TypingExpressions where
  ordered pattern s range _ := typingMatches_ordered pattern s range
  digit c isDigit := by
    have matched : typingRegions.regex.allMatches CAPTURING_DIGIT_PATTERN [c] = unitMatches isAsciiDigit 1 [c] ⟨0, 1⟩ := by
      have first : CAPTURING_DIGIT_PATTERN ≠ NBDigitPlaceHolder := by decide +kernel
      have second : CAPTURING_DIGIT_PATTERN ≠ ns "9" := by decide +kernel
      rw [NSRegularExpressions.allMatches, typingRegions_matches, typingMatches, if_neg first, if_neg second, if_pos rfl,
        List.length_singleton]
    rw [matched]
    simp [unitMatches, isDigit]
  plus := by decide +kernel
  placeholder s range _ := by
    rw [typingRegions_matches, typingMatches, if_pos rfl]
  nine s range _ := by
    have other : ns "9" ≠ NBDigitPlaceHolder := by decide
    rw [typingRegions_matches, typingMatches, if_neg other, if_pos rfl]
  eligible format _ _ found := by
    have matched : typingRegions.regex.allMatches ELIGIBLE_FORMAT_PATTERN format =
        eligibleMatches format ⟨0, format.length⟩ := by
      have others : ELIGIBLE_FORMAT_PATTERN ≠ NBDigitPlaceHolder ∧ ELIGIBLE_FORMAT_PATTERN ≠ ns "9" ∧
          ELIGIBLE_FORMAT_PATTERN ≠ CAPTURING_DIGIT_PATTERN ∧ ELIGIBLE_FORMAT_PATTERN ≠ PLUS_CHARS_PATTERN ∧
          ELIGIBLE_FORMAT_PATTERN ≠ internationalPattern (ns "011") ∧
          ELIGIBLE_FORMAT_PATTERN ≠ internationalPattern (ns "(null)") ∧ ELIGIBLE_FORMAT_PATTERN ≠ sevenDigitPattern ∧
          ELIGIBLE_FORMAT_PATTERN ≠ ns "^(?:" ++ sevenDigitPattern ++ ns ")$" ∧
          ELIGIBLE_FORMAT_PATTERN ≠ ns "^(?:" ++ longerPrefixPattern ++ ns ")" := by decide +kernel
      obtain ⟨a, b, c, d, e, f, g, h, i⟩ := others
      rw [NSRegularExpressions.allMatches, typingRegions_matches, typingMatches, if_neg a, if_neg b, if_neg c, if_neg d,
        if_neg e, if_neg f, if_neg g, if_neg h, if_neg i, if_pos rfl]
    rw [matched, eligibleMatches, slice_zero, List.take_length] at found
    split at found
    · rename_i shape
      rw [shape]
      rfl
    · exact absurd rfl found
  international metadata served s := by
    have plus (literal : NSString) :
        startMatches [ns "+", literal] (43 :: s) ⟨0, (43 :: s).length⟩ = [{ range := ⟨0, 1⟩ }] := by
      unfold startMatches
      rw [slice_zero, List.take_length]
      rfl
    have others (p : NSString) : internationalPattern p ≠ NBDigitPlaceHolder ∧ internationalPattern p ≠ ns "9" ∧
        internationalPattern p ≠ CAPTURING_DIGIT_PATTERN ∧ internationalPattern p ≠ PLUS_CHARS_PATTERN := by
      have start : (internationalPattern p).head? = some 94 := rfl
      refine ⟨?_, ?_, ?_, ?_⟩
      all_goals
        intro same
        rw [same] at start
        exact absurd start (by decide)
    have known : typingRegions.regex.allMatches (internationalPattern (ns "011")) (43 :: s) = [{ range := ⟨0, 1⟩ }] := by
      obtain ⟨a, b, c, d⟩ := others (ns "011")
      rw [NSRegularExpressions.allMatches, typingRegions_matches, typingMatches, if_neg a, if_neg b, if_neg c, if_neg d,
        if_pos rfl, plus]
    have unknown : typingRegions.regex.allMatches (internationalPattern (ns "(null)")) (43 :: s) = [{ range := ⟨0, 1⟩ }] := by
      obtain ⟨a, b, c, d⟩ := others (ns "(null)")
      have e : internationalPattern (ns "(null)") ≠ internationalPattern (ns "011") := by decide
      rw [NSRegularExpressions.allMatches, typingRegions_matches, typingMatches, if_neg a, if_neg b, if_neg c, if_neg d,
        if_neg e, if_pos rfl, plus]
    rcases typingRegions_serves served with rfl | rfl | rfl
    · exact ⟨_, _, unknown, rfl⟩
    · exact ⟨_, _, known, rfl⟩
    · exact ⟨_, _, unknown, rfl⟩
  search _ _ := rfl

theorem typingRegions_tiles : typingRegions.regex.TilesMatches sevenDigitPattern 2 := by
  intro s range _ result found
  have others : sevenDigitPattern ≠ NBDigitPlaceHolder ∧ sevenDigitPattern ≠ ns "9" ∧
      sevenDigitPattern ≠ CAPTURING_DIGIT_PATTERN ∧ sevenDigitPattern ≠ PLUS_CHARS_PATTERN ∧
      sevenDigitPattern ≠ internationalPattern (ns "011") ∧
      sevenDigitPattern ≠ internationalPattern (ns "(null)") := by decide +kernel
  obtain ⟨a, b, c, d, e, f⟩ := others
  have matched : typingRegions.regex.matchesInString sevenDigitPattern s range = sevenDigitMatches s range := by
    rw [typingRegions_matches, typingMatches, if_neg a, if_neg b, if_neg c, if_neg d, if_neg e, if_neg f, if_pos rfl]
  rw [matched] at found
  exact sevenDigitMatches_tiles found

theorem typingRegions_inOrder : typingRegions.FormatsUseGroupsInOrder := by
  intro metadata served format listed _
  have only : format = { pattern := some sevenDigitPattern, format := some (ns "$1-$2") } := by
    rcases typingRegions_serves served with rfl | rfl | rfl
    · cases listed
    · exact List.mem_singleton.mp listed
    · cases listed
  have same : NBAsYouTypeFormatter.templatePattern typingRegions sevenDigitPattern = sevenDigitPattern := by decide +kernel
  refine ⟨sevenDigitPattern, ns "$1-$2", 2, by rw [only], by decide, by rw [only], by decide, by decide,
    typingRegions_tiles, ?_⟩
  rw [same]
  exact typingRegions_tiles

end NBPhoneNumberUtil

end SignalPods.PhoneNumber
