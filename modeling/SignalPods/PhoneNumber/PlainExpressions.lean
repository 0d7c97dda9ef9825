import SignalPods.PhoneNumber.LeadingPlus

namespace SignalPods.PhoneNumber

open Foundation

/-- One match for each unit of a range that a class contains, captured so many times. -/
def unitMatches (contains : unichar → Bool) (captures : Nat) (s : NSString) (range : NSRange) :
    List NSTextCheckingResult :=
  ((List.range' range.location range.length).filter fun index => s[index]?.any contains).map fun index =>
    { range := ⟨index, 1⟩, groups := List.replicate captures (some ⟨index, 1⟩) }

/-- The match of the longest run of a class at the start of a range. -/
def runMatches (contains : unichar → Bool) (s : NSString) (range : NSRange) : List NSTextCheckingResult :=
  if (slice s range).takeWhile contains = [] then []
  else [{ range := ⟨range.location, ((slice s range).takeWhile contains).length⟩ }]

/-- The first occurrence of a literal in a range. -/
def literalMatches (literal s : NSString) (range : NSRange) : List NSTextCheckingResult :=
  match literalSearch (slice s range) literal with
  | some offset => [{ range := ⟨range.location + offset, literal.length⟩ }]
  | none => []

def isPlainStart (c : unichar) : Bool := isPlusChar c || isAsciiDigit c

/-- Plus signs and at least three digits. -/
def isPlainNumber (s : NSString) : Bool :=
  (s.dropWhile isPlusChar).all isAsciiDigit && 3 ≤ (s.dropWhile isPlusChar).length

theorem inside_of_captures {s : NSString} {range : NSRange} (inside : range.Inside s) (captures : Nat) :
    NSTextCheckingResult.Inside { range := range, groups := List.replicate captures (some range) } s := by
  intro index found atIndex
  cases index with
  | zero =>
    obtain rfl := Option.some.inj atIndex
    exact inside
  | succ index =>
    unfold NSTextCheckingResult.rangeAtIndex at atIndex
    dsimp only at atIndex
    rw [List.getElem?_replicate] at atIndex
    split at atIndex
    · obtain rfl := Option.some.inj atIndex
      exact inside
    · cases atIndex

theorem unitMatches_inside {contains : unichar → Bool} {captures : Nat} {s : NSString} {range : NSRange}
    (inside : range.Inside s) : ∀ result ∈ unitMatches contains captures s range, result.Inside s := by
  intro result member
  obtain ⟨index, listed, rfl⟩ := List.mem_map.mp member
  have bound := List.mem_range'_1.mp (List.mem_filter.mp listed).1
  refine inside_of_captures ?_ captures
  unfold NSRange.Inside at inside ⊢
  dsimp only
  omega

theorem literalMatches_inside {literal s : NSString} {range : NSRange} (inside : range.Inside s) :
    ∀ result ∈ literalMatches literal s range, result.Inside s := by
  intro result member
  unfold literalMatches at member
  split at member
  · rename_i offset found
    obtain rfl := List.mem_singleton.mp member
    refine inside_of_captures ?_ 0
    have bound := literalSearch_le found
    have whole := length_slice_of_inside inside
    have fits := (literalSearch_found found).length_le
    rw [List.length_drop] at fits
    unfold NSRange.Inside at inside ⊢
    dsimp only
    omega
  · cases member

theorem runMatches_inside {contains : unichar → Bool} {s : NSString} {range : NSRange} (inside : range.Inside s) :
    ∀ result ∈ runMatches contains s range, result.Inside s := by
  intro result member
  unfold runMatches at member
  split at member
  · cases member
  · obtain rfl := List.mem_singleton.mp member
    refine inside_of_captures ?_ 0
    have run := (List.takeWhile_prefix contains (l := slice s range)).length_le
    have whole := length_slice_of_inside inside
    unfold NSRange.Inside at inside ⊢
    dsimp only
    omega

def plainAnchoredMatch (pattern s : NSString) : Option NSTextCheckingResult :=
  if pattern = VALID_PHONE_NUMBER_PATTERN ∧ isPlainNumber s then some { range := ⟨0, s.length⟩ } else none

theorem plainAnchoredMatch_number {pattern s : NSString} (valid : pattern = VALID_PHONE_NUMBER_PATTERN)
    (number : isPlainNumber s) : plainAnchoredMatch pattern s = some { range := ⟨0, s.length⟩ } :=
  if_pos ⟨valid, number⟩

/-- The fixed expressions as they are on numbers of plus signs and digits, and
international prefixes that are literal. -/
def plainExpressions : NSRegularExpressions where
  matchesInString pattern s range :=
    if pattern = LEADING_PLUS_CHARS_PATTERN then runMatches isPlusChar s range
    else if pattern = VALID_START_CHAR_PATTERN then unitMatches isPlainStart 0 s range
    else if pattern = CAPTURING_DIGIT_PATTERN then unitMatches isAsciiDigit 1 s range
    else if pattern.all isAsciiDigit then literalMatches pattern s range
    else []
  firstAnchoredMatch := plainAnchoredMatch
  matches_inside := by
    intro pattern s range inside result member
    split at member
    · exact runMatches_inside inside result member
    split at member
    · exact unitMatches_inside inside result member
    split at member
    · exact unitMatches_inside inside result member
    split at member
    · exact literalMatches_inside inside result member
    · cases member
  anchored_inside := by
    intro pattern s result found
    unfold plainAnchoredMatch at found
    split at found
    · obtain rfl := Option.some.inj found
      exact inside_of_captures (Nat.le_of_eq (Nat.zero_add _)) 0
    · cases found

/-- Strings that are equal are taken to be one object. -/
def sameText (a b : NSString) : Bool := decide (a = b)

theorem sameText_eq (a b : NSString) (same : sameText a b = true) : a = b := of_decide_eq_true same

theorem plainExpressions_firstAnchoredMatch : plainExpressions.firstAnchoredMatch = plainAnchoredMatch := rfl

namespace NBPhoneNumberUtil

theorem matchesLeadingPlus_of_plain {u : NBPhoneNumberUtil} (plain : u.regex = plainExpressions) :
    u.MatchesLeadingPlus := by
  intro s length _
  rw [plain]
  simp only [plainExpressions, if_true, runMatches, slice_zero]

theorem normalizeNonBreakingSpace_plain {u : NBPhoneNumberUtil} {s : NSString} (number : isPlainNumber s) :
    u.normalizeNonBreakingSpace s = s := by
  unfold isPlainNumber at number
  rw [Bool.and_eq_true, List.all_eq_true] at number
  refine u.normalizeNonBreakingSpace_of_absent ?_
  intro c member
  rw [← List.takeWhile_append_dropWhile (p := isPlusChar) (l := s), List.mem_append] at member
  rcases member with plus | digit
  · have sign := List.mem_takeWhile_imp plus
    rintro rfl
    exact absurd sign (by decide)
  · have digits := number.1 c digit
    rintro rfl
    exact absurd digits (by decide)

theorem isViablePhoneNumber_plain {u : NBPhoneNumberUtil} (plain : u.regex = plainExpressions) {s : NSString}
    (number : isPlainNumber s) : u.isViablePhoneNumber s := by
  have long : ¬ s.length < MIN_LENGTH_FOR_NSN := by
    unfold isPlainNumber at number
    rw [Bool.and_eq_true, decide_eq_true_eq] at number
    have suffix := (List.dropWhile_suffix isPlusChar (l := s)).length_le
    unfold MIN_LENGTH_FOR_NSN
    omega
  have named : VALID_PHONE_NUMBER_PATTERN ≠ ns "NA" := by decide +kernel
  have anchored : VALID_PHONE_NUMBER_PATTERN.contains 94 = true := by decide +kernel
  unfold isViablePhoneNumber
  rw [normalizeNonBreakingSpace_plain number]
  dsimp only
  rw [if_neg long, matchesPattern, if_neg named, entireRegularExpressionWithPattern, if_pos anchored, plain,
    plainExpressions_firstAnchoredMatch, plainAnchoredMatch_number (Eq.refl VALID_PHONE_NUMBER_PATTERN) number]
  exact decide_eq_true (Eq.refl (NSRange.mk 0 s.length))

end NBPhoneNumberUtil

end SignalPods.PhoneNumber
