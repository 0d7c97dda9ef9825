import SignalPods.PhoneNumber.EncodedNumbers

namespace SignalPods.PhoneNumber

open Foundation

/-- A digit of any script that the parser knows, as the digit zero. -/
def canonical (c : unichar) : unichar := if isValidDigit c then 48 else c

/-- The match of the run of a class a range ends with. -/
def finalRunMatches (contains : unichar → Bool) (s : NSString) (range : NSRange) : List NSTextCheckingResult :=
  if (slice s range).rtakeWhile contains = [] then []
  else [{ range := ⟨range.location + ((slice s range).rdropWhile contains).length,
    ((slice s range).rtakeWhile contains).length⟩ }]

/-- The digits of the extension a text ends with. -/
def extensionDigits (text : NSString) : Option Nat :=
  let digits := (text.rtakeWhile isValidDigit).length
  if 1 ≤ digits && digits ≤ 7 && RFC3966_EXTN_PREFIX.isSuffixOf (text.rdropWhile isValidDigit) then some digits else none

/-- The match of the extension a range ends with. -/
def extensionMatches (s : NSString) (range : NSRange) : List NSTextCheckingResult :=
  match extensionDigits (slice s range) with
  | some digits =>
    [{ range := ⟨range.location + ((slice s range).length - (digits + 5)), digits + 5⟩
       groups := [some ⟨range.location + ((slice s range).length - digits), digits⟩, none, none] }]
  | none => []

def isBetweenDigits (c : unichar) : Bool := isPunctuation c || c == 42

/-- Two digits, or three and what may follow them, with an extension or none. -/
def isViableText (text : NSString) : Bool :=
  let number := match extensionDigits text with
    | some digits => text.take (text.length - (digits + 5))
    | none => text
  let body := number.dropWhile isPlusChar
  (text.length == 2 && text.all isValidDigit) ||
    (body.all (fun c => isBetweenDigits c || isLetter c || isValidDigit c) &&
      3 ≤ ((body.takeWhile fun c => isBetweenDigits c || isValidDigit c).filter isValidDigit).length)

def alphaPattern : NSString := ns "^(?:" ++ VALID_ALPHA_PHONE_PATTERN_STRING ++ ns ")$"

section Fixed

variable (others : NSRegularExpressions)

/-- The fixed expressions on a text whose digits are all zero, the others on the text itself. -/
def parserMatches (pattern text s : NSString) (range : NSRange) : List NSTextCheckingResult :=
  if pattern = LEADING_PLUS_CHARS_PATTERN then runMatches isPlusChar text range
  else if pattern = VALID_START_CHAR_PATTERN then unitMatches isStartChar 0 text range
  else if pattern = UNWANTED_END_CHAR_PATTERN then finalRunMatches isUnwantedEnd text range
  else if pattern = SECOND_NUMBER_START_PATTERN then []
  else if pattern = EXTN_PATTERN then extensionMatches text range
  else if pattern = SEPARATOR_PATTERN then allRuns isPunctuation text range
  else if pattern = ns "^" ++ SEPARATOR_PATTERN then runMatches isPunctuation text range
  else others.matchesInString pattern s range

def parserAnchoredMatch (pattern text s : NSString) : Option NSTextCheckingResult :=
  if pattern = VALID_PHONE_NUMBER_PATTERN then
    if isViableText text then some { range := ⟨0, text.length⟩ } else none
  else if pattern = alphaPattern then
    if 3 ≤ (text.filter isLetter).length then some { range := ⟨0, text.length⟩ } else none
  else others.firstAnchoredMatch pattern s

end Fixed

section Inside

theorem NSTextCheckingResult_inside_map {result : NSTextCheckingResult} {s : NSString} {f : unichar → unichar}
    (inside : result.Inside (s.map f)) : result.Inside s := by
  intro index range atIndex
  have bound := inside index range atIndex
  unfold NSRange.Inside at bound ⊢
  rw [List.length_map] at bound
  exact bound

theorem finalRunMatches_inside {contains : unichar → Bool} {s : NSString} {range : NSRange} (inside : range.Inside s) :
    ∀ result ∈ finalRunMatches contains s range, result.Inside s := by
  intro result member
  unfold finalRunMatches at member
  split at member
  · cases member
  · obtain rfl := List.mem_singleton.mp member
    refine inside_of_captures ?_ 0
    have whole := length_slice_of_inside inside
    have split := congrArg List.length (List.rdropWhile_append_rtakeWhile (p := contains) (l := slice s range))
    rw [List.length_append] at split
    unfold NSRange.Inside at inside ⊢
    dsimp only
    omega

theorem extensionDigits_eq_some {text : NSString} {digits : Nat} (found : extensionDigits text = some digits) :
    digits = (text.rtakeWhile isValidDigit).length ∧ 1 ≤ digits ∧ digits ≤ 7 ∧ digits + 5 ≤ text.length := by
  unfold extensionDigits at found
  dsimp only at found
  split at found
  · rename_i shape
    rw [Bool.and_eq_true, Bool.and_eq_true, decide_eq_true_iff, decide_eq_true_iff, List.isSuffixOf_iff_suffix] at shape
    obtain ⟨⟨few, many⟩, written⟩ := shape
    obtain rfl := Option.some.inj found
    have length := written.length_le
    have prefixLength : RFC3966_EXTN_PREFIX.length = 5 := rfl
    have split := congrArg List.length (List.rdropWhile_append_rtakeWhile (p := isValidDigit) (l := text))
    rw [List.length_append] at split
    exact ⟨rfl, few, many, by omega⟩
  · cases found

theorem extensionMatches_inside {s : NSString} {range : NSRange} (inside : range.Inside s) :
    ∀ result ∈ extensionMatches s range, result.Inside s := by
  intro result member
  unfold extensionMatches at member
  split at member
  · rename_i digits found
    obtain rfl := List.mem_singleton.mp member
    obtain ⟨_, _, _, fits⟩ := extensionDigits_eq_some found
    have whole := length_slice_of_inside inside
    unfold NSRange.Inside at inside
    intro index group atIndex
    unfold NSRange.Inside
    match index with
    | 0 =>
      obtain rfl := Option.some.inj atIndex
      dsimp only
      omega
    | 1 =>
      obtain rfl := Option.some.inj atIndex
      dsimp only
      omega
    | 2 => cases atIndex
    | 3 => cases atIndex
    | index + 4 => cases atIndex
  · cases member

theorem runsFrom_inside {contains : unichar → Bool} {position : Nat} {started : Option Nat} {s : NSString}
    (before : ∀ start ∈ started, start ≤ position) :
    ∀ run ∈ runsFrom contains position started s, run.location + run.length ≤ position + s.length := by
  induction s generalizing position started with
  | nil =>
    intro run member
    cases started with
    | none => cases member
    | some start =>
      obtain rfl := List.mem_singleton.mp member
      have order := before start rfl
      dsimp only
      rw [List.length_nil]
      omega
  | cons c s ih =>
    have later (started : Option Nat) (before : ∀ start ∈ started, start ≤ position + 1) :
        ∀ run ∈ runsFrom contains (position + 1) started s, run.location + run.length ≤ position + (c :: s).length := by
      intro run member
      have bound := ih before run member
      rw [List.length_cons]
      omega
    intro run member
    cases started with
    | none =>
      unfold runsFrom at member
      split at member
      · exact later (some position) (by rintro start ⟨⟩; omega) run member
      · exact later none (by rintro start ⟨⟩) run member
    | some start =>
      have order := before start rfl
      unfold runsFrom at member
      split at member
      · exact later (some start) (by rintro start ⟨⟩; omega) run member
      · rcases List.mem_cons.mp member with rfl | after
        · rw [List.length_cons]
          dsimp only
          omega
        · exact later none (by rintro start ⟨⟩) run after

theorem allRuns_inside {contains : unichar → Bool} {s : NSString} {range : NSRange} (inside : range.Inside s) :
    ∀ result ∈ allRuns contains s range, result.Inside s := by
  intro result member
  obtain ⟨run, listed, rfl⟩ := List.mem_map.mp member
  have whole := length_slice_of_inside inside
  have bound := runsFrom_inside (by rintro start ⟨⟩) run listed
  refine inside_of_captures ?_ 0
  unfold NSRange.Inside at inside ⊢
  omega

theorem parserMatches_inside {others : NSRegularExpressions} {pattern s : NSString} {range : NSRange}
    (inside : range.Inside s) : ∀ result ∈ parserMatches others pattern (s.map canonical) s range, result.Inside s := by
  have mapped : range.Inside (s.map canonical) := by
    unfold NSRange.Inside at inside ⊢
    rw [List.length_map]
    exact inside
  intro result member
  unfold parserMatches at member
  split at member
  · exact NSTextCheckingResult_inside_map (runMatches_inside mapped result member)
  split at member
  · exact NSTextCheckingResult_inside_map (unitMatches_inside mapped result member)
  split at member
  · exact NSTextCheckingResult_inside_map (finalRunMatches_inside mapped result member)
  split at member
  · cases member
  split at member
  · exact NSTextCheckingResult_inside_map (extensionMatches_inside mapped result member)
  split at member
  · exact NSTextCheckingResult_inside_map (allRuns_inside mapped result member)
  split at member
  · exact NSTextCheckingResult_inside_map (runMatches_inside mapped result member)
  · exact others.matches_inside pattern s range inside result member

end Inside

/-- The expressions of the parser, in which digits of all scripts count alike, over
the expressions of the metadata. -/
def parserExpressions (others : NSRegularExpressions) : NSRegularExpressions where
  matchesInString pattern s range := parserMatches others pattern (s.map canonical) s range
  firstAnchoredMatch pattern s := parserAnchoredMatch others pattern (s.map canonical) s
  matches_inside _ _ _ inside := parserMatches_inside inside
  anchored_inside := by
    intro pattern s result found
    have whole : NSTextCheckingResult.Inside { range := ⟨0, (s.map canonical).length⟩ } s := by
      refine inside_of_captures ?_ 0
      unfold NSRange.Inside
      rw [List.length_map]
      exact Nat.le_of_eq (Nat.zero_add _)
    unfold parserAnchoredMatch at found
    split at found
    · split at found
      · obtain rfl := Option.some.inj found
        exact whole
      · cases found
    split at found
    · split at found
      · obtain rfl := Option.some.inj found
        exact whole
      · cases found
    · exact others.anchored_inside pattern s result found

section Canonical

/-- A class in which the digits of all scripts are like the digit zero. -/
def Uniform (contains : unichar → Bool) : Prop := ∀ c, isValidDigit c → contains c = contains 48

variable {contains : unichar → Bool}

theorem Uniform.canonical (uniform : Uniform contains) : contains ∘ canonical = contains := by
  funext c
  rw [Function.comp_apply, PhoneNumber.canonical]
  split
  · rename_i isDigit
    exact (uniform c isDigit).symm
  · rfl

/-- A class without digits. -/
theorem uniform_of_false (none : ∀ c, isValidDigit c → contains c = false) : Uniform contains := by
  intro c isDigit
  rw [none c isDigit, none 48 (by decide)]

theorem isValidDigit_bounds {c : unichar} (isDigit : isValidDigit c) :
    (48 ≤ c.toNat ∧ c.toNat ≤ 57) ∨ (0xff10 ≤ c.toNat ∧ c.toNat ≤ 0xff19) ∨ (0x660 ≤ c.toNat ∧ c.toNat ≤ 0x669) ∨
      (0x6f0 ≤ c.toNat ∧ c.toNat ≤ 0x6f9) := by
  simp only [isValidDigit, isAsciiDigit, Bool.or_eq_true, Bool.and_eq_true, decide_eq_true_eq, UInt16.le_iff_toNat_le,
    UInt16.reduceToNat] at isDigit
  omega

theorem isLetter_of_isValidDigit {c : unichar} (isDigit : isValidDigit c) : isLetter c = false := by
  have bounds := isValidDigit_bounds isDigit
  rw [← Bool.not_eq_true]
  simp only [isLetter, Bool.or_eq_true, Bool.and_eq_true, decide_eq_true_eq, UInt16.le_iff_toNat_le, UInt16.reduceToNat]
  omega

theorem isPlusChar_of_isValidDigit {c : unichar} (isDigit : isValidDigit c) : isPlusChar c = false := by
  have bounds := isValidDigit_bounds isDigit
  rw [← Bool.not_eq_true]
  simp only [isPlusChar, Bool.or_eq_true, beq_iff_eq, ← UInt16.toNat_inj, UInt16.reduceToNat]
  omega

theorem isPunctuation_of_isValidDigit {c : unichar} (isDigit : isValidDigit c) : isPunctuation c = false := by
  have bounds := isValidDigit_bounds isDigit
  rw [← Bool.not_eq_true]
  simp only [isPunctuation, Bool.or_eq_true, Bool.and_eq_true, decide_eq_true_eq, beq_iff_eq, UInt16.le_iff_toNat_le,
    ← UInt16.toNat_inj, UInt16.reduceToNat]
  omega

theorem uniform_isPlusChar : Uniform isPlusChar := uniform_of_false fun _ => isPlusChar_of_isValidDigit

theorem uniform_isPunctuation : Uniform isPunctuation := uniform_of_false fun _ => isPunctuation_of_isValidDigit

theorem uniform_isLetter : Uniform isLetter := uniform_of_false fun _ => isLetter_of_isValidDigit

theorem uniform_isValidDigit : Uniform isValidDigit := by
  intro c isDigit
  rw [isDigit]
  rfl

theorem uniform_isStartChar : Uniform isStartChar := by
  intro c isDigit
  unfold isStartChar
  rw [isDigit, Bool.or_true]
  rfl

theorem uniform_isUnwantedEnd : Uniform isUnwantedEnd := by
  intro c isDigit
  unfold isUnwantedEnd
  rw [isDigit, Bool.true_or, Bool.true_or]
  rfl

variable (uniform : Uniform contains) (s : NSString) (range : NSRange)

theorem slice_map (f : unichar → unichar) : slice (s.map f) range = (slice s range).map f := by
  unfold slice
  rw [List.map_take, List.map_drop]

include uniform

theorem takeWhile_canonical : (s.map canonical).takeWhile contains = (s.takeWhile contains).map canonical := by
  rw [List.takeWhile_map, uniform.canonical]

theorem rtakeWhile_canonical : (s.map canonical).rtakeWhile contains = (s.rtakeWhile contains).map canonical := by
  unfold List.rtakeWhile
  rw [← List.map_reverse, takeWhile_canonical uniform, List.map_reverse]

theorem length_rdropWhile_canonical :
    ((s.map canonical).rdropWhile contains).length = (s.rdropWhile contains).length := by
  unfold List.rdropWhile
  rw [← List.map_reverse, List.dropWhile_map, uniform.canonical, List.length_reverse, List.length_map,
    List.length_reverse]

theorem runMatches_canonical : runMatches contains (s.map canonical) range = runMatches contains s range := by
  unfold runMatches
  rw [slice_map, takeWhile_canonical uniform]
  simp only [List.map_eq_nil_iff, List.length_map]

theorem finalRunMatches_canonical :
    finalRunMatches contains (s.map canonical) range = finalRunMatches contains s range := by
  unfold finalRunMatches
  rw [slice_map, rtakeWhile_canonical uniform, length_rdropWhile_canonical uniform]
  simp only [List.map_eq_nil_iff, List.length_map]

theorem unitMatches_canonical (captures : Nat) :
    unitMatches contains captures (s.map canonical) range = unitMatches contains captures s range := by
  have same (index : Nat) : (s.map canonical)[index]?.any contains = s[index]?.any contains := by
    rw [List.getElem?_map, Option.any_map]
    exact congrArg (s[index]?.any ·) uniform.canonical
  unfold unitMatches
  simp only [same]

theorem allRuns_canonical : allRuns contains (s.map canonical) range = allRuns contains s range := by
  have same (position : Nat) (started : Option Nat) (t : NSString) :
      runsFrom contains position started (t.map canonical) = runsFrom contains position started t := by
    induction t generalizing position started with
    | nil => rfl
    | cons c t ih =>
      have here : contains (canonical c) = contains c := congrFun uniform.canonical c
      rw [List.map_cons]
      cases started with
      | none => rw [runsFrom, runsFrom, here, ih, ih]
      | some start => rw [runsFrom, runsFrom, here, ih, ih]
  unfold allRuns
  rw [slice_map, same]

end Canonical

section Encoded

variable {s : NSString}

theorem isValidDigit_of_isAsciiDigit {c : unichar} (isDigit : isAsciiDigit c) : isValidDigit c := by
  unfold isValidDigit
  rw [isDigit]
  rfl

theorem canonical_of_digit {c : unichar} (isDigit : isValidDigit c) : canonical c = 48 := if_pos isDigit

theorem isEncoded_canonical (encoded : isEncoded s) : isEncoded (s.map canonical) := by
  obtain ⟨body, rfl, units, many⟩ := isEncoded_iff.mp encoded
  refine isEncoded_iff.mpr ⟨body.map canonical, rfl, ?_, ?_⟩
  · intro c member
    obtain ⟨d, inside, rfl⟩ := List.mem_map.mp member
    rcases isHyphenated_cases (units d inside) with isDigit | rfl
    · rw [canonical_of_digit (isValidDigit_of_isAsciiDigit isDigit)]
      rfl
    · rfl
  · have kept : (body.map canonical).filter isAsciiDigit = (body.filter isAsciiDigit).map canonical := by
      rw [List.filter_map]
      congr 1
      refine List.filter_congr fun d inside => ?_
      rcases isHyphenated_cases (units d inside) with isDigit | rfl
      · rw [Function.comp_apply, canonical_of_digit (isValidDigit_of_isAsciiDigit isDigit), isDigit]
        rfl
      · rfl
    rw [kept, List.length_map]
    exact many

theorem isExtension_canonical {digits : NSString} (valid : isExtension digits) : isExtension (digits.map canonical) := by
  obtain ⟨units, some, few⟩ := isExtension_iff.mp valid
  refine isExtension_iff.mpr ⟨?_, by rw [List.length_map]; exact some, by rw [List.length_map]; exact few⟩
  intro c member
  obtain ⟨d, inside, rfl⟩ := List.mem_map.mp member
  rw [canonical_of_digit (units d inside)]
  rfl

theorem extensionText_canonical (extension : Option NSString) :
    (extensionText extension).map canonical = extensionText (extension.map (List.map canonical)) := by
  cases extension with
  | none => rfl
  | some digits =>
    unfold extensionText
    rw [Option.map_some, Option.map_some, Option.map_some, Option.getD_some, Option.getD_some, List.map_append]
    rfl

theorem rtakeWhile_append {contains : unichar → Bool} {before after : NSString} {c : unichar}
    (inside : ∀ d ∈ after, contains d) (outside : contains c = false) :
    (before ++ c :: after).rtakeWhile contains = after ∧ (before ++ c :: after).rdropWhile contains = before ++ [c] := by
  have reversed : (before ++ c :: after).reverse = after.reverse ++ c :: before.reverse := by simp
  have all : ∀ d ∈ after.reverse, contains d := fun d member => inside d (List.mem_reverse.mp member)
  have stop : ¬ contains c = true := by
    rw [outside]
    decide
  unfold List.rtakeWhile List.rdropWhile
  rw [reversed, List.takeWhile_append_of_pos all, List.dropWhile_append_of_pos all, List.takeWhile_cons_of_neg stop,
    List.dropWhile_cons_of_neg stop]
  simp

/-- A number without parameters ends with no extension. -/
theorem extensionDigits_encoded (encoded : isEncoded s) : extensionDigits s = none := by
  refine if_neg ?_
  rw [Bool.and_eq_true, List.isSuffixOf_iff_suffix]
  rintro ⟨_, written⟩
  have member : 59 ∈ s := (List.rdropWhile_prefix isValidDigit s).subset (written.subset List.mem_cons_self)
  exact absurd rfl (forall_encoded (P := (· ≠ 59)) (by decide) (by decide) (by decide) encoded 59 member)

theorem extensionDigits_extension {digits : NSString} (valid : isExtension digits) :
    extensionDigits (s ++ extensionText (some digits)) = some digits.length := by
  obtain ⟨units, some, few⟩ := isExtension_iff.mp valid
  have shape : s ++ extensionText (Option.some digits) = (s ++ ns ";ext") ++ 61 :: digits := by
    rw [List.append_assoc]
    rfl
  obtain ⟨taken, left⟩ : (s ++ ns ";ext" ++ 61 :: digits).rtakeWhile isValidDigit = digits ∧
      (s ++ ns ";ext" ++ 61 :: digits).rdropWhile isValidDigit = s ++ ns ";ext" ++ [61] :=
    rtakeWhile_append units (by decide)
  unfold extensionDigits
  rw [shape, taken, left]
  refine if_pos ?_
  rw [Bool.and_eq_true, Bool.and_eq_true, decide_eq_true_iff, decide_eq_true_iff, List.isSuffixOf_iff_suffix]
  exact ⟨⟨some, few⟩, s, by rw [List.append_assoc]; rfl⟩

/-- A number as it is written is viable, with an extension or without. -/
theorem isViableText_encoded (encoded : isEncoded s) {extension : Option NSString}
    (valid : ∀ digits ∈ extension, isExtension digits) : isViableText (s ++ extensionText extension) := by
  have number : (match extensionDigits (s ++ extensionText extension) with
      | some digits =>
        (s ++ extensionText extension).take ((s ++ extensionText extension).length - (digits + 5))
      | none => s ++ extensionText extension) = s := by
    cases extension with
    | none =>
      have same : s ++ extensionText none = s := List.append_nil s
      rw [same, extensionDigits_encoded encoded]
    | some digits =>
      have length : (s ++ extensionText (some digits)).length - (digits.length + 5) = s.length := by
        have written : (extensionText (some digits)).length = 5 + digits.length := List.length_append
        rw [List.length_append, written]
        omega
      rw [extensionDigits_extension (valid digits rfl)]
      dsimp only
      rw [length, List.take_left]
  obtain ⟨body, rfl, units, many⟩ := isEncoded_iff.mp encoded
  have start : (43 :: body).dropWhile isPlusChar = body := by
    rw [List.dropWhile_cons_of_pos (by decide)]
    cases body with
    | nil => rfl
    | cons c rest =>
      refine List.dropWhile_cons_of_neg ?_
      rcases isHyphenated_cases (units c List.mem_cons_self) with isDigit | rfl
      · rw [isPlusChar_of_isValidDigit (isValidDigit_of_isAsciiDigit isDigit)]
        decide
      · decide
  have between : ∀ c ∈ body, isBetweenDigits c || isValidDigit c := by
    intro c member
    rcases isHyphenated_cases (units c member) with isDigit | rfl
    · rw [isValidDigit_of_isAsciiDigit isDigit, Bool.or_true]
    · decide
  have digits : body.filter isValidDigit = body.filter isAsciiDigit := by
    refine List.filter_congr fun c member => ?_
    rcases isHyphenated_cases (units c member) with isDigit | rfl
    · rw [isValidDigit_of_isAsciiDigit isDigit, isDigit]
    · decide
  unfold isViableText
  dsimp only
  rw [number, start, List.takeWhile_eq_self_iff.mpr between, digits, Bool.or_eq_true]
  refine Or.inr ?_
  rw [Bool.and_eq_true, List.all_eq_true, decide_eq_true_iff]
  refine ⟨fun c member => ?_, many⟩
  have here := between c member
  rw [Bool.or_eq_true] at here
  rcases here with punctuation | isDigit
  · rw [punctuation, Bool.true_or, Bool.true_or]
  · rw [isDigit, Bool.or_true]

end Encoded

namespace NBPhoneNumberUtil

variable {u : NBPhoneNumberUtil} {others : NSRegularExpressions}

/-- The fixed patterns are different. -/
theorem parserPatterns_nodup : [LEADING_PLUS_CHARS_PATTERN, VALID_START_CHAR_PATTERN, UNWANTED_END_CHAR_PATTERN,
    SECOND_NUMBER_START_PATTERN, EXTN_PATTERN, SEPARATOR_PATTERN, ns "^" ++ SEPARATOR_PATTERN].Nodup := by
  decide +kernel

theorem parserExpressions_matches (pattern s : NSString) (range : NSRange) :
    (parserExpressions others).matchesInString pattern s range =
      parserMatches others pattern (s.map canonical) s range := rfl

theorem parserExpressions_anchored (pattern s : NSString) :
    (parserExpressions others).firstAnchoredMatch pattern s =
      parserAnchoredMatch others pattern (s.map canonical) s := rfl

variable (parses : u.regex = parserExpressions others)

include parses

theorem matchesPattern_viable (s : NSString) :
    u.matchesPattern VALID_PHONE_NUMBER_PATTERN s = isViableText (s.map canonical) := by
  have named : VALID_PHONE_NUMBER_PATTERN ≠ ns "NA" := by decide +kernel
  have anchored : VALID_PHONE_NUMBER_PATTERN.contains 94 = true := by decide +kernel
  rw [matchesPattern, if_neg named, entireRegularExpressionWithPattern, if_pos anchored, parses,
    parserExpressions_anchored, parserAnchoredMatch, if_pos rfl, List.length_map]
  cases isViableText (s.map canonical) with
  | true =>
    rw [if_pos rfl]
    exact decide_eq_true rfl
  | false => rfl

theorem matchesPattern_alpha (s : NSString) :
    u.matchesPattern VALID_ALPHA_PHONE_PATTERN_STRING s = decide (3 ≤ (s.filter isLetter).length) := by
  have named : VALID_ALPHA_PHONE_PATTERN_STRING ≠ ns "NA" := by decide +kernel
  have free : ¬ VALID_ALPHA_PHONE_PATTERN_STRING.contains 94 = true := by decide +kernel
  have other : alphaPattern ≠ VALID_PHONE_NUMBER_PATTERN := by decide +kernel
  have kept : ((s.map canonical).filter isLetter).length = (s.filter isLetter).length := by
    rw [List.filter_map, uniform_isLetter.canonical, List.length_map]
  rw [matchesPattern, if_neg named, entireRegularExpressionWithPattern, if_neg free, parses,
    parserExpressions_anchored, ← alphaPattern, parserAnchoredMatch, if_neg other, if_pos rfl, kept, List.length_map]
  by_cases many : 3 ≤ (s.filter isLetter).length
  · rw [if_pos many, decide_eq_true many]
    exact decide_eq_true rfl
  · rw [if_neg many, decide_eq_false many]

/-- The expressions of the parser are what they have to be on written numbers. -/
theorem parserExpressions_encoded : u.EncodedExpressions := by
  have distinct := parserPatterns_nodup
  simp only [List.nodup_cons, List.mem_cons, List.not_mem_nil, or_false, not_or] at distinct
  obtain ⟨⟨a₁, a₂, a₃, a₄, a₅, a₆⟩, ⟨b₂, b₃, b₄, b₅, b₆⟩, ⟨c₃, c₄, c₅, c₆⟩, ⟨d₄, d₅, d₆⟩, ⟨e₅, e₆⟩, f₆, _⟩ := distinct
  have extended (s : NSString) : u.regex.allMatches EXTN_PATTERN s =
      extensionMatches (s.map canonical) ⟨0, s.length⟩ := by
    rw [parses, NSRegularExpressions.allMatches, parserExpressions_matches, parserMatches, if_neg (Ne.symm a₄),
      if_neg (Ne.symm b₄), if_neg (Ne.symm c₄), if_neg (Ne.symm d₄), if_pos rfl]
  have whole (s : NSString) : slice (s.map canonical) ⟨0, s.length⟩ = s.map canonical := by
    rw [slice_zero, ← List.length_map, List.take_length]
  refine ⟨?_, ?_, ?_, ?_, ?_, ?_, ?_, ?_, ?_, ?_, ?_⟩
  · intro s length _
    rw [parses, parserExpressions_matches, parserMatches, if_pos rfl, runMatches_canonical uniform_isPlusChar, runMatches,
      slice_zero]
  · intro s range _
    rw [parses, parserExpressions_matches, parserMatches, if_neg (Ne.symm a₁), if_pos rfl,
      unitMatches_canonical uniform_isStartChar]
  · intro s range _
    rw [parses, parserExpressions_matches, parserMatches, if_neg (Ne.symm a₂), if_neg (Ne.symm b₂), if_pos rfl,
      finalRunMatches_canonical uniform_isUnwantedEnd, finalRunMatches]
  · intro s _
    rw [parses, NSRegularExpressions.allMatches, parserExpressions_matches, parserMatches, if_neg (Ne.symm a₃),
      if_neg (Ne.symm b₃), if_neg (Ne.symm c₃), if_pos rfl]
  · intro s extension encoded valid
    rw [matchesPattern_viable parses, List.map_append, extensionText_canonical]
    refine isViableText_encoded (isEncoded_canonical encoded) ?_
    intro digits found
    obtain ⟨given, member, rfl⟩ := Option.map_eq_some_iff.mp found
    exact isExtension_canonical (valid given member)
  · intro s encoded
    rw [extended, extensionMatches, whole, extensionDigits_encoded (isEncoded_canonical encoded)]
  · intro s digits encoded valid
    have found : extensionDigits ((s ++ extensionText (some digits)).map canonical) = some digits.length := by
      rw [List.map_append, extensionText_canonical, Option.map_some,
        extensionDigits_extension (isExtension_canonical valid), List.length_map]
    have written : (s ++ extensionText (some digits)).length = s.length + (5 + digits.length) := by
      rw [List.length_append]
      exact congrArg (s.length + ·) List.length_append
    have behind : s.length + (5 + digits.length) - (digits.length + 5) = s.length := by omega
    have inside : s.length + (5 + digits.length) - digits.length = s.length + 5 := by omega
    refine ⟨_, [], by rw [extended, extensionMatches, whole, found], ?_, ?_⟩
    · dsimp only
      rw [List.length_map, written, behind, Nat.zero_add]
    · dsimp only
      rw [List.length_map, written, inside, Nat.zero_add]
  · intro s result member range listed
    rw [extended] at member
    unfold extensionMatches at member
    rw [whole] at member
    split at member
    · rename_i digits found
      obtain rfl := List.mem_singleton.mp member
      obtain ⟨count, some, few, fits⟩ := extensionDigits_eq_some found
      rw [rtakeWhile_canonical uniform_isValidDigit, List.length_map] at count
      rw [List.length_map] at fits
      have same : range = ⟨s.length - digits, digits⟩ := by
        simp only [List.mem_cons, Option.some.injEq, reduceCtorEq, List.not_mem_nil, or_false, List.length_map,
          Nat.zero_add] at listed
        exact listed
      have text : slice s range = s.rtakeWhile isValidDigit := by
        have split := List.rdropWhile_append_rtakeWhile (p := isValidDigit) (l := s)
        have lengths := congrArg List.length split
        rw [List.length_append] at lengths
        have before : (s.rdropWhile isValidDigit).length = s.length - digits := by omega
        have dropped : s.drop (s.length - digits) = s.rtakeWhile isValidDigit := by
          rw [← before]
          exact (congrArg (List.drop (s.rdropWhile isValidDigit).length) split.symm).trans List.drop_left
        rw [same, slice]
        dsimp only
        rw [dropped, count, List.take_length]
      rw [text]
      refine isExtension_iff.mpr ⟨?_, by omega, by omega⟩
      intro c inside
      unfold List.rtakeWhile at inside
      exact List.mem_takeWhile_imp (List.mem_reverse.mp inside)
    · cases member
  · intro s none
    rw [matchesPattern_alpha parses]
    have absent : s.filter isLetter = [] := List.filter_eq_nil_iff.mpr fun c member => by rw [none c member]; decide
    rw [absent]
    decide
  · intro s range _
    rw [parses, parserExpressions_matches, parserMatches, if_neg (Ne.symm a₅), if_neg (Ne.symm b₅), if_neg (Ne.symm c₅),
      if_neg (Ne.symm d₅), if_neg (Ne.symm e₅), if_pos rfl, allRuns_canonical uniform_isPunctuation]
  · intro s length _
    rw [parses, parserExpressions_matches, parserMatches, if_neg (Ne.symm a₆), if_neg (Ne.symm b₆), if_neg (Ne.symm c₆),
      if_neg (Ne.symm d₆), if_neg (Ne.symm e₆), if_neg (Ne.symm f₆), if_pos rfl,
      runMatches_canonical uniform_isPunctuation, runMatches, slice_zero]

end NBPhoneNumberUtil

/-- The parser over some metadata and its expressions. -/
def parserRegions (others : NSRegularExpressions) (helper : NBMetadataHelper) : NBPhoneNumberUtil where
  unicode := Unicode.ascii
  regex := parserExpressions others
  helper := helper
  sameObject := sameText
  sameObject_eq := sameText_eq
  errorDescription := NSError.localizedDescription

section Literal

/-- Expressions that stand for themselves, and one that is found at the start of a text,
or as the whole of it. -/
def literalExpressions (head : NSString) (find : NSString → Option HeadMatch) : NSRegularExpressions where
  matchesInString pattern s range := if pattern = head then headMatches find s range else []
  firstAnchoredMatch pattern s :=
    if pattern = ns "^(?:" ++ s ++ ns ")$" then some { range := ⟨0, s.length⟩ }
    else if pattern = ns "^(?:" ++ head ++ ns ")$" then
      (headMatches find s ⟨0, s.length⟩).find? fun result => decide (result.range = ⟨0, s.length⟩)
    else none
  matches_inside := by
    intro pattern s range inside result member
    split at member
    · exact headMatches_inside inside result member
    · cases member
  anchored_inside := by
    intro pattern s result found
    split at found
    · obtain rfl := Option.some.inj found
      exact inside_of_captures (Nat.le_of_eq (Nat.zero_add _)) 0
    split at found
    · exact headMatches_inside (Nat.le_of_eq (Nat.zero_add _)) result (List.mem_of_find?_eq_some found)
    · cases found

/-- The tables of one region, whose calling code is 1. -/
def oneRegion (metadata : NBPhoneMetaData) : NBMetadataHelper where
  countryCodeToRegionCodeMap code := if code = ns "1" then some [ns "US"] else none
  countryToMetadata region := if region = ns "US" then some metadata else none

def literalRegion (head : NSString) (find : NSString → Option HeadMatch) (metadata : NBPhoneMetaData) : NBPhoneNumberUtil :=
  parserRegions (literalExpressions head find) (oneRegion metadata)

variable {head : NSString} {find : NSString → Option HeadMatch} {metadata : NBPhoneMetaData}

theorem literalRegion_matchesPattern {pattern s : NSString} (plain : pattern.contains 94 = false)
    (named : pattern ≠ ns "NA") (other : pattern ≠ VALID_ALPHA_PHONE_PATTERN_STRING) (apart : pattern ≠ head) :
    (literalRegion head find metadata).matchesPattern pattern s = decide (pattern = s) := by
  have viable : ns "^(?:" ++ pattern ++ ns ")$" ≠ VALID_PHONE_NUMBER_PATTERN := by
    intro same
    have second : (ns "^(?:" ++ pattern ++ ns ")$")[1]? = some 40 := rfl
    rw [same] at second
    revert second
    decide +kernel
  have alpha : ns "^(?:" ++ pattern ++ ns ")$" ≠ alphaPattern := by
    intro same
    exact other (List.append_cancel_left (List.append_cancel_right same))
  have anchored : (literalRegion head find metadata).regex.firstAnchoredMatch (ns "^(?:" ++ pattern ++ ns ")$") s =
      if ns "^(?:" ++ pattern ++ ns ")$" = ns "^(?:" ++ s ++ ns ")$" then some { range := ⟨0, s.length⟩ } else none := by
    have parses : (literalRegion head find metadata).regex = parserExpressions (literalExpressions head find) := rfl
    have found : ns "^(?:" ++ pattern ++ ns ")$" ≠ ns "^(?:" ++ head ++ ns ")$" := fun same =>
      apart (List.append_cancel_left (List.append_cancel_right same))
    rw [parses, NBPhoneNumberUtil.parserExpressions_anchored, parserAnchoredMatch, if_neg viable, if_neg alpha,
      literalExpressions]
    dsimp only
    rw [if_neg found]
  rw [NBPhoneNumberUtil.matchesPattern, if_neg named, NBPhoneNumberUtil.entireRegularExpressionWithPattern, plain,
    if_neg Bool.false_ne_true, anchored]
  by_cases same : pattern = s
  · rw [same, if_pos rfl, decide_eq_true rfl]
    exact decide_eq_true rfl
  · rw [if_neg fun found => same (List.append_cancel_left (List.append_cancel_right found)), decide_eq_false same]

theorem literalRegion_regionCodeFromCountryCode (code : Int) :
    (literalRegion head find metadata).regionCodeFromCountryCode (some code) =
      if stringValue code = ns "1" then some [ns "US"] else none := by
  have table : (literalRegion head find metadata).helper.countryCodeToRegionCodeMap (stringValue code) =
      if stringValue code = ns "1" then some [ns "US"] else none := rfl
  unfold NBPhoneNumberUtil.regionCodeFromCountryCode
  dsimp only
  rw [table]
  by_cases same : stringValue code = ns "1"
  · rw [if_pos same]
  · rw [if_neg same]

theorem literalRegion_hasValidCountryCallingCode {code : Int} :
    (literalRegion head find metadata).hasValidCountryCallingCode (some code) ↔ code = 1 := by
  have lookup : (literalRegion head find metadata).hasValidCountryCallingCode (some code) ↔ stringValue code = ns "1" := by
    unfold NBPhoneNumberUtil.hasValidCountryCallingCode
    rw [literalRegion_regionCodeFromCountryCode]
    by_cases same : stringValue code = ns "1"
    · rw [if_pos same]
      exact iff_of_true rfl same
    · rw [if_neg same]
      exact iff_of_false Bool.false_ne_true same
  rw [lookup]
  constructor
  · intro written
    unfold stringValue at written
    split at written
    · cases written
    · have value := congrArg digitsValue written
      rw [digitsValue_decimalDigits] at value
      have one : digitsValue (ns "1") = 1 := by decide
      omega
  · rintro rfl
    decide

theorem literalRegion_prefixFree : (literalRegion head find metadata).PrefixFree := by
  refine ⟨?_, ?_, ?_⟩
  · intro code known
    rw [literalRegion_hasValidCountryCallingCode.mp known]
    decide
  · intro code known
    rw [literalRegion_hasValidCountryCallingCode.mp known]
    decide
  · intro code other known known' _
    rw [literalRegion_hasValidCountryCallingCode.mp known, literalRegion_hasValidCountryCallingCode.mp known']

theorem literalRegion_getMetadataForRegion :
    (literalRegion head find metadata).getMetadataForRegion (some (ns "US")) = some metadata := by
  have trimmed : stringByTrimming (ns "US") = ns "US" := by decide
  have unicode : (literalRegion head find metadata).unicode = Unicode.ascii := rfl
  have upper : Unicode.ascii.uppercaseString (ns "US") = ns "US" := by decide
  unfold NBPhoneNumberUtil.getMetadataForRegion
  dsimp only
  rw [trimmed, unicode, upper]
  rfl

theorem eq_of_literalRegion_getMetadataForRegion {region : Option NSString} {found : NBPhoneMetaData}
    (looked : (literalRegion head find metadata).getMetadataForRegion region = some found) : found = metadata := by
  have table (region : NSString) : (literalRegion head find metadata).helper.countryToMetadata region =
      if region = ns "US" then some metadata else none := rfl
  unfold NBPhoneNumberUtil.getMetadataForRegion at looked
  cases region with
  | none => cases looked
  | some region =>
    dsimp only at looked
    rw [table] at looked
    split at looked
    · cases looked
    split at looked
    · exact (Option.some.inj looked).symm
    · cases looked

theorem literalRegion_resolvedMetadata {resolved : Option NBPhoneMetaData}
    (found : (literalRegion head find metadata).ResolvedMetadata 1 resolved) : resolved = some metadata := by
  have region : (literalRegion head find metadata).getRegionCodeForCountryCode (some 1) = ns "US" := by
    have one : stringValue 1 = ns "1" := by decide
    unfold NBPhoneNumberUtil.getRegionCodeForCountryCode
    rw [literalRegion_regionCodeFromCountryCode, if_pos one]
  have geographical : some (ns "US") ≠ some NB_REGION_CODE_FOR_NON_GEO_ENTITY := by decide
  unfold NBPhoneNumberUtil.ResolvedMetadata NBPhoneNumberUtil.getMetadataForRegionOrCallingCode at found
  rw [region, if_neg geographical, literalRegion_getMetadataForRegion, or_self] at found
  exact found.symm

theorem literalRegion_mainMetadata {main : NBPhoneMetaData}
    (isMain : (literalRegion head find metadata).MainMetadata 1 main) : main = metadata :=
  Option.some.inj (literalRegion_resolvedMetadata isMain)

/-- The expression that is searched for, if it is none of the parser's. -/
theorem literalRegion_allMatches (free : head ∉ [LEADING_PLUS_CHARS_PATTERN, VALID_START_CHAR_PATTERN,
    UNWANTED_END_CHAR_PATTERN, SECOND_NUMBER_START_PATTERN, EXTN_PATTERN, SEPARATOR_PATTERN, ns "^" ++ SEPARATOR_PATTERN])
    (s : NSString) (range : NSRange) :
    (literalRegion head find metadata).regex.matchesInString head s range = headMatches find s range := by
  have parses : (literalRegion head find metadata).regex = parserExpressions (literalExpressions head find) := rfl
  simp only [List.mem_cons, List.not_mem_nil, or_false, not_or] at free
  obtain ⟨plus, start, ending, second, extended, separator, separators⟩ := free
  rw [parses, NBPhoneNumberUtil.parserExpressions_matches, parserMatches, if_neg plus, if_neg start, if_neg ending,
    if_neg second, if_neg extended, if_neg separator, if_neg separators]
  exact if_pos rfl

end Literal

end SignalPods.PhoneNumber
