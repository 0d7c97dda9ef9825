import SignalPods.PhoneNumber.FormattingTemplates
import SignalPods.PhoneNumber.ParsedNumbers

namespace SignalPods.PhoneNumber

open Foundation

/-- The units of `NB_VALID_DIGITS_STRING`. -/
def isValidDigit (c : unichar) : Bool :=
  isAsciiDigit c || (0xff10 ≤ c && c ≤ 0xff19) || (0x660 ≤ c && c ≤ 0x669) || (0x6f0 ≤ c && c ≤ 0x6f9)

/-- The units of `VALID_ALPHA`. -/
def isLetter (c : unichar) : Bool := (65 ≤ c && c ≤ 90) || (97 ≤ c && c ≤ 122)

def isStartChar (c : unichar) : Bool := isPlusChar c || isValidDigit c

/-- What the end of a number is cleaned of. -/
def isUnwantedEnd (c : unichar) : Bool := !(isValidDigit c || isLetter c || c == 35)

def isHyphenated (c : unichar) : Bool := isAsciiDigit c || c == 45

/-- A plus sign and after it digits, three or more, and hyphens. -/
def isEncoded : NSString → Bool
  | [] => false
  | c :: body => c == 43 && body.all isHyphenated && 3 ≤ (body.filter isAsciiDigit).length

/-- What the parser takes for an extension. -/
def isExtension (s : NSString) : Bool := s.all isValidDigit && 1 ≤ s.length && s.length ≤ 7

/-- An extension as it is written after a number. -/
def extensionText (extension : Option NSString) : NSString := (extension.map (RFC3966_EXTN_PREFIX ++ ·)).getD []

/-- The fixed expressions of the parser, as they are on the numbers that the
formatter writes. -/
structure NBPhoneNumberUtil.EncodedExpressions (u : NBPhoneNumberUtil) : Prop where
  leadingPlus : u.MatchesLeadingPlus
  start : u.MatchesUnits VALID_START_CHAR_PATTERN isStartChar 0
  unwantedEnd : u.MatchesFinalRun UNWANTED_END_CHAR_PATTERN isUnwantedEnd
  secondNumber : ∀ s, (∀ c ∈ s, c ≠ 47 ∧ c ≠ 92) → u.regex.allMatches SECOND_NUMBER_START_PATTERN s = []
  viable : ∀ s extension, isEncoded s → (∀ digits ∈ extension, isExtension digits) →
    u.matchesPattern VALID_PHONE_NUMBER_PATTERN (s ++ extensionText extension)
  noExtension : ∀ s, isEncoded s → u.regex.allMatches EXTN_PATTERN s = []
  extension : ∀ s digits, isEncoded s → isExtension digits → ∃ result results,
    u.regex.allMatches EXTN_PATTERN (s ++ extensionText (some digits)) = result :: results ∧
      result.range.location = s.length ∧ result.groups = [some ⟨s.length + 5, digits.length⟩, none, none]
  /-- An extension is one to seven digits wherever it is found. -/
  captured : ∀ s, ∀ result ∈ u.regex.allMatches EXTN_PATTERN s, ∀ range, some range ∈ result.groups →
    isExtension (slice s range)
  letters : ∀ s, (∀ c ∈ s, isLetter c = false) → u.matchesPattern VALID_ALPHA_PHONE_PATTERN_STRING s = false
  separator : u.MatchesRuns SEPARATOR_PATTERN isPunctuation
  leadingSeparator : u.MatchesLeadingRun (ns "^" ++ SEPARATOR_PATTERN) isPunctuation

section Units

variable {s : NSString}

theorem isEncoded_iff : isEncoded s ↔ ∃ body, s = 43 :: body ∧ (∀ c ∈ body, isHyphenated c) ∧
    3 ≤ (body.filter isAsciiDigit).length := by
  cases s with
  | nil => simp [isEncoded]
  | cons c body =>
    simp only [isEncoded, Bool.and_eq_true, beq_iff_eq, List.all_eq_true, decide_eq_true_eq]
    constructor
    · rintro ⟨⟨rfl, units⟩, many⟩
      exact ⟨body, rfl, units, many⟩
    · rintro ⟨_, same, units, many⟩
      obtain ⟨rfl, rfl⟩ := List.cons.inj same
      exact ⟨⟨rfl, units⟩, many⟩

theorem isHyphenated_cases {c : unichar} (unit : isHyphenated c = true) : isAsciiDigit c = true ∨ c = 45 := by
  simpa [isHyphenated] using unit

/-- What holds of the plus sign, the hyphen and the digits holds of an encoded number. -/
theorem forall_encoded {P : unichar → Prop} (plus : P 43) (hyphen : P 45) (each : ∀ d < 10, P (digit d))
    (encoded : isEncoded s) : ∀ c ∈ s, P c := by
  obtain ⟨body, rfl, units, _⟩ := isEncoded_iff.mp encoded
  intro c member
  rcases List.mem_cons.mp member with rfl | later
  · exact plus
  · rcases isHyphenated_cases (units c later) with isDigit | rfl
    · exact forall_digit each isDigit
    · exact hyphen

theorem isPlain_of_isValidDigit {c : unichar} (isDigit : isValidDigit c = true) : isPlain c = true := by
  simp only [isValidDigit, Bool.or_eq_true] at isDigit
  rcases isDigit with ((ascii | full) | arabic) | eastern
  · exact isPlain_of_isAsciiDigit ascii
  · simp [isPlain, full]
  · simp [isPlain, arabic]
  · simp [isPlain, eastern]

theorem ne_of_isValidDigit {c : unichar} (isDigit : isValidDigit c = true) {other : unichar}
    (no : isValidDigit other = false) : c ≠ other := by
  rintro rfl
  rw [isDigit] at no
  cases no

theorem isExtension_iff : isExtension s ↔ (∀ c ∈ s, isValidDigit c) ∧ 1 ≤ s.length ∧ s.length ≤ 7 := by
  simp [isExtension, and_assoc]

/-- What holds of the text before an extension and of its digits holds of the extension. -/
theorem forall_extensionText {P : unichar → Prop} (before : ∀ c ∈ RFC3966_EXTN_PREFIX, P c)
    (each : ∀ c, isValidDigit c = true → P c) {extension : Option NSString}
    (valid : ∀ digits ∈ extension, isExtension digits) : ∀ c ∈ extensionText extension, P c := by
  cases extension with
  | none =>
    intro c member
    cases member
  | some digits =>
    intro c member
    rcases List.mem_append.mp member with written | digit
    · exact before c written
    · exact each c ((isExtension_iff.mp (valid digits rfl)).1 c digit)

/-- A text with one semicolon, which the letter e follows, has no other parameter. -/
theorem literalSearch_parameter {before rest : NSString} {c : unichar} (noSemicolon : ∀ d ∈ before, d ≠ 59)
    (other : c ≠ 101) {extension : Option NSString} (valid : ∀ digits ∈ extension, isExtension digits) :
    literalSearch (before ++ extensionText extension) (59 :: c :: rest) = none := by
  rw [← Option.not_isSome_iff_eq_none, Option.isSome_iff_exists]
  rintro ⟨index, found⟩
  obtain ⟨more, same⟩ := literalSearch_found found
  by_cases inside : index < before.length
  · have here := congrArg List.head? same
    rw [List.head?_drop, List.getElem?_append_left inside] at here
    exact noSemicolon 59 (List.mem_of_getElem? here.symm) rfl
  · rw [List.drop_append, List.drop_of_length_le (Nat.not_lt.mp inside), List.nil_append] at same
    cases extension with
    | none =>
      rw [show extensionText none = [] from rfl, List.drop_nil] at same
      cases same
    | some digits =>
      cases offset : index - before.length with
      | zero =>
        rw [offset] at same
        have second : c = 101 := (List.cons.inj (List.cons.inj same).2).1
        exact other second
      | succ offset' =>
        rw [offset] at same
        have listed : (59 : unichar) ∈ (extensionText (some digits)).drop (offset' + 1) := by
          rw [← same]
          exact List.mem_cons_self
        have later : (59 : unichar) ∈ ns "ext=" ++ digits := List.mem_of_mem_drop (i := offset') listed
        rcases List.mem_append.mp later with written | digit
        · exact absurd written (by decide)
        · exact absurd ((isExtension_iff.mp (valid digits rfl)).1 59 digit) (by decide)

/-- The end of an encoded number can lose hyphens only. -/
theorem isEncoded_rdropWhile (encoded : isEncoded s) :
    isEncoded (s.rdropWhile isUnwantedEnd) ∧
      (s.rdropWhile isUnwantedEnd).filter isAsciiDigit = s.filter isAsciiDigit := by
  obtain ⟨body, rfl, units, many⟩ := isEncoded_iff.mp encoded
  have split : (43 :: body).rdropWhile isUnwantedEnd ++ (43 :: body).rtakeWhile isUnwantedEnd = 43 :: body :=
    List.rdropWhile_append_rtakeWhile
  have none : ((43 :: body).rtakeWhile isUnwantedEnd).filter isAsciiDigit = [] := by
    refine List.filter_eq_nil_iff.mpr ?_
    intro c member isDigit
    have unwanted := List.mem_rtakeWhile_imp member
    rw [isUnwantedEnd, isValidDigit, isDigit] at unwanted
    cases unwanted
  have same : ((43 :: body).rdropWhile isUnwantedEnd).filter isAsciiDigit = (43 :: body).filter isAsciiDigit := by
    conv_rhs => rw [← split]
    rw [List.filter_append, none, List.append_nil]
  refine ⟨?_, same⟩
  cases kept : (43 :: body).rdropWhile isUnwantedEnd with
  | nil =>
    rw [kept, List.filter_cons_of_neg (by decide)] at same
    rw [← same] at many
    simp at many
  | cons c rest =>
    rw [kept] at split same
    obtain ⟨rfl, tail⟩ := List.cons.inj split
    rw [List.filter_cons_of_neg (by decide), List.filter_cons_of_neg (by decide)] at same
    refine isEncoded_iff.mpr ⟨rest, rfl, ?_, ?_⟩
    · intro d member
      exact units d (tail ▸ List.mem_append_left _ member)
    · rw [same]
      exact many

end Units

namespace NBPhoneNumberUtil

variable {u : NBPhoneNumberUtil} {s : NSString} {extension : Option NSString}

section Candidate

/-- A text is an encoded number, an extension or none, and the scheme or nothing before it. -/
structure Writes (before s : NSString) (extension : Option NSString) : Prop where
  scheme : before = [] ∨ before = RFC3966_PREFIX
  encoded : isEncoded s
  valid : ∀ digits ∈ extension, isExtension digits

variable {before : NSString}

/-- What holds of all that is written around the digits, and of those, holds of the text. -/
theorem Writes.forall (writes : Writes before s extension) {P : unichar → Prop} (scheme : ∀ c ∈ RFC3966_PREFIX, P c)
    (plus : P 43) (hyphen : P 45) (name : ∀ c ∈ RFC3966_EXTN_PREFIX, P c) (each : ∀ c, isValidDigit c = true → P c) :
    ∀ c ∈ before ++ (s ++ extensionText extension), P c := by
  have digits : ∀ d < 10, P (digit d) := by
    intro d bound
    have valid : ∀ d < 10, isValidDigit (digit d) = true := by decide
    exact each _ (valid d bound)
  intro c member
  rcases List.mem_append.mp member with front | member
  · rcases writes.scheme with rfl | rfl
    · cases front
    · exact scheme c front
  · rcases List.mem_append.mp member with inside | back
    · exact forall_encoded plus hyphen digits writes.encoded c inside
    · exact forall_extensionText name each writes.valid c back

theorem Writes.absent (writes : Writes before s extension) {other : unichar} (noScheme : other ∉ RFC3966_PREFIX)
    (noPlus : other ≠ 43) (noHyphen : other ≠ 45) (noName : other ∉ RFC3966_EXTN_PREFIX)
    (noDigit : isValidDigit other = false) : ∀ c ∈ before ++ (s ++ extensionText extension), c ≠ other :=
  writes.forall (fun _ member same => noScheme (same ▸ member)) (Ne.symm noPlus) (Ne.symm noHyphen)
    (fun _ member same => noName (same ▸ member)) (fun _ isDigit => ne_of_isValidDigit isDigit noDigit)

theorem Writes.plain (writes : Writes before s extension) :
    (before ++ (s ++ extensionText extension)).all isPlain := by
  rw [List.all_eq_true]
  have scheme : RFC3966_PREFIX.all isPlain := by decide
  have name : RFC3966_EXTN_PREFIX.all isPlain := by decide
  rw [List.all_eq_true] at scheme name
  exact writes.forall scheme (by decide) (by decide) name fun c => isPlain_of_isValidDigit

theorem Writes.normalized (writes : Writes before s extension) :
    u.normalizeNonBreakingSpace (before ++ (s ++ extensionText extension)) = before ++ (s ++ extensionText extension) :=
  u.normalizeNonBreakingSpace_of_absent (writes.absent (by decide) (by decide) (by decide) (by decide) (by decide))

/-- No parameter but the extension is found. -/
theorem Writes.indexOfParameter (writes : Writes before s extension) {c : unichar} {rest : NSString} (other : c ≠ 101)
    (plain : (59 :: c :: rest).all isPlain) :
    u.indexOfStringByString (before ++ (s ++ extensionText extension)) (59 :: c :: rest) = -1 := by
  have noSemicolon : ∀ d ∈ before ++ s, d ≠ 59 := by
    intro d member
    have bare : Writes before s none := ⟨writes.scheme, writes.encoded, fun _ absent => by cases absent⟩
    rcases List.mem_append.mp member with front | inside
    · rcases writes.scheme with rfl | rfl
      · cases front
      · rintro rfl
        exact absurd front (by decide)
    · exact forall_encoded (P := (· ≠ 59)) (by decide) (by decide) (by decide) writes.encoded d inside
  unfold indexOfStringByString
  rw [u.unicode.rangeOfString_plain _ _ writes.plain plain, ← List.append_assoc,
    literalSearch_parameter noSemicolon other writes.valid]

/-- The number starts with the plus sign, which nothing before it is. -/
theorem Writes.start (law : u.EncodedExpressions) (writes : Writes before s extension) :
    u.stringPositionByRegex (before ++ (s ++ extensionText extension)) VALID_START_CHAR_PATTERN = before.length := by
  obtain ⟨body, rfl, _, _⟩ := isEncoded_iff.mp writes.encoded
  have place : (before ++ (43 :: body ++ extensionText extension)).findIdx? isStartChar = some before.length := by
    rcases writes.scheme with rfl | rfl
    · rfl
    · rfl
  rw [stringPositionByRegex_units law.start (by decide), place]

/-- The number as the parser cleans it: hyphens at the very end are lost. -/
def cleaned (s : NSString) : Option NSString → NSString
  | none => s.rdropWhile isUnwantedEnd
  | some _ => s

theorem isEncoded_cleaned (encoded : isEncoded s) (extension : Option NSString) :
    isEncoded (cleaned s extension) ∧ (cleaned s extension).filter isAsciiDigit = s.filter isAsciiDigit := by
  cases extension with
  | none => exact isEncoded_rdropWhile encoded
  | some digits => exact ⟨encoded, rfl⟩

theorem cleaned_eq (valid : ∀ digits ∈ extension, isExtension digits) :
    (s ++ extensionText extension).rdropWhile isUnwantedEnd = cleaned s extension ++ extensionText extension := by
  cases extension with
  | none => rw [extensionText, Option.map_none, Option.getD_none, List.append_nil, List.append_nil, cleaned]
  | some digits =>
    obtain ⟨units, long, _⟩ := isExtension_iff.mp (valid digits rfl)
    have some_units : digits ≠ [] := List.ne_nil_of_length_pos long
    -- the text ends with a digit
    have last : isUnwantedEnd (digits.getLast some_units) = false := by
      have isDigit := units _ (List.getLast_mem some_units)
      unfold isUnwantedEnd
      rw [isDigit, Bool.true_or, Bool.true_or]
      rfl
    refine List.rdropWhile_eq_self_iff.mpr fun nonempty unwanted => ?_
    have same : (s ++ extensionText (some digits)).getLast nonempty = digits.getLast some_units := by
      have split : s ++ extensionText (some digits) = s ++ RFC3966_EXTN_PREFIX ++ digits := by
        rw [List.append_assoc]
        rfl
      rw [List.getLast_congr nonempty _ split, List.getLast_append_of_ne_nil _ some_units]
      exact List.append_ne_nil_of_right_ne_nil _ some_units
    rw [same, last] at unwanted
    cases unwanted

variable (law : u.EncodedExpressions)

include law

theorem Writes.secondNumber (writes : Writes before s extension) :
    u.stringPositionByRegex (before ++ (s ++ extensionText extension)) SECOND_NUMBER_START_PATTERN = -1 := by
  have slashes : ∀ c ∈ before ++ (s ++ extensionText extension), c ≠ 47 ∧ c ≠ 92 := fun c member =>
    ⟨writes.absent (by decide) (by decide) (by decide) (by decide) (by decide) c member,
      writes.absent (by decide) (by decide) (by decide) (by decide) (by decide) c member⟩
  unfold stringPositionByRegex
  rw [law.secondNumber _ slashes]
  split <;> rfl

/-- The candidate is the number and its extension, without what was written before them. -/
theorem Writes.extractPossibleNumber (writes : Writes before s extension) :
    u.extractPossibleNumber (before ++ (s ++ extensionText extension)) =
      .ok (cleaned s extension ++ extensionText extension) := by
  have bare : Writes [] (cleaned s extension) extension :=
    ⟨Or.inl rfl, (isEncoded_cleaned writes.encoded extension).1, writes.valid⟩
  have bound : before.length ≤ (before ++ (s ++ extensionText extension)).length := by
    rw [List.length_append]
    exact Nat.le_add_right _ _
  have second := bare.secondNumber law
  rw [List.nil_append] at second
  unfold NBPhoneNumberUtil.extractPossibleNumber
  rw [writes.normalized]
  dsimp only
  rw [writes.start law, if_pos (Int.natCast_nonneg _), Int.toNat_natCast, substringFromIndex_of_le bound, List.drop_left]
  simp only [bind, Except.bind]
  rw [replaceStringByRegex_finalRun law.unwantedEnd, cleaned_eq writes.valid, second, if_neg (by decide)]
  rfl

theorem Writes.built (writes : Writes before s extension) :
    u.buildNationalNumberForParsing (before ++ (s ++ extensionText extension)) =
      .ok (cleaned s extension ++ extensionText extension) := by
  have bare : Writes [] (cleaned s extension) extension :=
    ⟨Or.inl rfl, (isEncoded_cleaned writes.encoded extension).1, writes.valid⟩
  have context : u.indexOfStringByString (before ++ (s ++ extensionText extension)) RFC3966_PHONE_CONTEXT = -1 :=
    writes.indexOfParameter (by decide) (by decide)
  have isdn : u.indexOfStringByString ([] ++ (cleaned s extension ++ extensionText extension)) RFC3966_ISDN_SUBADDRESS = -1 :=
    bare.indexOfParameter (by decide) (by decide)
  rw [List.nil_append] at isdn
  unfold buildNationalNumberForParsing numberWithPhoneContext
  rw [context]
  dsimp only
  rw [if_neg (by decide), writes.extractPossibleNumber law]
  simp only [bind, Except.bind]
  unfold withoutIsdnSubaddress
  rw [isdn]
  dsimp only
  rw [if_neg (by decide)]

omit law in
theorem length_encoded (encoded : isEncoded s) : MIN_LENGTH_FOR_NSN ≤ s.length := by
  obtain ⟨body, rfl, _, many⟩ := isEncoded_iff.mp encoded
  have few := List.length_filter_le isAsciiDigit body
  unfold MIN_LENGTH_FOR_NSN
  rw [List.length_cons]
  omega

theorem isViablePhoneNumber_encoded (encoded : isEncoded s) (valid : ∀ digits ∈ extension, isExtension digits) :
    u.isViablePhoneNumber (s ++ extensionText extension) := by
  have bare : Writes [] s extension := ⟨Or.inl rfl, encoded, valid⟩
  have normalized := bare.normalized (u := u)
  have long := length_encoded encoded
  rw [List.nil_append] at normalized
  unfold isViablePhoneNumber
  rw [normalized]
  dsimp only
  rw [if_neg, law.viable s extension encoded valid]
  rw [List.length_append]
  omega

/-- The extension is found again, and the number before it. -/
theorem maybeStripExtension_encoded (encoded : isEncoded s) (valid : ∀ digits ∈ extension, isExtension digits) :
    u.maybeStripExtension (s ++ extensionText extension) = .ok (extension.getD [], s) := by
  cases extension with
  | none =>
    have position : u.stringPositionByRegex s EXTN_PATTERN = -1 := by
      unfold stringPositionByRegex
      rw [law.noExtension s encoded]
      split <;> rfl
    unfold maybeStripExtension extensionText
    rw [Option.map_none, Option.getD_none, List.append_nil, position]
    rfl
  | some digits =>
    obtain ⟨result, results, found, start, groups⟩ := law.extension s digits encoded (valid digits rfl)
    have lengths : (s ++ extensionText (some digits)).length = s.length + (5 + digits.length) := by
      rw [List.length_append, extensionText, Option.map_some, Option.getD_some, List.length_append]
      rfl
    have long := length_encoded encoded
    have positive := (isExtension_iff.mp (valid digits rfl)).2.1
    have position : u.stringPositionByRegex (s ++ extensionText (some digits)) EXTN_PATTERN = s.length := by
      have some_units : (s ++ extensionText (some digits)).isEmpty = false := by
        rw [List.isEmpty_eq_false_iff_exists_mem]
        exact List.exists_mem_of_length_pos (by omega)
      have written : EXTN_PATTERN.isEmpty = false := by decide
      unfold stringPositionByRegex
      rw [found, some_units, written, Bool.or_false, if_neg Bool.false_ne_true]
      dsimp only
      rw [start]
    have front : substringWithRange (s ++ extensionText (some digits)) ⟨0, s.length⟩ = .ok s := by
      have inside : NSRange.Inside (s ++ extensionText (some digits)) ⟨0, s.length⟩ := by
        unfold NSRange.Inside
        dsimp only
        omega
      rw [substringWithRange_of_inside inside, slice_zero, List.take_left]
    have viable : u.isViablePhoneNumber s = true := by
      have bare : u.isViablePhoneNumber (s ++ extensionText none) = true :=
        isViablePhoneNumber_encoded law encoded fun _ absent => by cases absent
      rw [extensionText, Option.map_none, Option.getD_none, List.append_nil] at bare
      exact bare
    have back : capturedExtension (s ++ extensionText (some digits)) result.groups = .ok (some digits) := by
      have inside : NSRange.Inside (s ++ extensionText (some digits)) ⟨s.length + 5, digits.length⟩ := by
        unfold NSRange.Inside
        dsimp only
        omega
      have text : slice (s ++ extensionText (some digits)) ⟨s.length + 5, digits.length⟩ = digits := by
        have split : s ++ extensionText (some digits) = (s ++ RFC3966_EXTN_PREFIX) ++ digits := by
          rw [List.append_assoc]
          rfl
        have length : (s ++ RFC3966_EXTN_PREFIX).length = s.length + 5 := by
          rw [List.length_append]
          rfl
        unfold slice
        rw [split, ← length, List.drop_left, List.take_length]
      rw [groups, capturedExtension, if_pos (by dsimp only; omega), substringWithRange_of_inside inside, text]
      rfl
    unfold maybeStripExtension
    rw [position]
    dsimp only
    rw [if_pos (Int.natCast_nonneg _), Int.toNat_natCast, front]
    simp only [bind, Except.bind]
    rw [if_pos viable, found]
    dsimp only
    rw [back]
    rfl

end Candidate

section Extraction

theorem normalize_hyphenated (law : u.EncodedExpressions) (units : ∀ c ∈ s, isHyphenated c) :
    u.normalize s = s.filter isAsciiDigit := by
  have absent {P : unichar → Prop} (hyphen : P 45) (each : ∀ d < 10, P (digit d)) : ∀ c ∈ s, P c := by
    intro c member
    rcases isHyphenated_cases (units c member) with isDigit | rfl
    · exact forall_digit each isDigit
    · exact hyphen
  have noLetter := law.letters s (absent (P := (isLetter · = false)) (by decide) (by decide))
  have plain := u.normalizeNonBreakingSpace_of_absent (absent (P := (· ≠ 0xa0)) (by decide) (by decide))
  unfold normalize normalizeDigitsOnly
  rw [noLetter, if_neg Bool.false_ne_true, plain, ← List.filterMap_eq_filter]
  refine List.filterMap_congr fun c member => ?_
  rcases isHyphenated_cases (units c member) with isDigit | rfl
  · rw [DIGIT_MAPPINGS_digit isDigit, Option.guard, isDigit, if_pos rfl]
  · decide

variable {code : Int} {digits : NSString}

/-- The calling code that was written first is extracted, and the digits after it. -/
theorem extractForParsing_encoded (law : u.EncodedExpressions) (codes : u.PrefixFree)
    (known : u.hasValidCountryCallingCode (some code)) (encoded : isEncoded s)
    (spelled : s.filter isAsciiDigit = stringValue code ++ digits) (areDigits : digits.all isAsciiDigit)
    (metadata : Option NBPhoneMetaData) (phoneNumber : NBPhoneNumber) :
    u.extractForParsing s metadata false phoneNumber =
      .ok (.ok ⟨some code, digits, { phoneNumber with countryCode := some code }, none⟩) := by
  obtain ⟨body, rfl, units, many⟩ := isEncoded_iff.mp encoded
  rw [List.filter_cons_of_neg (by decide)] at spelled
  have signed : ((43 : unichar) :: body).head?.any isPlusChar := rfl
  have front : ((43 : unichar) :: body).dropWhile isPlusChar = body := by
    rw [List.dropWhile_cons_of_pos (by decide)]
    cases body with
    | nil => rfl
    | cons c rest =>
      refine List.dropWhile_cons_of_neg ?_
      rcases isHyphenated_cases (units c List.mem_cons_self) with isDigit | rfl
      · exact forall_digit (P := fun c => ¬ isPlusChar c = true) (by decide) isDigit
      · decide
  have long : ¬ (stringValue code ++ digits).length ≤ MIN_LENGTH_FOR_NSN := by
    unfold MIN_LENGTH_FOR_NSN
    rw [← spelled]
    omega
  have positive := codes.positive code known
  unfold extractForParsing
  rw [maybeExtractCountryCode_signed law.leadingPlus signed, front, normalize_hyphenated law units, spelled,
    if_neg Bool.false_ne_true, extractInternational, if_neg long, extractCountryCode_of_code codes known areDigits]
  simp only [bind, Except.bind]
  rw [if_pos (by omega)]
  rfl

/-- A number that the metadata of its main region takes as it is: it matches the
general pattern, and without its national prefix it does not. -/
structure KeepsNumber (u : NBPhoneNumberUtil) (metadata : NBPhoneMetaData) (number rule : NSString) : Prop where
  general : metadata.generalDesc.nationalNumberPattern = some rule
  value : hasValue (some rule)
  matched : u.matchesPattern rule number
  stripped : hasValue metadata.nationalPrefixForParsing → ∀ firstMatch others,
    u.regex.allMatches (prefixPattern metadata) number = firstMatch :: others →
      u.matchesPattern rule (u.strippedNumber metadata number firstMatch) = false

theorem stripForParsing_of_keeps {metadata : Option NBPhoneMetaData} (areDigits : digits.all isAsciiDigit)
    (some_digits : digits ≠ []) (keeps : ∀ main ∈ metadata, ∃ rule, u.KeepsNumber main digits rule)
    (phoneNumber : NBPhoneNumber) :
    u.stripForParsing digits metadata false phoneNumber = .ok (digits, phoneNumber) := by
  cases metadata with
  | none => rfl
  | some main =>
    obtain ⟨rule, kept⟩ := keeps main rfl
    have answer : u.maybeStripNationalPrefixAndCarrierCode digits main (some []) = .ok ⟨false, digits, some []⟩ := by
      by_cases unmatched : hasValue main.nationalPrefixForParsing = false ∨
          u.regex.allMatches (prefixPattern main) digits = []
      · exact maybeStripNationalPrefixAndCarrierCode_of_none (Or.inr unmatched) _
      · obtain ⟨parsing, matched⟩ := not_or.mp unmatched
        obtain ⟨firstMatch, others, found⟩ := List.exists_cons_of_ne_nil matched
        have parsing := Bool.eq_true_of_not_eq_false parsing
        have loses := losesViability_eq_true_iff.mpr
          ⟨rule, kept.general, kept.value, kept.matched, kept.stripped parsing firstMatch others found⟩
        rw [maybeStripNationalPrefixAndCarrierCode_of_match areDigits some_digits parsing found, if_pos loses]
    unfold stripForParsing
    dsimp only
    rw [answer]
    simp only [bind, Except.bind, Bool.false_eq_true, if_false, ite_self]
    rfl

/-- The metadata of the main region of a calling code, as it is looked up by the
code and the region, or by the region alone. -/
def MainMetadata (u : NBPhoneNumberUtil) (code : Int) (metadata : NBPhoneMetaData) : Prop :=
  u.getMetadataForRegionOrCallingCode (some code) (some (u.getRegionCodeForCountryCode (some code))) = some metadata ∨
    u.getMetadataForRegion (some (u.getRegionCodeForCountryCode (some code))) = some metadata

/-- What is found by the one way or the other. -/
def ResolvedMetadata (u : NBPhoneNumberUtil) (code : Int) (metadata : Option NBPhoneMetaData) : Prop :=
  u.getMetadataForRegionOrCallingCode (some code) (some (u.getRegionCodeForCountryCode (some code))) = metadata ∨
    u.getMetadataForRegion (some (u.getRegionCodeForCountryCode (some code))) = metadata

/-- With a calling code the default region tells nothing but which metadata is used. -/
theorem resolveRegion_code (positive : 0 < code) (nationalNumber : NSString) (defaultRegion : Option NSString)
    (phoneNumber : NBPhoneNumber) :
    ∃ metadata, u.resolveRegion nationalNumber defaultRegion (u.getMetadataForRegion defaultRegion) false
        ⟨some code, digits, phoneNumber, none⟩ = (digits, metadata, phoneNumber) ∧ u.ResolvedMetadata code metadata := by
  have nonzero : (!isEqualToNumber (some code) (some 0)) = true := by
    have different : (code == 0) = false := beq_eq_false_iff_ne.mpr (by omega)
    rw [isEqualToNumber, different]
    rfl
  unfold resolveRegion
  rw [if_pos nonzero]
  refine ⟨_, rfl, ?_⟩
  dsimp only
  split
  · rename_i same
    cases defaultRegion with
    | none => cases same
    | some region =>
      obtain rfl := u.sameObject_eq _ _ same
      exact Or.inr rfl
  · exact Or.inl rfl

end Extraction

section Parsed

variable {before digits rest : NSString} {code : Int}

theorem parseViable_encoded (law : u.EncodedExpressions) (codes : u.PrefixFree)
    (known : u.hasValidCountryCallingCode (some code)) (encoded : isEncoded s)
    (valid : ∀ digits ∈ extension, isExtension digits)
    (spelled : s.filter isAsciiDigit = stringValue code ++ digits) (areDigits : digits.all isAsciiDigit)
    (some_digits : MIN_LENGTH_FOR_NSN ≤ digits.length)
    (strips : ∀ metadata phoneNumber, u.ResolvedMetadata code metadata →
      u.stripForParsing digits metadata false phoneNumber = .ok (rest, phoneNumber))
    (long : MIN_LENGTH_FOR_NSN ≤ rest.length) (short : rest.length ≤ MAX_LENGTH_FOR_NSN)
    (defaultRegion : Option NSString) :
    u.parseViable (s ++ extensionText extension) defaultRegion false {} =
      .ok (.ok (u.numberOf (some code) rest extension)) := by
  have extended : withExtension (extension.getD []) {} = { extension } := by
    rw [withExtension_eq]
    cases extension with
    | none => rfl
    | some text =>
      have positive : text.length > 0 := (isExtension_iff.mp (valid text rfl)).2.1
      rw [Option.getD_some, if_pos positive]
  have resolves : ∃ metadata, u.resolveRegion s defaultRegion (u.getMetadataForRegion defaultRegion) false
      ⟨some code, digits, { countryCode := some code, extension }, none⟩ =
        (digits, metadata, { countryCode := some code, extension }) ∧ u.ResolvedMetadata code metadata :=
    resolveRegion_code (codes.positive code known) s defaultRegion { countryCode := some code, extension }
  obtain ⟨metadata, resolved, main⟩ := resolves
  unfold parseViable
  rw [maybeStripExtension_encoded law encoded valid]
  simp only [bind, Except.bind, extended]
  rw [extractForParsing_encoded law codes known encoded spelled areDigits]
  simp only [resolved, strips metadata _ main]
  rw [if_neg (Nat.not_lt.mpr some_digits), if_neg (Nat.not_lt.mpr long), if_neg (Nat.not_lt.mpr short)]
  rfl

/-- What is written for a number is parsed to the number of its digits without their
national prefix, whatever the default region. -/
theorem parse_encoded (law : u.EncodedExpressions) (codes : u.PrefixFree)
    (known : u.hasValidCountryCallingCode (some code)) (writes : Writes before s extension)
    (fits : (before ++ (s ++ extensionText extension)).length ≤ MAX_INPUT_STRING_LENGTH)
    (spelled : s.filter isAsciiDigit = stringValue code ++ digits) (areDigits : digits.all isAsciiDigit)
    (some_digits : MIN_LENGTH_FOR_NSN ≤ digits.length)
    (strips : ∀ metadata phoneNumber, u.ResolvedMetadata code metadata →
      u.stripForParsing digits metadata false phoneNumber = .ok (rest, phoneNumber))
    (long : MIN_LENGTH_FOR_NSN ≤ rest.length) (short : rest.length ≤ MAX_LENGTH_FOR_NSN)
    (defaultRegion : Option NSString) :
    u.parse (some (before ++ (s ++ extensionText extension))) defaultRegion =
      .ok ⟨some (u.numberOf (some code) rest extension), none⟩ := by
  obtain ⟨encoded, same⟩ := isEncoded_cleaned writes.encoded extension
  have viable := isViablePhoneNumber_encoded law encoded writes.valid
  have region : u.checkRegionForParsing (cleaned s extension ++ extensionText extension) defaultRegion = true := by
    obtain ⟨body, start, _, _⟩ := isEncoded_iff.mp encoded
    unfold checkRegionForParsing
    rw [isStartingStringByRegex_leadingPlus law.leadingPlus, start]
    have plus : Option.any isPlusChar (43 :: body ++ extensionText extension).head? = true := by
      have first : isPlusChar 43 = true := by decide
      simpa using first
    rw [plus]
    simp
  have given : (some (before ++ (s ++ extensionText extension))).map u.normalizeNonBreakingSpace =
      some (before ++ (s ++ extensionText extension)) := by
    rw [Option.map_some, writes.normalized]
  unfold parse
  rw [parseHelper_of_viable given fits (writes.built law) viable fun _ => region, if_neg Bool.false_ne_true,
    parseViable_encoded law codes known encoded writes.valid (same.trans spelled) areDigits some_digits strips long short]
  rfl

/-- Digits that the main region keeps are parsed as they are. -/
theorem parse_kept (law : u.EncodedExpressions) (codes : u.PrefixFree)
    (known : u.hasValidCountryCallingCode (some code)) (writes : Writes before s extension)
    (fits : (before ++ (s ++ extensionText extension)).length ≤ MAX_INPUT_STRING_LENGTH)
    (spelled : s.filter isAsciiDigit = stringValue code ++ digits) (areDigits : digits.all isAsciiDigit)
    (long : MIN_LENGTH_FOR_NSN ≤ digits.length) (short : digits.length ≤ MAX_LENGTH_FOR_NSN)
    (keeps : ∀ main, u.MainMetadata code main → ∃ rule, u.KeepsNumber main digits rule)
    (defaultRegion : Option NSString) :
    u.parse (some (before ++ (s ++ extensionText extension))) defaultRegion =
      .ok ⟨some (u.numberOf (some code) digits extension), none⟩ := by
  have some_digits : digits ≠ [] := by
    rintro rfl
    exact absurd long (by decide)
  have strips (metadata : Option NBPhoneMetaData) (phoneNumber : NBPhoneNumber)
      (resolved : u.ResolvedMetadata code metadata) :
      u.stripForParsing digits metadata false phoneNumber = .ok (digits, phoneNumber) := by
    refine stripForParsing_of_keeps areDigits some_digits ?_ phoneNumber
    rintro main rfl
    exact keeps main resolved
  exact parse_encoded law codes known writes fits spelled areDigits long strips long short defaultRegion

end Parsed

end NBPhoneNumberUtil

end SignalPods.PhoneNumber
