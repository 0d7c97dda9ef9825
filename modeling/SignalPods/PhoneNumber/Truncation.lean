import SignalPods.PhoneNumber.RoundTrip
import SignalPods.PhoneNumber.NumberLengths
import SignalPods.Foundation.Doubles

namespace SignalPods.PhoneNumber

open Foundation

/-- The number without its last digit: the quotient is whole, but it passes through a `double`. -/
def dropDigit (nationalNumber : Nat) : Nat := doubleValue (nationalNumber / 10)

section Digits

theorem dropDigit_le (n : Nat) : dropDigit n ≤ n / 5 := by
  have bound := doubleValue_le (n / 10)
  unfold dropDigit
  omega

/-- A quotient of doubles beside the true one: what the last rounding adds is
little for a large number, and nothing for a small one. -/
structure Tracks (quotient truncation : Nat) : Prop where
  small : truncation < 2 ^ 63
  above : quotient ≤ truncation + min 200 (1 + truncation / 2 ^ 40)
  below : truncation ≤ quotient + min 200 (1 + truncation / 2 ^ 40)

theorem Tracks.dropDigit {quotient truncation : Nat} (tracks : Tracks quotient truncation) :
    Tracks (dropDigit quotient) (truncation / 10) := by
  obtain ⟨small, above, below⟩ := tracks
  by_cases exact : quotient / 10 < 2 ^ 53
  · have same : PhoneNumber.dropDigit quotient = quotient / 10 := doubleValue_of_lt exact
    rw [same]
    constructor <;> omega
  · have near : PhoneNumber.dropDigit quotient ≤ quotient / 10 + 64 ∧ quotient / 10 ≤ PhoneNumber.dropDigit quotient + 64 :=
      doubleValue_near (by omega)
    constructor <;> omega

theorem truncation_succ (n i : Nat) : n / 10 ^ (i + 1) = n / 10 ^ i / 10 := by
  rw [Nat.pow_succ, Nat.div_div_eq_div_mul]

theorem tracks_iterate {n : Nat} (bound : n < 2 ^ 63) (i : Nat) : Tracks (dropDigit^[i] n) (n / 10 ^ i) := by
  induction i with
  | zero => exact ⟨by simpa using bound, by simp, by simp⟩
  | succ i ih =>
    rw [Function.iterate_succ_apply', truncation_succ]
    exact ih.dropDigit

theorem iterate_dropDigit_le (n i d : Nat) : dropDigit^[i + d] n ≤ dropDigit^[i] n := by
  induction d with
  | zero => exact le_rfl
  | succ d ih =>
    have step := dropDigit_le (dropDigit^[i + d] n)
    rw [← Nat.add_assoc, Function.iterate_succ_apply']
    omega

/-- Below the numbers that a double has no room for the quotients are the true ones. -/
theorem iterate_dropDigit_of_lt {n : Nat} (bound : n < 10 * 2 ^ 53) (i : Nat) : dropDigit^[i] n = n / 10 ^ i := by
  induction i with
  | zero => exact (Nat.div_one n).symm
  | succ i ih =>
    have few : n / 10 ^ i ≤ n := Nat.div_le_self _ _
    rw [Function.iterate_succ_apply', ih, truncation_succ]
    exact doubleValue_of_lt (by omega)

/-- A quotient of doubles is no truncation but the one of as many digits. -/
theorem eq_of_iterate_eq {n i j : Nat} (bound : n < 2 ^ 63) (same : dropDigit^[i] n = n / 10 ^ j) (some : n / 10 ^ j ≠ 0) :
    i = j := by
  have tracks := tracks_iterate bound
  rcases Nat.lt_trichotomy i j with less | equal | greater
  · -- the later truncation is a tenth at most
    obtain ⟨d, rfl⟩ := Nat.exists_eq_add_of_lt less
    have tenth : n / 10 ^ (i + d + 1) ≤ n / 10 ^ i / 10 := by
      rw [truncation_succ]
      exact Nat.div_le_div_right (Nat.div_le_div_left (Nat.pow_le_pow_right (by omega) (by omega)) (Nat.pow_pos (by omega)))
    have near := (tracks i).below
    omega
  · exact equal
  · -- and the later quotient a fifth
    obtain ⟨d, rfl⟩ := Nat.exists_eq_add_of_lt greater
    have fifth : dropDigit^[j + d + 1] n ≤ dropDigit^[j] n / 5 := by
      have first := iterate_dropDigit_le n (j + 1) d
      have step := dropDigit_le (dropDigit^[j] n)
      rw [Function.iterate_succ_apply'] at first
      rw [Nat.add_right_comm]
      omega
    have near := (tracks j).above
    omega

end Digits

/-- A longer number has no fewer digits. -/
theorem length_decimalDigits_le {m n : Nat} (less : m ≤ n) : (decimalDigits m).length ≤ (decimalDigits n).length := by
  have digits (n : Nat) (some : n ≠ 0) : (decimalDigits n).length = (Nat.digits 10 n).length := by
    unfold decimalDigits
    rw [if_neg some, List.length_map, List.length_reverse]
  by_cases zero : m = 0
  · rw [zero]
    exact List.length_pos_of_ne_nil (decimalDigits_ne_nil n)
  · rw [digits m zero, digits n (by omega)]
    exact Nat.le_length_digits_le 10 m n less

namespace NBPhoneNumber

def withNationalNumber (number : NBPhoneNumber) (nationalNumber : Nat) : NBPhoneNumber :=
  { number with nationalNumber := some nationalNumber }

theorem withNationalNumber_self {number : NBPhoneNumber} {n : Nat} (national : number.nationalNumber = some (n : Int)) :
    number.withNationalNumber n = number := by
  unfold withNationalNumber
  rw [← national]

theorem withNationalNumber_inj {number : NBPhoneNumber} {m n : Nat}
    (same : number.withNationalNumber m = number.withNationalNumber n) : m = n :=
  Int.ofNat.inj (Option.some.inj (congrArg NBPhoneNumber.nationalNumber same))

theorem length_nationalSignificantNumber_le (number : NBPhoneNumber) {m n : Nat} (less : m ≤ n) :
    (getNationalSignificantNumber (number.withNationalNumber m)).length ≤
      (getNationalSignificantNumber (number.withNationalNumber n)).length := by
  have digits (n : Nat) : stringValue (n : Int) = decimalDigits n := if_neg (by omega)
  have few : (stringValue (m : Int)).length ≤ (stringValue (n : Int)).length := by
    rw [digits, digits]
    exact length_decimalDigits_le less
  unfold getNationalSignificantNumber withNationalNumber formatted
  dsimp only [Option.map_some, Option.getD_some]
  split
  · rw [List.length_append, List.length_append]
    omega
  · exact few

end NBPhoneNumber

namespace NBPhoneNumberUtil

variable (u : NBPhoneNumberUtil)

def isPossibleNumberWithReason (number : NBPhoneNumber) : Objc NBEValidationResult :=
  let nationalNumber := getNationalSignificantNumber number
  let countryCode := number.countryCode
  if !u.hasValidCountryCallingCode countryCode then .ok .INVALID_COUNTRY_CODE
  else
    let regionCode := u.getRegionCodeForCountryCode countryCode
    let metadata := u.getMetadataForRegionOrCallingCode countryCode (some regionCode)
    testNumberLength nationalNumber (metadata.getD {}).generalDesc

/-- The loop of `truncateTooLongNumber`, from the last national number that was not valid. -/
def truncateFrom (number : NBPhoneNumber) (nationalNumber : Nat) : Objc (Option Nat) :=
  let next := dropDigit nationalNumber
  let numberCopy := number.withNationalNumber next
  if next = 0 then .ok none
  else do
    if (← u.isPossibleNumberWithReason numberCopy) = .TOO_SHORT then return none
    else if ← u.isValidNumber numberCopy then return some next
    else truncateFrom number next
termination_by nationalNumber
decreasing_by
  have less := dropDigit_le nationalNumber
  omega

/-- The answer, and the number as it is left. -/
def truncateTooLongNumber (number : NBPhoneNumber) : Objc (Bool × NBPhoneNumber) := do
  if ← u.isValidNumber number then return (true, number)
  else
    match ← u.truncateFrom number (nsUInteger (number.nationalNumber.getD 0)) with
    | none => return (false, number)
    | some nationalNumber => return (true, number.withNationalNumber nationalNumber)

/-- General patterns are present, general lengths are in order, and those of a region
are among those of the main region of its calling code. -/
structure GeneralLengths (u : NBPhoneNumberUtil) : Prop where
  pattern : ∀ regionCode metadata, u.getMetadataForRegion regionCode = some metadata →
    hasValue metadata.generalDesc.nationalNumberPattern
  are : ∀ regionCode metadata, u.getMetadataForRegion regionCode = some metadata → AreLengths metadata.generalDesc.lengths
  listed : ∀ regionCode metadata, u.getMetadataForRegion regionCode = some metadata → metadata.generalDesc.lengths ≠ []
  main : ∀ countryCode regionCodes, u.regionCodeFromCountryCode countryCode = some regionCodes →
    ∀ regionCode ∈ regionCodes, ∀ metadata main,
      u.getMetadataForRegionOrCallingCode countryCode (some regionCode) = some metadata →
      u.getMetadataForRegionOrCallingCode countryCode (some (u.getRegionCodeForCountryCode countryCode)) = some main →
      ∀ n ∈ metadata.generalDesc.lengths, n ∈ main.generalDesc.lengths

variable {u}

section Lengths

theorem getMetadataForRegionOrCallingCode_region (u : NBPhoneNumberUtil) (countryCode : Option Int)
    (regionCode : Option NSString) :
    ∃ region, u.getMetadataForRegionOrCallingCode countryCode regionCode = u.getMetadataForRegion region := by
  unfold getMetadataForRegionOrCallingCode
  split
  · exact ⟨_, rfl⟩
  · exact ⟨_, rfl⟩

/-- What is too short is shorter than every length. -/
theorem lt_of_testNumberLength {number : NSString} {desc : NBPhoneNumberDesc} (are : AreLengths desc.lengths)
    (short : testNumberLength number desc = .ok .TOO_SHORT) : ∀ n ∈ desc.lengths, 0 ≤ n → number.length < n := by
  intro n member natural
  have sorted : desc.lengths.Pairwise (· ≤ ·) ∧ ∀ n ∈ desc.lengths, 0 ≤ n ∧ n < 2 ^ 64 := by
    refine are.resolve_left fun none => ?_
    rw [none] at member
    have negative := List.mem_singleton.mp member
    omega
  obtain ⟨sorted, bounds⟩ := sorted
  unfold NBPhoneNumberDesc.lengths at sorted bounds member
  unfold testNumberLength at short
  dsimp only at short
  split at short
  · cases short
  split at short
  · split at short <;> cases short
  · cases short
  · rename_i minimumLength longer listed
    rw [listed, Option.getD_some] at sorted bounds member
    have first : (unsignedIntegerValue minimumLength : Int) = minimumLength := by
      have bound := bounds minimumLength List.mem_cons_self
      unfold unsignedIntegerValue nsUInteger
      omega
    have least : minimumLength ≤ n := by
      rcases List.mem_cons.mp member with same | later
      · exact same.ge
      · exact (List.pairwise_cons.mp sorted).1 n later
    split at short
    · cases short
    split at short
    · omega
    split at short
    · cases short
    split at short <;> cases short

/-- A number that is valid for a region has one of its lengths. -/
theorem length_of_isValidNumberForRegion (lengths : u.GeneralLengths) {number : NBPhoneNumber} {regionCode : Option NSString}
    (valid : u.isValidNumberForRegion number regionCode = .ok true) :
    ∃ metadata, u.getMetadataForRegionOrCallingCode number.countryCode regionCode = some metadata ∧
      ((getNationalSignificantNumber number).length : Int) ∈ metadata.generalDesc.lengths := by
  obtain ⟨region, looked⟩ := getMetadataForRegionOrCallingCode_region u number.countryCode regionCode
  unfold isValidNumberForRegion at valid
  cases found : u.getMetadataForRegionOrCallingCode number.countryCode regionCode with
  | none =>
    rw [found] at valid
    cases valid
  | some metadata =>
    rw [found] at looked valid
    have present := lengths.pattern region metadata looked.symm
    have listed := lengths.listed region metadata looked.symm
    dsimp only at valid
    split at valid
    · cases valid
    rw [present] at valid
    obtain ⟨type, typed, known⟩ := bind_eq_ok_iff.mp valid
    refine ⟨metadata, rfl, ?_⟩
    unfold getNumberTypeHelper at typed
    obtain ⟨general, matched, typed⟩ := bind_eq_ok_iff.mp typed
    rw [Option.getD_some] at matched
    cases general with
    | false =>
      obtain rfl := Except.ok.inj typed
      cases known
    | true =>
      unfold isNumberMatchingDesc at matched
      dsimp only at matched
      split at matched
      · cases matched
      · rename_i fits
        unfold NBPhoneNumberDesc.lengths at listed ⊢
        by_contra absent
        apply fits
        simpa [absent] using listed

/-- Where a number is too short none with as few digits is valid. -/
theorem not_valid_of_tooShort (lengths : u.GeneralLengths) {shorter longer : NBPhoneNumber}
    (code : shorter.countryCode = longer.countryCode)
    (few : (getNationalSignificantNumber shorter).length ≤ (getNationalSignificantNumber longer).length)
    (short : u.isPossibleNumberWithReason longer = .ok .TOO_SHORT) : u.isValidNumber shorter ≠ .ok true := by
  intro valid
  obtain ⟨regionCodes, regions, regionCode, member, valid⟩ := validForRegion_of_isValidNumber valid
  obtain ⟨metadata, found, length⟩ := length_of_isValidNumberForRegion lengths valid
  unfold isPossibleNumberWithReason at short
  dsimp only at short
  split at short
  · cases short
  cases looked : u.getMetadataForRegionOrCallingCode longer.countryCode
      (some (u.getRegionCodeForCountryCode longer.countryCode)) with
  | none =>
    rw [looked] at short
    unfold testNumberLength at short
    dsimp only [Option.getD_none] at short
    split at short
    · cases short
    · split at short <;> cases short
  | some main =>
    obtain ⟨region, same⟩ := getMetadataForRegionOrCallingCode_region u longer.countryCode
      (some (u.getRegionCodeForCountryCode longer.countryCode))
    rw [looked] at short same
    rw [code] at found regions
    have included := lengths.main _ regionCodes regions regionCode member metadata main found looked _ length
    have less := lt_of_testNumberLength (lengths.are region main same.symm) short _ included (by omega)
    omega

/-- The verdict on a length is always reached. -/
theorem returns_isPossibleNumberWithReason (lengths : u.GeneralLengths) (number : NBPhoneNumber) :
    Returns (u.isPossibleNumberWithReason number) := by
  unfold isPossibleNumberWithReason
  dsimp only
  split
  · exact returns_ok _
  cases looked : u.getMetadataForRegionOrCallingCode number.countryCode
      (some (u.getRegionCodeForCountryCode number.countryCode)) with
  | none =>
    unfold testNumberLength
    dsimp only [Option.getD_none]
    split
    · exact returns_ok _
    · exact returns_ok _
  | some main =>
    obtain ⟨region, same⟩ := getMetadataForRegionOrCallingCode_region u number.countryCode
      (some (u.getRegionCodeForCountryCode number.countryCode))
    rw [looked] at same
    have listed := lengths.listed region main same.symm
    unfold NBPhoneNumberDesc.lengths at listed
    rw [Option.getD_some]
    unfold testNumberLength
    dsimp only
    split
    · exact returns_ok _
    split
    · exact returns_ok _
    · rename_i none
      rw [none] at listed
      exact absurd rfl listed
    · repeat' split
      all_goals exact returns_ok _

end Lengths

section Run

/-- The loop gives up on a national number that is zero or too short. -/
def GivesUp (u : NBPhoneNumberUtil) (number : NBPhoneNumber) (x : Nat) : Prop :=
  x = 0 ∨ u.isPossibleNumberWithReason (number.withNationalNumber x) = .ok .TOO_SHORT

/-- The loop goes past a national number that is possible but not valid. -/
def Passes (u : NBPhoneNumberUtil) (number : NBPhoneNumber) (x : Nat) : Prop :=
  ¬ u.GivesUp number x ∧ u.isValidNumber (number.withNationalNumber x) = .ok false

/-- How the loop ends at a national number. -/
inductive EndsAt (u : NBPhoneNumberUtil) (number : NBPhoneNumber) (x : Nat) : Objc (Option Nat) → Prop
  | givesUp : u.GivesUp number x → EndsAt u number x (.ok none)
  | finds : ¬ u.GivesUp number x → u.isValidNumber (number.withNationalNumber x) = .ok true →
      EndsAt u number x (.ok (some x))
  | raises (exception : NSException) : ¬ u.GivesUp number x → ¬ Returns (u.isValidNumber (number.withNationalNumber x)) →
      EndsAt u number x (.error exception)

/-- One pass of the loop ends it, or goes on from the quotient. -/
theorem truncateFrom_step (lengths : u.GeneralLengths) (number : NBPhoneNumber) (n : Nat) :
    EndsAt u number (dropDigit n) (u.truncateFrom number n) ∨
      u.Passes number (dropDigit n) ∧ u.truncateFrom number n = u.truncateFrom number (dropDigit n) := by
  rw [truncateFrom]
  generalize u.truncateFrom number (dropDigit n) = rest
  generalize dropDigit n = next
  by_cases zero : next = 0
  · rw [if_pos zero]
    exact Or.inl (.givesUp (Or.inl zero))
  rw [if_neg zero]
  obtain ⟨verdict, judged⟩ := returns_isPossibleNumberWithReason lengths (number.withNationalNumber next)
  rw [judged]
  simp only [bind, Except.bind]
  by_cases short : verdict = .TOO_SHORT
  · rw [if_pos short]
    exact Or.inl (.givesUp (Or.inr (short ▸ judged)))
  rw [if_neg short]
  have tried : ¬ u.GivesUp number next := by
    rintro (none | tooShort)
    · exact zero none
    · exact short (Except.ok.inj (judged.symm.trans tooShort))
  cases decided : u.isValidNumber (number.withNationalNumber next) with
  | error exception =>
    have raised : ¬ Returns (u.isValidNumber (number.withNationalNumber next)) := by
      rw [decided]
      exact not_returns_error exception
    exact Or.inl (.raises exception tried raised)
  | ok valid =>
    cases valid with
    | true => exact Or.inl (.finds tried decided)
    | false => exact Or.inr ⟨⟨tried, decided⟩, rfl⟩

/-- The loop goes past some quotients and ends at the next one. -/
theorem truncateFrom_ends (lengths : u.GeneralLengths) (number : NBPhoneNumber) (n : Nat) :
    ∃ passed, (∀ i < passed, u.Passes number (dropDigit^[i + 1] n)) ∧
      EndsAt u number (dropDigit^[passed + 1] n) (u.truncateFrom number n) := by
  induction n using Nat.strong_induction_on with
  | _ n ih =>
  rcases truncateFrom_step lengths number n with ends | ⟨passes, same⟩
  · exact ⟨0, fun i absent => absurd absent (Nat.not_lt_zero i), ends⟩
  · have some : dropDigit n ≠ 0 := fun zero => passes.1 (Or.inl zero)
    have less := dropDigit_le n
    obtain ⟨passed, before, ends⟩ := ih (dropDigit n) (by omega)
    refine ⟨passed + 1, ?_, ?_⟩
    · intro i bound
      cases i with
      | zero => exact passes
      | succ i => exact before i (by omega)
    · rw [same]
      exact ends

/-- A national number that is not zero, unless it is the number's own, and valid. -/
def IsValidAt (u : NBPhoneNumberUtil) (number : NBPhoneNumber) (i x : Nat) : Prop :=
  (i ≠ 0 → x ≠ 0) ∧ u.isValidNumber (number.withNationalNumber x) = .ok true

/-- So many digits fewer make the number valid, and not fewer of them. -/
def LeastDropped (u : NBPhoneNumberUtil) (number : NBPhoneNumber) (n i : Nat) : Prop :=
  u.IsValidAt number i (n / 10 ^ i) ∧ ∀ j < i, ¬ u.IsValidAt number j (n / 10 ^ j)

/-- The number is cut to its longest valid prefix, or left as it is if it has none. -/
def FindsLongest (u : NBPhoneNumberUtil) (number : NBPhoneNumber) (n : Nat) : Prop :=
  ∃ answer left, u.truncateTooLongNumber number = .ok (answer, left) ∧
    (answer = true ↔ ∃ i, u.IsValidAt number i (n / 10 ^ i)) ∧
    (∀ i, u.LeastDropped number n i → left = number.withNationalNumber (n / 10 ^ i)) ∧
    (answer = false → left = number)

/-- The loop comes to the quotient if it has found none before. -/
def Tried (u : NBPhoneNumberUtil) (number : NBPhoneNumber) (n i : Nat) : Prop :=
  ∀ j < i, ¬ u.GivesUp number (dropDigit^[j + 1] n)

/-- Up to the longest valid prefix the quotients of doubles are the true truncations
or neither is valid, and where the loop comes to one nothing is raised. -/
structure DividesExactly (u : NBPhoneNumberUtil) (number : NBPhoneNumber) (n : Nat) : Prop where
  exact : ∀ i, (∀ j < i, ¬ u.IsValidAt number j (n / 10 ^ j)) →
    dropDigit^[i] n = n / 10 ^ i ∨ ¬ u.IsValidAt number i (dropDigit^[i] n) ∧ ¬ u.IsValidAt number i (n / 10 ^ i)
  returns : ∀ i, (∀ j < i, ¬ u.IsValidAt number j (n / 10 ^ j)) → u.Tried number n i →
    Returns (u.isValidNumber (number.withNationalNumber (dropDigit^[i] n)))

/-- How a run ends at a quotient, the number's own national number being the first. -/
inductive RunEnds (u : NBPhoneNumberUtil) (number : NBPhoneNumber) (n i : Nat) : Objc (Bool × NBPhoneNumber) → Prop
  | givesUp : 0 < i → u.GivesUp number (dropDigit^[i] n) → RunEnds u number n i (.ok (false, number))
  | finds : u.IsValidAt number i (dropDigit^[i] n) →
      RunEnds u number n i (.ok (true, number.withNationalNumber (dropDigit^[i] n)))
  | raises (exception : NSException) : u.Tried number n i →
      ¬ Returns (u.isValidNumber (number.withNationalNumber (dropDigit^[i] n))) → RunEnds u number n i (.error exception)

variable {number : NBPhoneNumber} {n : Nat}

theorem truncateTooLongNumber_ends (lengths : u.GeneralLengths) (national : number.nationalNumber = some (n : Int))
    (bound : n < 2 ^ 63) :
    ∃ i, (∀ j < i, u.isValidNumber (number.withNationalNumber (dropDigit^[j] n)) = .ok false) ∧
      RunEnds u number n i (u.truncateTooLongNumber number) := by
  have own : number.withNationalNumber (dropDigit^[0] n) = number := NBPhoneNumber.withNationalNumber_self national
  have start : nsUInteger (number.nationalNumber.getD 0) = n := by
    rw [national, Option.getD_some]
    unfold nsUInteger
    omega
  unfold truncateTooLongNumber
  rw [start]
  cases decided : u.isValidNumber number with
  | error exception =>
    refine ⟨0, fun j absent => absurd absent (Nat.not_lt_zero j), .raises exception ?_ ?_⟩
    · intro j absent
      omega
    · rw [own, decided]
      exact not_returns_error exception
  | ok valid =>
    cases valid with
    | true =>
      have found : RunEnds u number n 0 (.ok (true, number.withNationalNumber (dropDigit^[0] n))) :=
        .finds ⟨fun absent => absurd rfl absent, own.symm ▸ decided⟩
      rw [own] at found
      exact ⟨0, fun j absent => absurd absent (Nat.not_lt_zero j), found⟩
    | false =>
      obtain ⟨passed, before, ends⟩ := truncateFrom_ends lengths number n
      have tried (more : ¬ u.GivesUp number (dropDigit^[passed + 1] n)) : u.Tried number n (passed + 1) := by
        intro j less
        rcases Nat.lt_succ_iff_lt_or_eq.mp less with earlier | rfl
        · exact (before j earlier).1
        · exact more
      refine ⟨passed + 1, ?_, ?_⟩
      · intro j less
        cases j with
        | zero =>
          rw [own]
          exact decided
        | succ j => exact (before j (by omega)).2
      · generalize u.truncateFrom number n = result at ends ⊢
        cases ends with
        | givesUp stops => exact .givesUp (Nat.succ_pos passed) stops
        | finds more found => exact .finds ⟨fun _ zero => more (Or.inl zero), found⟩
        | raises exception more raised => exact .raises exception (tried more) raised

/-- Where the loop gives up none of the later quotients is valid. -/
theorem GivesUp.not_valid (lengths : u.GeneralLengths) {i j : Nat} (stops : u.GivesUp number (dropDigit^[i] n))
    (positive : 0 < i) (later : i ≤ j) : ¬ u.IsValidAt number j (dropDigit^[j] n) := by
  rintro ⟨some, valid⟩
  obtain ⟨d, rfl⟩ := Nat.exists_eq_add_of_le later
  have less := iterate_dropDigit_le n i d
  rcases stops with zero | short
  · have nonzero := some (by omega)
    omega
  · have code : (number.withNationalNumber (dropDigit^[i + d] n)).countryCode =
        (number.withNationalNumber (dropDigit^[i] n)).countryCode := rfl
    exact not_valid_of_tooShort lengths code (number.length_nationalSignificantNumber_le less) short valid

theorem LeastDropped.eq {i j : Nat} (first : u.LeastDropped number n i) (second : u.LeastDropped number n j) : i = j := by
  rcases Nat.lt_trichotomy i j with less | same | greater
  · exact absurd first.1 (second.2 i less)
  · exact same
  · exact absurd second.1 (first.2 j greater)

theorem findsLongest_of_dividesExactly (lengths : u.GeneralLengths) (national : number.nationalNumber = some (n : Int))
    (bound : n < 2 ^ 63) (divides : u.DividesExactly number n) : u.FindsLongest number n := by
  obtain ⟨i, before, ends⟩ := truncateTooLongNumber_ends lengths national bound
  -- the truncations that come before the end are no more valid than the quotients
  have none_before : ∀ j < i, ¬ u.IsValidAt number j (n / 10 ^ j) := by
    intro j
    induction j using Nat.strong_induction_on with
    | _ j ih =>
    intro less valid
    rcases divides.exact j fun k earlier => ih k earlier (earlier.trans less) with same | ⟨_, invalid⟩
    · have passed := (before j less).symm.trans (same ▸ valid.2)
      cases passed
    · exact invalid valid
  unfold FindsLongest
  generalize u.truncateTooLongNumber number = result at ends ⊢
  cases ends with
  | givesUp positive stops =>
    have none_valid : ∀ j, ¬ u.IsValidAt number j (n / 10 ^ j) := by
      intro j
      induction j using Nat.strong_induction_on with
      | _ j ih =>
      intro valid
      rcases divides.exact j ih with same | ⟨_, invalid⟩
      · by_cases less : j < i
        · exact none_before j less valid
        · exact stops.not_valid lengths positive (Nat.le_of_not_lt less) (same ▸ valid)
      · exact invalid valid
    refine ⟨false, number, rfl, ?_, ?_, fun _ => rfl⟩
    · exact iff_of_false Bool.false_ne_true fun ⟨j, valid⟩ => none_valid j valid
    · intro j least
      exact absurd least.1 (none_valid j)
  | finds valid =>
    have same : dropDigit^[i] n = n / 10 ^ i := by
      rcases divides.exact i none_before with same | ⟨invalid, _⟩
      · exact same
      · exact absurd valid invalid
    rw [same] at valid ⊢
    refine ⟨true, _, rfl, iff_of_true rfl ⟨i, valid⟩, ?_, fun absent => absurd absent (by decide)⟩
    intro j least
    rw [LeastDropped.eq least ⟨valid, none_before⟩]
  | raises exception tried raised => exact absurd (divides.returns i none_before tried) raised

theorem dividesExactly_of_findsLongest (lengths : u.GeneralLengths) (national : number.nationalNumber = some (n : Int))
    (bound : n < 2 ^ 63) (finds : u.FindsLongest number n) : u.DividesExactly number n := by
  obtain ⟨i, before, ends⟩ := truncateTooLongNumber_ends lengths national bound
  obtain ⟨answer, left, ran, yes, longest, no⟩ := finds
  have not_before : ∀ j < i, ¬ u.IsValidAt number j (dropDigit^[j] n) := by
    intro j less valid
    have passed := (before j less).symm.trans valid.2
    cases passed
  rw [ran] at ends
  cases ends with
  | givesUp positive stops =>
    have none_valid (j : Nat) : ¬ u.IsValidAt number j (n / 10 ^ j) := fun valid => Bool.false_ne_true (yes.mpr ⟨j, valid⟩)
    constructor
    · intro j _
      refine Or.inr ⟨?_, none_valid j⟩
      by_cases less : j < i
      · exact not_before j less
      · exact stops.not_valid lengths positive (Nat.le_of_not_lt less)
    · intro j _ tried
      by_cases less : j < i
      · exact ⟨false, before j less⟩
      · have more := tried (i - 1) (by omega)
        rw [Nat.sub_add_cancel positive] at more
        exact absurd stops more
  | finds valid =>
    have some_valid : ∃ k, u.IsValidAt number k (n / 10 ^ k) := yes.mp rfl
    -- the least truncation that is valid is the quotient that was found
    obtain ⟨k, least⟩ : ∃ k, u.LeastDropped number n k := by
      classical
      exact ⟨Nat.find some_valid, Nat.find_spec some_valid, fun j less => Nat.find_min some_valid less⟩
    have same : dropDigit^[i] n = n / 10 ^ k := NBPhoneNumber.withNationalNumber_inj (longest k least)
    have index : i = k := by
      by_cases zero : k = 0
      · have own := least.1
        rw [zero, Nat.pow_zero, Nat.div_one] at own
        by_contra positive
        exact not_before 0 (by omega) own
      · exact eq_of_iterate_eq bound same (least.1.1 zero)
    rw [← index] at least same
    have upto (j : Nat) (none_before : ∀ k < j, ¬ u.IsValidAt number k (n / 10 ^ k)) : j < i ∨ j = i := by
      by_contra later
      exact none_before i (by omega) least.1
    constructor
    · intro j none_before
      rcases upto j none_before with less | rfl
      · exact Or.inr ⟨not_before j less, least.2 j less⟩
      · exact Or.inl same
    · intro j none_before _
      rcases upto j none_before with less | rfl
      · exact ⟨false, before j less⟩
      · exact ⟨true, valid.2⟩

/-- The longest valid prefix is found exactly where the quotients of doubles are the
true ones as far as they matter. -/
theorem truncates_to_longest_iff (lengths : u.GeneralLengths) (written : number.Written n) (bound : n < 2 ^ 63) :
    u.FindsLongest number n ↔ u.DividesExactly number n :=
  ⟨dividesExactly_of_findsLongest lengths written.national bound,
    findsLongest_of_dividesExactly lengths written.national bound⟩

end Run

section Measured

/-- The metadata of a region with one number, whose length is listed. -/
def measuredNumber (number : NSString) : NBPhoneMetaData :=
  { soleNumber number none none [] with
    generalDesc := { nationalNumberPattern := some number, possibleLength := some [number.length] } }

def measuredRegion (number : NSString) : NBPhoneNumberUtil := literalRegion [] (fun _ => none) (measuredNumber number)

def measured (nationalNumber : Nat) : NBPhoneNumber := { countryCode := some 1, nationalNumber := some nationalNumber }

variable {number : NSString} (literal : IsLiteral [] number)

include literal

theorem measuredRegion_isValidNumber {phoneNumber : NBPhoneNumber} (coded : phoneNumber.countryCode = some 1) :
    (measuredRegion number).isValidNumber phoneNumber =
      .ok (decide (number = getNationalSignificantNumber phoneNumber)) := by
  have decides : (measuredRegion number).isNumberMatchingDesc (getNationalSignificantNumber phoneNumber)
      { nationalNumberPattern := some number, possibleLength := some [number.length] } =
        .ok (decide (number = getNationalSignificantNumber phoneNumber)) := by
    unfold isNumberMatchingDesc
    dsimp only [Option.getD_some]
    split
    · rename_i misfit
      have different : number ≠ getNationalSignificantNumber phoneNumber := by
        rintro same
        rw [← same] at misfit
        simp at misfit
      rw [decide_eq_false different]
    · exact congrArg Except.ok (literalRegion_matchesPattern literal.plain literal.named literal.other literal.apart)
  exact (literalRegion_isValidNumber coded).trans (literalRegion_isValidNumberForRegion literal rfl rfl coded
    (literalRegion_getNumberTypeHelper literal decides))

theorem measuredRegion_lengths (short : number.length < 2 ^ 64) : (measuredRegion number).GeneralLengths where
  pattern regionCode metadata looked := by
    obtain rfl := eq_of_literalRegion_getMetadataForRegion looked
    exact literal.value
  are regionCode metadata looked := by
    obtain rfl := eq_of_literalRegion_getMetadataForRegion looked
    refine Or.inr ⟨List.pairwise_singleton _ _, fun n member => ?_⟩
    obtain rfl := List.mem_singleton.mp member
    omega
  listed regionCode metadata looked := by
    obtain rfl := eq_of_literalRegion_getMetadataForRegion looked
    exact List.cons_ne_nil _ _
  main countryCode regionCodes regions regionCode member metadata main looked isMain := by
    obtain ⟨region, same⟩ := getMetadataForRegionOrCallingCode_region (measuredRegion number) countryCode (some regionCode)
    obtain ⟨region', same'⟩ := getMetadataForRegionOrCallingCode_region (measuredRegion number) countryCode
      (some ((measuredRegion number).getRegionCodeForCountryCode countryCode))
    obtain rfl := eq_of_literalRegion_getMetadataForRegion (same.symm.trans looked)
    obtain rfl := eq_of_literalRegion_getMetadataForRegion (same'.symm.trans isMain)
    exact fun n listed => listed

end Measured

/-- A number of eight digits loses the last one. -/
theorem truncates_to_longest_eight :
    (measuredRegion (ns "2530000")).FindsLongest (measured 25300009) 25300009 := by
  have literal : IsLiteral [] (ns "2530000") := ⟨by decide, by decide, by decide, by decide +kernel, by decide⟩
  have written : (measured 25300009).Written 25300009 := ⟨rfl, by decide⟩
  refine (truncates_to_longest_iff (measuredRegion_lengths literal (by decide)) written (by decide)).mpr
    ⟨?_, ?_⟩
  · intro i _
    exact Or.inl (iterate_dropDigit_of_lt (by decide) i)
  · intro i _ _
    exact ⟨_, measuredRegion_isValidNumber literal rfl⟩

/-- Where the quotient has no double of its own another number is tried in its place. -/
theorem long_number_not_truncated :
    (measuredRegion (ns "9007199254740999")).GeneralLengths ∧
      ¬ (measuredRegion (ns "9007199254740999")).FindsLongest (measured 90071992547409990) 90071992547409990 := by
  have literal : IsLiteral [] (ns "9007199254740999") :=
    ⟨by decide +kernel, by decide, by decide, by decide +kernel, by decide⟩
  have lengths := measuredRegion_lengths literal (by decide)
  refine ⟨lengths, fun finds => ?_⟩
  have divides := dividesExactly_of_findsLongest lengths rfl (by decide) finds
  have whole : ∀ j < 1, ¬ (measuredRegion (ns "9007199254740999")).IsValidAt (measured 90071992547409990) j
      (90071992547409990 / 10 ^ j) := by
    rintro j first ⟨_, valid⟩
    obtain rfl := Nat.lt_one_iff.mp first
    rw [measuredRegion_isValidNumber literal rfl] at valid
    revert valid
    decide +kernel
  rcases divides.exact 1 whole with same | ⟨_, invalid⟩
  · revert same
    decide +kernel
  · refine invalid ⟨by decide, ?_⟩
    rw [measuredRegion_isValidNumber literal rfl]
    exact congrArg Except.ok (by decide +kernel)

end NBPhoneNumberUtil

end SignalPods.PhoneNumber
