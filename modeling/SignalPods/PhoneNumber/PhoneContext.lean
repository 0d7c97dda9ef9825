import SignalPods.PhoneNumber.ParsingSafety

namespace SignalPods.PhoneNumber

open Foundation

namespace NBPhoneNumberUtil

variable {u : NBPhoneNumberUtil}

theorem RFC3966_PREFIX_length : RFC3966_PREFIX.length = 4 := by decide

theorem RFC3966_PHONE_CONTEXT_length : RFC3966_PHONE_CONTEXT.length = 15 := by decide

/-- Where the text before the phone context starts: after the prefix, or after
three units when there is none. -/
def textStart (u : NBPhoneNumberUtil) (s : NSString) : Nat :=
  match u.unicode.rangeOfString s RFC3966_PREFIX with
  | some location => location + 4
  | none => 3

theorem textBeforePhoneContext_eq {s : NSString} {index : Nat} (short : s.length ≤ MAX_INPUT_STRING_LENGTH)
    (bound : index ≤ s.length) :
    u.textBeforePhoneContext s index =
      if u.textStart s ≤ index then .ok (slice s ⟨u.textStart s, index - u.textStart s⟩)
      else .error .rangeException := by
  unfold MAX_INPUT_STRING_LENGTH at short
  have start : nsUInteger (u.indexOfStringByString s RFC3966_PREFIX + RFC3966_PREFIX.length) = u.textStart s ∧
      u.textStart s ≤ 254 := by
    rw [RFC3966_PREFIX_length]
    unfold indexOfStringByString textStart
    cases found : u.unicode.rangeOfString s RFC3966_PREFIX with
    | none => decide
    | some location =>
      have inside := u.unicode.rangeOfString_le s RFC3966_PREFIX location found
      dsimp only
      unfold nsUInteger
      omega
  obtain ⟨start, small⟩ := start
  unfold textBeforePhoneContext
  rw [start]
  dsimp only
  generalize u.textStart s = textStart at small ⊢
  by_cases before : textStart ≤ index
  · have amount : nsUInteger ((index : Int) - textStart) = index - textStart := by
      unfold nsUInteger
      omega
    rw [if_pos before, amount]
    refine substringWithRange_of_inside ?_
    unfold NSRange.Inside
    dsimp only
    omega
  · -- the length wraps around
    rw [if_neg before]
    refine substringWithRange_of_outside ?_
    unfold NSRange.Inside nsUInteger
    dsimp only
    omega

theorem phoneContextNumber_returns_iff {s : NSString} {start : Nat} :
    Returns (phoneContextNumber s start) ↔ start < s.length := by
  unfold phoneContextNumber
  rw [returns_bind_iff]
  constructor
  · rintro ⟨c, read, _⟩
    exact returns_characterAtIndex_iff.mp ⟨c, read⟩
  · intro bound
    obtain ⟨c, read, _⟩ := characterAtIndex_of_lt bound
    refine ⟨c, read, Returns.ite (fun _ => ?_) (fun _ => returns_pure _)⟩
    cases found : literalSearch (s.drop start) (ns ";") with
    | none => exact returns_substringFromIndex_iff.mpr bound.le
    | some offset =>
      have inside := literalSearch_le found
      rw [List.length_drop] at inside
      rw [returns_substringWithRange_iff]
      unfold NSRange.Inside
      dsimp only
      omega

/-- The ranges around a phone context lie in the string. -/
def ContextInside (u : NBPhoneNumberUtil) (s : NSString) : Prop :=
  ∀ index, u.unicode.rangeOfString s RFC3966_PHONE_CONTEXT = some index → 0 < index →
    index + 15 < s.length ∧ u.textStart s ≤ index

theorem withoutIsdnSubaddress_returns (result : NSString) : Returns (u.withoutIsdnSubaddress result) := by
  unfold withoutIsdnSubaddress
  refine Returns.ite (fun _ => ?_) (fun _ => ⟨_, rfl⟩)
  rw [returns_substringWithRange_iff, NSRange.Inside, Nat.zero_add]
  exact u.indexOfStringByString_le _ _

theorem numberWithPhoneContext_returns_iff {s : NSString} (short : s.length ≤ MAX_INPUT_STRING_LENGTH) :
    Returns (u.numberWithPhoneContext s) ↔ u.ContextInside s := by
  have length := RFC3966_PHONE_CONTEXT_length
  unfold numberWithPhoneContext
  cases found : u.unicode.rangeOfString s RFC3966_PHONE_CONTEXT with
  | none =>
    have position : u.indexOfStringByString s RFC3966_PHONE_CONTEXT = -1 := by rw [indexOfStringByString, found]
    rw [position, if_neg (by omega)]
    refine iff_of_true (u.extractPossibleNumber_returns s) ?_
    intro index atIndex
    rw [found] at atIndex
    cases atIndex
  | some index =>
    have position : u.indexOfStringByString s RFC3966_PHONE_CONTEXT = index := by rw [indexOfStringByString, found]
    have bound := u.unicode.rangeOfString_le s RFC3966_PHONE_CONTEXT index found
    rw [position]
    by_cases later : 0 < index
    · rw [if_pos (by omega), returns_bind_iff]
      have start : nsUInteger ((index : Int) + RFC3966_PHONE_CONTEXT.length) = index + 15 := by
        unfold MAX_INPUT_STRING_LENGTH at short
        rw [length]
        unfold nsUInteger
        omega
      rw [start]
      constructor
      · rintro ⟨context, read, text, kept⟩ place atPlace _
        obtain rfl : index = place := Option.some.inj (found.symm.trans atPlace)
        have inside := phoneContextNumber_returns_iff.mp ⟨context, read⟩
        obtain ⟨before, taken, _⟩ := bind_eq_ok_iff.mp kept
        rw [textBeforePhoneContext_eq short bound] at taken
        split at taken
        · exact ⟨inside, by assumption⟩
        · cases taken
      · intro inside
        obtain ⟨early, ordered⟩ := inside index found later
        obtain ⟨context, read⟩ := phoneContextNumber_returns_iff.mpr early
        refine ⟨context, read, ?_⟩
        rw [textBeforePhoneContext_eq short bound, if_pos ordered]
        exact ⟨_, rfl⟩
    · rw [if_neg (by omega)]
      refine iff_of_true (u.extractPossibleNumber_returns s) ?_
      intro place atPlace after
      obtain rfl : index = place := Option.some.inj (found.symm.trans atPlace)
      omega

theorem buildNationalNumberForParsing_returns_iff {s : NSString} (short : s.length ≤ MAX_INPUT_STRING_LENGTH) :
    Returns (u.buildNationalNumberForParsing s) ↔ u.ContextInside s := by
  rw [← numberWithPhoneContext_returns_iff short, buildNationalNumberForParsing, returns_bind_iff]
  constructor
  · rintro ⟨result, built, _⟩
    exact ⟨result, built⟩
  · rintro ⟨result, built⟩
    exact ⟨result, built, withoutIsdnSubaddress_returns result⟩

/-- The string that `parse` looks at: it stops at nil, and at one that is too long. -/
def considered (u : NBPhoneNumberUtil) (numberToParse : Option NSString) : Option NSString :=
  (numberToParse.map u.normalizeNonBreakingSpace).filter fun s => s.length ≤ MAX_INPUT_STRING_LENGTH

theorem parseHelper_returns_iff (complete : u.helper.Complete) (numberToParse defaultRegion : Option NSString)
    (keepRawInput checkRegion : Bool) :
    Returns (u.parseHelper numberToParse defaultRegion keepRawInput checkRegion) ↔
      ∀ s ∈ u.considered numberToParse, u.ContextInside s := by
  unfold parseHelper considered
  cases numberToParse.map u.normalizeNonBreakingSpace with
  | none => simp
  | some s =>
    by_cases long : s.length > MAX_INPUT_STRING_LENGTH
    · simp [long]
    · have short := Nat.not_lt.mp long
      simp only [long, if_false, Option.filter, short, decide_true, if_true, Option.mem_def, Option.some.injEq,
        forall_eq', ← buildNationalNumberForParsing_returns_iff short]
      rw [returns_bind_iff]
      constructor
      · rintro ⟨nationalNumber, built, _⟩
        exact ⟨nationalNumber, built⟩
      · rintro ⟨nationalNumber, built⟩
        refine ⟨nationalNumber, built, Returns.ite (fun _ => returns_pure _) (fun _ => ?_)⟩
        exact Returns.ite (fun _ => returns_pure _) (fun _ => parseViable_returns complete _ _ _ _)

/-- A number is returned or an error is reported. -/
def Answers (x : Objc Parsed) : Prop := ∃ parsed, x = .ok parsed ∧ (parsed.phoneNumber.isSome ∨ parsed.error.isSome)

theorem parse_answers_iff (complete : u.helper.Complete) (numberToParse defaultRegion : Option NSString) :
    Answers (u.parse numberToParse defaultRegion) ↔ ∀ s ∈ u.considered numberToParse, u.ContextInside s := by
  rw [← parseHelper_returns_iff complete numberToParse defaultRegion false true]
  unfold Answers parse
  constructor
  · rintro ⟨parsed, answer, _⟩
    obtain ⟨result, helped, _⟩ := bind_eq_ok_iff.mp answer
    exact ⟨result, helped⟩
  · rintro ⟨result, helped⟩
    rw [helped]
    cases result with
    | error error => exact ⟨_, rfl, Or.inr rfl⟩
    | ok phoneNumber => exact ⟨_, rfl, Or.inl rfl⟩

theorem parseAndKeepRawInput_answers_iff (complete : u.helper.Complete)
    (numberToParse defaultRegion : Option NSString) :
    Answers (u.parseAndKeepRawInput numberToParse defaultRegion) ↔
      ∀ s ∈ u.considered numberToParse, u.ContextInside s := by
  rw [← parseHelper_returns_iff complete numberToParse defaultRegion true true]
  unfold Answers parseAndKeepRawInput
  constructor
  · rintro ⟨parsed, answer, _⟩
    obtain ⟨result, helped, _⟩ := bind_eq_ok_iff.mp answer
    exact ⟨result, helped⟩
  · rintro ⟨result, helped⟩
    rw [helped]
    cases result with
    | error error => exact ⟨_, rfl, Or.inr rfl⟩
    | ok phoneNumber => exact ⟨_, rfl, Or.inl rfl⟩

/-- Without the prefix, all text before a phone context is kept. -/
def KeepsText (u : NBPhoneNumberUtil) (s : NSString) : Prop :=
  ∀ index, u.unicode.rangeOfString s RFC3966_PHONE_CONTEXT = some index → 0 < index →
    u.unicode.rangeOfString s RFC3966_PREFIX = none → u.textBeforePhoneContext s index = .ok (s.take index)

/-- A phone context comes after the prefix, and something comes after it. -/
def WellPlaced (u : NBPhoneNumberUtil) (s : NSString) : Prop :=
  ∀ index, u.unicode.rangeOfString s RFC3966_PHONE_CONTEXT = some index → 0 < index →
    index + RFC3966_PHONE_CONTEXT.length < s.length ∧
      ∃ location, u.unicode.rangeOfString s RFC3966_PREFIX = some location ∧ location + RFC3966_PREFIX.length ≤ index

theorem wellPlaced_iff {s : NSString} (short : s.length ≤ MAX_INPUT_STRING_LENGTH) :
    u.WellPlaced s ↔ u.ContextInside s ∧ u.KeepsText s := by
  constructor
  · intro placed
    constructor
    · intro index found later
      obtain ⟨early, location, atLocation, ordered⟩ := placed index found later
      rw [RFC3966_PHONE_CONTEXT_length] at early
      rw [RFC3966_PREFIX_length] at ordered
      refine ⟨early, ?_⟩
      rw [textStart, atLocation]
      exact ordered
    · intro index found later absent
      obtain ⟨_, location, atLocation, _⟩ := placed index found later
      rw [absent] at atLocation
      cases atLocation
  · rintro ⟨inside, keeps⟩ index found later
    obtain ⟨early, ordered⟩ := inside index found later
    have bound := u.unicode.rangeOfString_le s RFC3966_PHONE_CONTEXT index found
    refine ⟨RFC3966_PHONE_CONTEXT_length ▸ early, ?_⟩
    cases atLocation : u.unicode.rangeOfString s RFC3966_PREFIX with
    | some location =>
      rw [textStart, atLocation] at ordered
      exact ⟨location, rfl, RFC3966_PREFIX_length ▸ ordered⟩
    | none =>
      -- three units are missing from what is kept
      have kept := keeps index found later atLocation
      rw [textBeforePhoneContext_eq short bound, if_pos ordered] at kept
      have lengths := congrArg List.length (Except.ok.inj kept)
      rw [textStart, atLocation] at lengths
      have most := length_slice_le (s := s) ⟨3, index - 3⟩
      rw [List.length_take] at lengths
      dsimp only at most lengths
      omega

end NBPhoneNumberUtil

end SignalPods.PhoneNumber
