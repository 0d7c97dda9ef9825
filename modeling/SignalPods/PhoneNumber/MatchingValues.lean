import SignalPods.PhoneNumber.Matching

namespace SignalPods.PhoneNumber

open Foundation

/-- The comparison of two numbers without any object. -/
def matchNumbers (firstNumber secondNumber : NBPhoneNumber) : NBEMatchType :=
  let first := firstNumber.clearForMatch
  let second := secondNumber.clearForMatch
  if extensionsDiffer first second then .NO_MATCH
  else if bothSpecified first second then matchSpecified first second
  else matchUnspecified first.clearCountryCode second.clearCountryCode

theorem isEqualToNumber_comm (a b : Option Int) : isEqualToNumber a b = isEqualToNumber b a := by
  cases a <;> cases b <;> simp [isEqualToNumber, Bool.beq_comm]

theorem isEqual_comm (first second : NBPhoneNumber) : first.isEqual second = second.isEqual first := by
  unfold NBPhoneNumber.isEqual
  rw [isEqualToNumber_comm first.countryCode, isEqualToNumber_comm first.nationalNumber,
    isEqualToNumber_comm first.numberOfLeadingZeros, Bool.beq_comm (b := second.italianLeadingZero),
    Bool.beq_comm (b := second.extension)]

theorem isNationalNumberSuffixOfTheOther_comm (first second : NBPhoneNumber) :
    isNationalNumberSuffixOfTheOther first second = isNationalNumberSuffixOfTheOther second first :=
  Bool.or_comm _ _

theorem matchNumbers_comm (first second : NBPhoneNumber) : matchNumbers first second = matchNumbers second first := by
  have differ (first second : NBPhoneNumber) : extensionsDiffer first second = extensionsDiffer second first := by
    unfold extensionsDiffer
    rw [Bool.and_comm (hasValue first.extension), bne, bne, Bool.beq_comm]
  have specified (first second : NBPhoneNumber) : bothSpecified first second = bothSpecified second first :=
    Bool.and_comm _ _
  have exact (first second : NBPhoneNumber) : matchSpecified first second = matchSpecified second first := by
    unfold matchSpecified
    rw [isEqual_comm, isEqualToNumber_comm, isNationalNumberSuffixOfTheOther_comm]
  have national (first second : NBPhoneNumber) : matchUnspecified first second = matchUnspecified second first := by
    unfold matchUnspecified
    rw [isEqual_comm, isNationalNumberSuffixOfTheOther_comm]
  unfold matchNumbers
  dsimp only
  rw [differ, specified, exact, national]

/-- A string or a number. -/
inductive MatchValue
  | string (s : NSString)
  | phoneNumber (number : NBPhoneNumber)

/-- What an argument stands for. -/
def MatchInput.Denotes (heap : List NBPhoneNumber) : MatchInput → MatchValue → Prop
  | .string s, .string t => s = t
  | .phoneNumber reference, .phoneNumber number => heap[reference]? = some number
  | _, _ => False

namespace NBPhoneNumberUtil

variable (u : NBPhoneNumberUtil)

/-- The number of a string, or else what the match is: with a known region for it,
its number there is compared. -/
def firstNumberOfString (compare : NBPhoneNumber → NBEMatchType) (s : NSString) (region : Option NSString) :
    Objc (Except NBEMatchType NBPhoneNumber) := do
  match ← u.parseHelper (some s) (some NB_UNKNOWN_REGION) false true with
  | .ok firstNumber => return .ok firstNumber
  | .error anError =>
    if anError.domain ≠ .INVALID_COUNTRY_CODE then return .error .NOT_A_NUMBER
    else
      match region with
      | some region =>
        match ← u.parseHelper (some s) (some region) false true with
        | .error _ => return .error .NOT_A_NUMBER
        | .ok firstNumber => return .error (exactToNsnMatch (compare firstNumber))
      | none =>
        match ← u.parseHelper (some s) none false false with
        | .error _ => return .error .NOT_A_NUMBER
        | .ok firstNumber => return .ok firstNumber

def matchStringNumber (s : NSString) (number : NBPhoneNumber) : Objc NBEMatchType := do
  match ← u.firstNumberOfString (fun firstNumber => matchNumbers firstNumber number) s
    (u.knownRegion number.countryCode) with
  | .error result => return result
  | .ok firstNumber => return matchNumbers firstNumber number

/-- A string without a calling code is swapped to the first place. -/
def matchNumberString (number : NBPhoneNumber) (s : NSString) : Objc NBEMatchType := do
  match ← u.parseHelper (some s) (some NB_UNKNOWN_REGION) false true with
  | .error parseError =>
    if parseError.domain ≠ .INVALID_COUNTRY_CODE then return .NOT_A_NUMBER else u.matchStringNumber s number
  | .ok secondNumber => return matchNumbers number secondNumber

/-- The first string is parsed once more when the second has a calling code. -/
def matchStrings (first second : NSString) : Objc NBEMatchType := do
  match ← u.firstNumberOfString (fun _ => .NOT_A_NUMBER) first none with
  | .error result => return result
  | .ok firstNumber =>
    match ← u.parseHelper (some second) (some NB_UNKNOWN_REGION) false true with
    | .error parseError =>
      if parseError.domain ≠ .INVALID_COUNTRY_CODE then return .NOT_A_NUMBER
      else u.matchStringNumber second firstNumber
    | .ok secondNumber => u.matchStringNumber first secondNumber

def matchValues : MatchValue → MatchValue → Objc NBEMatchType
  | .phoneNumber first, .phoneNumber second => .ok (matchNumbers first second)
  | .phoneNumber first, .string second => u.matchNumberString first second
  | .string first, .phoneNumber second => u.matchStringNumber first second
  | .string first, .string second => u.matchStrings first second

variable {u} {old heap : List NBPhoneNumber}

theorem matchCopies_keeps {first second : Nat} {firstNumber secondNumber : NBPhoneNumber} (kept : old <+: heap)
    (atFirst : heap[first]? = some firstNumber) (atSecond : heap[second]? = some secondNumber)
    (different : first ≠ second) (firstNew : old.length ≤ first) (secondNew : old.length ≤ second) :
    Keeps old (matchCopies first second) heap (.ok (matchNumbers firstNumber secondNumber)) := by
  let cleared := (heap.modify first NBPhoneNumber.clearForMatch).modify second NBPhoneNumber.clearForMatch
  have firstCleared : cleared[first]? = some firstNumber.clearForMatch := by
    rw [List.getElem?_modify_ne _ _ different.symm, List.getElem?_modify_eq, atFirst]
    rfl
  have secondCleared : cleared[second]? = some secondNumber.clearForMatch := by
    rw [List.getElem?_modify_eq, List.getElem?_modify_ne _ _ different, atSecond]
    rfl
  have clearedKept : old <+: cleared := prefix_modify (prefix_modify kept firstNew) secondNew
  unfold matchCopies
  refine Keeps.modifyObject_bind (Keeps.modifyObject_bind ?_)
  refine Keeps.readObject_bind firstCleared (Keeps.readObject_bind secondCleared ?_)
  unfold matchNumbers
  dsimp only
  split
  · exact Keeps.pure clearedKept _
  split
  · exact Keeps.pure clearedKept _
  let national := (cleared.modify first NBPhoneNumber.clearCountryCode).modify second NBPhoneNumber.clearCountryCode
  have firstNational : national[first]? = some firstNumber.clearForMatch.clearCountryCode := by
    rw [List.getElem?_modify_ne _ _ different.symm, List.getElem?_modify_eq, firstCleared]
    rfl
  have secondNational : national[second]? = some secondNumber.clearForMatch.clearCountryCode := by
    rw [List.getElem?_modify_eq, List.getElem?_modify_ne _ _ different, secondCleared]
    rfl
  refine Keeps.modifyObject_bind (Keeps.modifyObject_bind ?_)
  refine Keeps.readObject_bind firstNational (Keeps.readObject_bind secondNational ?_)
  exact Keeps.pure (prefix_modify (prefix_modify clearedKept firstNew) secondNew) _

/-- A number that is parsed becomes the last object. -/
theorem parseForMatch_bind_keeps {Result : Type} {s region : NSString}
    {f : Except NSError Nat → Memory NBPhoneNumber Result} {g : Except NSError NBPhoneNumber → Objc Result}
    (failed : ∀ anError anError' : NSError, anError'.domain = anError.domain →
      Keeps old (f (.error anError')) heap (g (.error anError)))
    (parsed : ∀ number, Keeps old (f (.ok heap.length)) (heap ++ [number]) (g (.ok number))) :
    Keeps old (u.parseForMatch s region >>= f) heap (u.parseHelper (some s) (some region) false true >>= g) := by
  unfold parseForMatch parse
  rw [bind_assoc]
  cases u.parseHelper (some s) (some region) false true with
  | error exception => exact Keeps.raise exception rfl
  | ok result =>
    cases result with
    | error anError => exact failed anError _ rfl
    | ok number => exact parsed number

theorem parseWithoutRegion_bind_keeps {Result : Type} {s : NSString}
    {f : Except NSError Nat → Memory NBPhoneNumber Result} {g : Except NSError NBPhoneNumber → Objc Result}
    (failed : ∀ anError : NSError, Keeps old (f (.error anError)) heap (g (.error anError)))
    (parsed : ∀ number, Keeps old (f (.ok heap.length)) (heap ++ [number]) (g (.ok number))) :
    Keeps old (u.parseWithoutRegion s >>= f) heap (u.parseHelper (some s) none false false >>= g) := by
  unfold parseWithoutRegion
  rw [bind_assoc]
  cases u.parseHelper (some s) none false false with
  | error exception => exact Keeps.raise exception rfl
  | ok result =>
    cases result with
    | error anError => exact failed anError
    | ok number => exact parsed number

theorem firstOfString_bind_keeps {Result : Type} {again : Nat → Memory NBPhoneNumber NBEMatchType}
    {compare : NBPhoneNumber → NBEMatchType} {s : NSString} {second : MatchInput} {region : Option NSString}
    {f : Except NBEMatchType Nat → Memory NBPhoneNumber Result} {g : Except NBEMatchType NBPhoneNumber → Objc Result}
    (kept : old <+: heap) (located : (u.secondNumberRegion second).run heap = .ok (region, heap))
    (retried : region.isSome → ∀ number, Keeps old (again heap.length) (heap ++ [number]) (.ok (compare number)))
    (answered : ∀ result heap', old <+: heap' → Keeps old (f (.error result)) heap' (g (.error result)))
    (found : ∀ number, Keeps old (f (.ok heap.length)) (heap ++ [number]) (g (.ok number))) :
    Keeps old (u.firstOfString again s second >>= f) heap (u.firstNumberOfString compare s region >>= g) := by
  unfold firstOfString firstNumberOfString
  rw [bind_assoc, bind_assoc]
  refine parseForMatch_bind_keeps ?_ found
  intro anError anError' domain
  dsimp only
  rw [domain]
  by_cases other : anError.domain ≠ .INVALID_COUNTRY_CODE
  · rw [if_pos other, if_pos other]
    exact answered _ heap kept
  rw [if_neg other, if_neg other, bind_assoc]
  have here (h : Option NSString → Memory NBPhoneNumber Result) (y : Objc Result)
      (keeps : Keeps old (h region) heap y) : Keeps old (u.secondNumberRegion second >>= h) heap y := by
    obtain ⟨heap', after, run⟩ := keeps
    refine ⟨heap', after, ?_⟩
    rw [StateT.run_bind, located]
    exact run
  refine here _ _ ?_
  cases region with
  | none =>
    dsimp only
    rw [bind_assoc, bind_assoc]
    exact parseWithoutRegion_bind_keeps (fun _ => answered _ heap kept) found
  | some region =>
    dsimp only
    rw [bind_assoc, bind_assoc]
    refine parseForMatch_bind_keeps (fun _ _ _ => answered _ heap kept) ?_
    intro number
    dsimp only
    rw [bind_assoc]
    exact Keeps.bind (retried rfl number) (fun result heap' after => answered _ heap' after)

/-- The last object is compared with a copy of another one. -/
theorem matchCopies_copyObject_keeps {second : Nat} {firstNumber secondNumber : NBPhoneNumber} (kept : old <+: heap)
    (atSecond : heap[second]? = some secondNumber) :
    Keeps old (copyObject second >>= matchCopies heap.length) (heap ++ [firstNumber])
      (.ok (matchNumbers firstNumber secondNumber)) := by
  have length := kept.length_le
  have toFirst : heap <+: heap ++ [firstNumber] := List.prefix_append _ _
  have toSecond : heap ++ [firstNumber] <+: heap ++ [firstNumber] ++ [secondNumber] := List.prefix_append _ _
  have later : heap.length < (heap ++ [firstNumber]).length := by
    rw [List.length_append, List.length_singleton]
    omega
  refine Keeps.copyObject_bind (found_of_kept toFirst atSecond) ?_
  refine matchCopies_keeps (kept.trans (toFirst.trans toSecond)) ?_ ?_ later.ne length (length.trans later.le)
  · exact found_of_kept toSecond List.getElem?_concat_length
  · exact List.getElem?_concat_length

theorem isNumberMatch_numbers_keeps {first second : Nat} {firstNumber secondNumber : NBPhoneNumber}
    (kept : old <+: heap) (atFirst : heap[first]? = some firstNumber) (atSecond : heap[second]? = some secondNumber) :
    Keeps old (u.isNumberMatch (.phoneNumber first) (.phoneNumber second)) heap
      (.ok (matchNumbers firstNumber secondNumber)) := by
  rw [isNumberMatch]
  dsimp only
  rw [bind_map_left]
  exact Keeps.copyObject_bind atFirst (matchCopies_copyObject_keeps kept atSecond)

theorem isNumberMatch_string_number_keeps {s : NSString} {second : Nat} {secondNumber : NBPhoneNumber}
    (kept : old <+: heap) (atSecond : heap[second]? = some secondNumber) :
    Keeps old (u.isNumberMatch (.string s) (.phoneNumber second)) heap (u.matchStringNumber s secondNumber) := by
  have located : (u.secondNumberRegion (.phoneNumber second)).run heap =
      .ok (u.knownRegion secondNumber.countryCode, heap) := by
    unfold secondNumberRegion
    dsimp only
    rw [StateT.run_bind]
    simp only [readObject, StateT.run, atSecond]
    rfl
  rw [isNumberMatch]
  refine firstOfString_bind_keeps kept located ?_ ?_ ?_
  · intro _ number
    refine isNumberMatch_numbers_keeps (kept.trans (List.prefix_append _ _)) List.getElem?_concat_length ?_
    exact found_of_kept (List.prefix_append _ _) atSecond
  · intro result heap' after
    exact Keeps.pure after result
  · intro number
    exact matchCopies_copyObject_keeps kept atSecond

/-- The second string is parsed, with the number of the first in the last object. -/
theorem isNumberMatch_number_string_keeps {first : Nat} {s : NSString} {firstNumber : NBPhoneNumber}
    (kept : old <+: heap) (atFirst : heap[first]? = some firstNumber) :
    Keeps old (u.isNumberMatch (.phoneNumber first) (.string s)) heap (u.matchNumberString firstNumber s) := by
  have copied : heap <+: heap ++ [firstNumber] := List.prefix_append _ _
  rw [isNumberMatch]
  dsimp only
  rw [bind_map_left]
  refine Keeps.copyObject_bind atFirst ?_
  refine parseForMatch_bind_keeps ?_ ?_
  · intro parseError parseError' domain
    dsimp only
    rw [domain]
    split
    · exact Keeps.pure (kept.trans copied) _
    · exact isNumberMatch_string_number_keeps (kept.trans copied) List.getElem?_concat_length
  · intro secondNumber
    have parsed : heap ++ [firstNumber] <+: heap ++ [firstNumber] ++ [secondNumber] := List.prefix_append _ _
    exact isNumberMatch_numbers_keeps (kept.trans (copied.trans parsed))
      (found_of_kept (copied.trans parsed) atFirst) List.getElem?_concat_length

theorem isNumberMatch_strings_keeps {first second : NSString} (kept : old <+: heap) :
    Keeps old (u.isNumberMatch (.string first) (.string second)) heap (u.matchStrings first second) := by
  rw [isNumberMatch]
  refine firstOfString_bind_keeps kept rfl ?_ ?_ ?_
  · intro known
    cases known
  · intro result heap' after
    exact Keeps.pure after result
  · intro firstNumber
    have parsed : heap <+: heap ++ [firstNumber] := List.prefix_append _ _
    refine parseForMatch_bind_keeps ?_ ?_
    · intro parseError parseError' domain
      dsimp only
      rw [domain]
      split
      · exact Keeps.pure (kept.trans parsed) _
      · exact isNumberMatch_string_number_keeps (kept.trans parsed) List.getElem?_concat_length
    · intro secondNumber
      exact isNumberMatch_string_number_keeps (kept.trans (parsed.trans (List.prefix_append _ _)))
        List.getElem?_concat_length

/-- A match does what the values of the arguments say, and leaves all numbers as they were. -/
theorem isNumberMatch_keeps {first second : MatchInput} {firstValue secondValue : MatchValue}
    (denotesFirst : first.Denotes heap firstValue) (denotesSecond : second.Denotes heap secondValue) :
    Keeps heap (u.isNumberMatch first second) heap (u.matchValues firstValue secondValue) := by
  cases first <;> cases firstValue <;> try cases denotesFirst
  all_goals cases second <;> cases secondValue <;> try cases denotesSecond
  · exact isNumberMatch_strings_keeps List.prefix_rfl
  · exact isNumberMatch_string_number_keeps List.prefix_rfl denotesSecond
  · exact isNumberMatch_number_string_keeps List.prefix_rfl denotesFirst
  · exact isNumberMatch_numbers_keeps List.prefix_rfl denotesFirst denotesSecond

end NBPhoneNumberUtil

end SignalPods.PhoneNumber
