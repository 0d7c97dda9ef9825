import SignalPods.PhoneNumber.Formatting

namespace SignalPods.PhoneNumber

open Foundation

namespace NBPhoneNumberUtil

/-- Without a type it is the general description that counts. -/
theorem validateNumberLength_eq (number : NSString) (metadata : NBPhoneMetaData) :
    validateNumberLength number metadata =
      lengthVerdict metadata.generalDesc.lengths metadata.generalDesc.localLengths number.length := by
  have general : metadata.possibleLengths metadata.generalDesc = metadata.generalDesc.lengths := by
    unfold NBPhoneMetaData.possibleLengths
    exact ite_self _
  have same : metadata.getNumberDescByType .UNKNOWN = metadata.generalDesc := rfl
  unfold validateNumberLength validateNumberLengthOfType validateNumberLengthAlone
  rw [if_neg (by decide), same]
  dsimp only
  rw [general]

end NBPhoneNumberUtil

section Lists

/-- No numbers at all, or lengths in order, each an `NSUInteger`. -/
def AreLengths (lengths : List Int) : Prop :=
  lengths = [-1] ∨ lengths.Pairwise (· ≤ ·) ∧ ∀ n ∈ lengths, 0 ≤ n ∧ n < 2 ^ 64

theorem AreLengths.lower {lengths : List Int} (are : AreLengths lengths) : ∀ n ∈ lengths, -1 ≤ n := by
  intro n member
  rcases are with rfl | ⟨_, bounds⟩
  · rw [List.mem_singleton.mp member]
  · have bound := (bounds n member).1
    omega

/-- The first of some lengths is not -1 when they are lengths of numbers. -/
theorem AreLengths.head_ne {minimumLength : Int} {longer : List Int} (are : AreLengths (minimumLength :: longer))
    (some : minimumLength :: longer ≠ [-1]) : minimumLength ≠ -1 := by
  rcases are with none | ⟨_, bounds⟩
  · exact absurd none some
  · have bound := (bounds minimumLength List.mem_cons_self).1
    omega

theorem le_getLast {minimumLength n : Int} {longer : List Int} (sorted : (minimumLength :: longer).Pairwise (· ≤ ·))
    (member : n ∈ minimumLength :: longer) : n ≤ (minimumLength :: longer).getLast (List.cons_ne_nil _ _) := by
  have last := List.dropLast_append_getLast (List.cons_ne_nil minimumLength longer)
  rw [← last, List.mem_append, List.mem_singleton] at member
  rw [← last, List.pairwise_append] at sorted
  rcases member with before | rfl
  · exact sorted.2.2 n before _ (List.mem_singleton.mpr rfl)
  · exact le_rfl

namespace NBPhoneNumberUtil

theorem lengthVerdict_none (localLengths : List Int) (actualLength : Int) :
    lengthVerdict [-1] localLengths actualLength = .INVALID_LENGTH := rfl

/-- A length is possible when it is one of the lengths. -/
theorem lengthVerdict_eq_possible_iff {possibleLengths localLengths : List Int} (are : AreLengths possibleLengths)
    (some : possibleLengths ≠ []) {actualLength : Int} (actual : 0 ≤ actualLength)
    (apart : ∀ n ∈ localLengths, n ∉ possibleLengths) :
    lengthVerdict possibleLengths localLengths actualLength = .IS_POSSIBLE ↔ actualLength ∈ possibleLengths := by
  by_cases none : possibleLengths = [-1]
  · rw [none, lengthVerdict_none, List.mem_singleton]
    exact iff_of_false (by decide) (by omega)
  cases possibleLengths with
  | nil => exact absurd rfl some
  | cons minimumLength longer =>
    have sorted : (minimumLength :: longer).Pairwise (· ≤ ·) := (are.resolve_left none).1
    have first : (minimumLength :: longer).head? ≠ Option.some (-1) := by
      rw [List.head?_cons, Ne, Option.some.injEq]
      exact are.head_ne none
    unfold lengthVerdict
    rw [if_neg first]
    split
    · rename_i isLocal
      exact iff_of_false (by decide) (apart actualLength (List.contains_iff_mem.mp isLocal))
    · dsimp only
      split
      · rename_i same
        exact iff_of_true rfl (same ▸ List.mem_cons_self)
      · rename_i different
        split
        · rename_i shorter
          refine iff_of_false (by decide) fun member => ?_
          rcases List.mem_cons.mp member with same | later
          · exact different same.symm
          · have order := (List.pairwise_cons.mp sorted).1 actualLength later
            omega
        · split
          · rename_i above
            refine iff_of_false (by decide) fun member => ?_
            have bound := le_getLast sorted member
            omega
          · rw [List.mem_cons]
            split
            · rename_i later
              exact iff_of_true rfl (Or.inr (List.contains_iff_mem.mp later))
            · rename_i absent
              refine iff_of_false (by decide) ?_
              rintro (same | later)
              · exact different same.symm
              · exact absent (List.contains_iff_mem.mpr later)

end NBPhoneNumberUtil

/-- With -1 among them the merged lengths begin with it. -/
theorem head_mergeSort {lengths : List Int} (lower : ∀ n ∈ lengths, -1 ≤ n) (member : -1 ∈ lengths) :
    lengths.mergeSort.head? = some (-1) := by
  have sorted : lengths.mergeSort.Pairwise fun a b => decide (a ≤ b) = true :=
    List.pairwise_mergeSort (by simpa using fun a b c => Int.le_trans) (by simpa using Int.le_total) lengths
  have inside : -1 ∈ lengths.mergeSort := List.mem_mergeSort.mpr member
  cases shape : lengths.mergeSort with
  | nil => rw [shape] at inside; cases inside
  | cons minimumLength longer =>
    have bound : -1 ≤ minimumLength := lower minimumLength (List.mem_mergeSort.mp (shape ▸ List.mem_cons_self))
    rw [shape] at sorted inside
    rw [List.head?_cons, Option.some.injEq]
    rcases List.mem_cons.mp inside with same | later
    · exact same.symm
    · have order := of_decide_eq_true ((List.pairwise_cons.mp sorted).1 (-1) later)
      omega

end Lists

theorem NBPhoneNumberDesc.descHasPossibleNumberData_iff (desc : NBPhoneNumberDesc) :
    desc.descHasPossibleNumberData ↔ desc.lengths ≠ [-1] := by
  unfold descHasPossibleNumberData
  rw [Bool.or_eq_true, bne_iff_ne, Bool.not_eq_true', beq_eq_false_iff_ne]
  constructor
  · rintro (many | other) same
    · rw [same] at many
      exact many rfl
    · rw [same] at other
      exact other rfl
  · intro different
    cases shape : desc.lengths with
    | nil => exact Or.inl (by decide)
    | cons n rest =>
      cases rest with
      | cons _ _ => exact Or.inl (by simp only [List.length_cons]; omega)
      | nil =>
        refine Or.inr fun first => different ?_
        rw [List.head?_cons, Option.some.injEq] at first
        rw [shape, first]

/-- The lists are in order, the general one is not empty, and the lengths that are
possible locally only are not possible ones. -/
structure NBPhoneMetaData.LengthsInOrder (metadata : NBPhoneMetaData) : Prop where
  are : ∀ type, AreLengths (metadata.getNumberDescByType type).lengths
  general : metadata.generalDesc.lengths ≠ []
  apart : ∀ type, ∀ n ∈ (metadata.getNumberDescByType type).localLengths,
    n ∉ metadata.possibleLengths (metadata.getNumberDescByType type)

namespace NBPhoneMetaData.LengthsInOrder

variable {metadata : NBPhoneMetaData}

theorem possible (order : metadata.LengthsInOrder) (type : NBEPhoneNumberType) :
    AreLengths (metadata.possibleLengths (metadata.getNumberDescByType type)) ∧
      metadata.possibleLengths (metadata.getNumberDescByType type) ≠ [] := by
  unfold possibleLengths
  split
  · exact ⟨order.are .UNKNOWN, order.general⟩
  · rename_i own
    exact ⟨order.are type, fun none => own (congrArg List.length none)⟩

end NBPhoneMetaData.LengthsInOrder

namespace NBPhoneNumberUtil

/-- What `testNumberLength` has no verdicts for. -/
def lenientVerdict : NBEValidationResult → NBEValidationResult
  | .IS_POSSIBLE_LOCAL_ONLY => .IS_POSSIBLE
  | .INVALID_LENGTH => .TOO_LONG
  | verdict => verdict

/-- Validation by the union of the lists, and by the general one alone. -/
structure FollowsLengths (number : NSString) (metadata : NBPhoneMetaData) : Prop where
  possible : validateNumberLengthOfType number metadata .FIXED_LINE_OR_MOBILE = .IS_POSSIBLE ↔
    (number.length : Int) ∈ metadata.possibleLengths metadata.fixedLine ∨
      (number.length : Int) ∈ metadata.possibleLengths metadata.mobile
  neither : metadata.possibleLengths metadata.fixedLine = [-1] → metadata.possibleLengths metadata.mobile = [-1] →
    validateNumberLengthOfType number metadata .FIXED_LINE_OR_MOBILE = .INVALID_LENGTH
  agrees : testNumberLength number metadata.generalDesc =
    .ok (lenientVerdict (validateNumberLengthOfType number metadata .UNKNOWN))

variable {metadata : NBPhoneMetaData} {number : NSString}

/-- Where there are fixed lines it is the mobile lengths alone that count. -/
theorem validateNumberLengthOfType_some (fixed : metadata.fixedLine.lengths ≠ [-1]) :
    validateNumberLengthOfType number metadata .FIXED_LINE_OR_MOBILE = validateNumberLengthAlone number metadata .MOBILE := by
  unfold validateNumberLengthOfType
  rw [if_pos rfl]
  exact if_pos ((NBPhoneNumberDesc.descHasPossibleNumberData_iff _).mpr fixed)

/-- Where there are none nothing is possible. -/
theorem validateNumberLengthOfType_none (order : metadata.LengthsInOrder) (fixed : metadata.fixedLine.lengths = [-1]) :
    validateNumberLengthOfType number metadata .FIXED_LINE_OR_MOBILE = .INVALID_LENGTH := by
  have own : metadata.possibleLengths metadata.fixedLine = [-1] := by
    unfold NBPhoneMetaData.possibleLengths
    rw [fixed]
    rfl
  have absent : ¬ (metadata.getNumberDescByType .FIXED_LINE).descHasPossibleNumberData = true := by
    rw [NBPhoneNumberDesc.descHasPossibleNumberData_iff, not_not]
    exact fixed
  have first : (metadata.possibleLengths metadata.fixedLine ++
      metadata.possibleLengths metadata.mobile).mergeSort.head? = some (-1) := by
    refine head_mergeSort ?_ (by rw [own]; exact List.mem_cons_self)
    intro n member
    rcases List.mem_append.mp member with member | member
    · exact (order.possible .FIXED_LINE).1.lower n member
    · exact (order.possible .MOBILE).1.lower n member
  unfold validateNumberLengthOfType
  rw [if_pos rfl]
  dsimp only
  rw [if_neg absent]
  split
  · exact if_pos first
  · unfold validateNumberLengthAlone
    exact if_pos (congrArg List.head? own)

/-- The general description is judged alike, gaps and local lengths apart. -/
theorem testNumberLength_agrees (are : AreLengths metadata.generalDesc.lengths) (some : metadata.generalDesc.lengths ≠ [])
    (possible : metadata.generalDesc.lengths ≠ [-1]) :
    testNumberLength number metadata.generalDesc = .ok (lenientVerdict (validateNumberLength number metadata)) := by
  obtain ⟨sorted, bounds⟩ := are.resolve_left possible
  have value : ∀ n ∈ metadata.generalDesc.lengths, (unsignedIntegerValue n : Int) = n := by
    intro n member
    obtain ⟨low, high⟩ := bounds n member
    unfold unsignedIntegerValue nsUInteger
    omega
  unfold NBPhoneNumberDesc.lengths at are some possible sorted bounds value
  rw [validateNumberLength_eq]
  unfold testNumberLength lengthVerdict NBPhoneNumberDesc.lengths NBPhoneNumberDesc.localLengths
  cases shape : metadata.generalDesc.possibleLength with
  | none => rw [shape] at some; exact absurd rfl some
  | some lengths =>
    rw [shape, Option.getD_some] at are some possible sorted bounds value
    cases lengths with
    | nil => exact absurd rfl some
    | cons minimumLength longer =>
      have first : (minimumLength :: longer).head? ≠ Option.some (-1) := by
        rw [List.head?_cons, Ne, Option.some.injEq]
        exact are.head_ne possible
      have minimum := value minimumLength List.mem_cons_self
      have maximum := value _ (List.getLast_mem (List.cons_ne_nil minimumLength longer))
      dsimp only [Option.getD_some]
      rw [if_neg first]
      by_cases isLocal : (metadata.generalDesc.possibleLengthLocalOnly.getD []).contains (number.length : Int)
      · rw [if_pos isLocal, if_pos isLocal]
        rfl
      rw [if_neg isLocal, if_neg isLocal]
      by_cases same : minimumLength = number.length
      · rw [if_pos (by omega), if_pos same]
        rfl
      rw [if_neg (by omega), if_neg same]
      by_cases shorter : (number.length : Int) < minimumLength
      · rw [if_pos (by omega), if_pos shorter]
        rfl
      rw [if_neg (by omega), if_neg shorter]
      by_cases above : (minimumLength :: longer).getLast (List.cons_ne_nil _ _) < number.length
      · rw [if_pos (by omega), if_pos above]
        rfl
      rw [if_neg (by omega), if_neg above]
      have rest : (minimumLength :: longer).contains (number.length : Int) = longer.contains (number.length : Int) := by
        rw [List.contains_cons, beq_false_of_ne (Ne.symm same), Bool.false_or]
      rw [rest]
      split <;> rfl

/-- A region without numbers has no verdict in common. -/
theorem testNumberLength_none (none : metadata.generalDesc.lengths = [-1]) (short : number.length < 2 ^ 63) :
    testNumberLength number metadata.generalDesc ≠ .ok (lenientVerdict (validateNumberLength number metadata)) := by
  have list : metadata.generalDesc.possibleLength = some [-1] := by
    unfold NBPhoneNumberDesc.lengths at none
    cases shape : metadata.generalDesc.possibleLength with
    | none => rw [shape] at none; cases none
    | some lengths => rw [shape] at none; exact congrArg some none
  have huge : unsignedIntegerValue (-1) = 2 ^ 64 - 1 := by decide
  have invalid : validateNumberLength number metadata = .INVALID_LENGTH := by
    rw [validateNumberLength_eq, none, lengthVerdict_none]
  rw [invalid]
  unfold testNumberLength
  rw [list]
  dsimp only
  split
  · intro same
    cases same
  · rw [huge, if_neg (by omega), if_pos (by omega)]
    intro same
    cases same

/-- The lengths are followed when the fixed lines that there are have no length of their
own, or when there are none and the length is not a mobile one. -/
theorem follows_lengths_iff (order : metadata.LengthsInOrder) (short : number.length < 2 ^ 63) :
    FollowsLengths number metadata ↔ metadata.generalDesc.lengths ≠ [-1] ∧
      if metadata.fixedLine.lengths = [-1] then (number.length : Int) ∉ metadata.possibleLengths metadata.mobile
      else (number.length : Int) ∈ metadata.possibleLengths metadata.fixedLine →
        (number.length : Int) ∈ metadata.possibleLengths metadata.mobile := by
  have general : (testNumberLength number metadata.generalDesc =
      .ok (lenientVerdict (validateNumberLengthOfType number metadata .UNKNOWN))) ↔
        metadata.generalDesc.lengths ≠ [-1] := by
    by_cases none : metadata.generalDesc.lengths = [-1]
    · exact iff_of_false (testNumberLength_none none short) (not_not.mpr none)
    · exact iff_of_true (testNumberLength_agrees (order.are .UNKNOWN) order.general none) none
  by_cases fixed : metadata.fixedLine.lengths = [-1]
  · have verdict : validateNumberLengthOfType number metadata .FIXED_LINE_OR_MOBILE = .INVALID_LENGTH :=
      validateNumberLengthOfType_none order fixed
    have own : metadata.possibleLengths metadata.fixedLine = [-1] := by
      unfold NBPhoneMetaData.possibleLengths
      rw [fixed]
      rfl
    rw [if_pos fixed]
    constructor
    · intro follows
      refine ⟨general.mp follows.agrees, fun member => ?_⟩
      have possible := follows.possible.mpr (Or.inr member)
      rw [verdict] at possible
      cases possible
    · rintro ⟨some, absent⟩
      refine ⟨?_, fun _ _ => verdict, general.mpr some⟩
      rw [verdict, own, List.mem_singleton]
      refine iff_of_false (by decide) ?_
      rintro (negative | member)
      · omega
      · exact absent member
  · have alone : validateNumberLengthOfType number metadata .FIXED_LINE_OR_MOBILE =
        validateNumberLengthAlone number metadata .MOBILE := validateNumberLengthOfType_some fixed
    have possible := lengthVerdict_eq_possible_iff (order.possible .MOBILE).1 (order.possible .MOBILE).2
      (Int.natCast_nonneg number.length) (order.apart .MOBILE)
    rw [if_neg fixed]
    constructor
    · intro follows
      refine ⟨general.mp follows.agrees, fun member => ?_⟩
      have verdict := follows.possible.mpr (Or.inl member)
      rw [alone] at verdict
      exact possible.mp verdict
    · rintro ⟨some, included⟩
      refine ⟨?_, ?_, general.mpr some⟩
      · rw [alone]
        refine possible.trans ⟨Or.inr, ?_⟩
        rintro (member | member)
        · exact included member
        · exact member
      · intro _ none
        rw [alone]
        exact if_pos (congrArg List.head? none)

/-- Fixed lines have six digits and mobile numbers eight. -/
def sixAndEight : NBPhoneMetaData :=
  { generalDesc := { possibleLength := some [6, 8], possibleLengthLocalOnly := some [4] }
    fixedLine := { possibleLength := some [6], possibleLengthLocalOnly := some [4] }
    mobile := { possibleLength := some [8] } }

theorem sixAndEight_inOrder : sixAndEight.LengthsInOrder where
  are type := by
    refine Or.inr ?_
    cases type <;> decide
  general := by decide
  apart type := by cases type <;> decide

theorem follows_lengths_eight : FollowsLengths (ns "12345678") sixAndEight :=
  (follows_lengths_iff sixAndEight_inOrder (by decide)).mpr (by decide)

/-- A fixed line of six digits is too short, since it is judged as a mobile number. -/
theorem fixed_line_too_short : sixAndEight.LengthsInOrder ∧
    validateNumberLengthOfType (ns "123456") sixAndEight .FIXED_LINE_OR_MOBILE = .TOO_SHORT ∧
    ¬ FollowsLengths (ns "123456") sixAndEight := by
  have verdict : validateNumberLengthOfType (ns "123456") sixAndEight .FIXED_LINE_OR_MOBILE = .TOO_SHORT := by decide
  refine ⟨sixAndEight_inOrder, verdict, fun follows => ?_⟩
  have possible := follows.possible.mpr (Or.inl (by decide))
  rw [verdict] at possible
  cases possible

end NBPhoneNumberUtil

end SignalPods.PhoneNumber
