import SignalPods.PhoneNumber.DigitConservation
import SignalPods.PhoneNumber.TypingExpressions

namespace SignalPods.PhoneNumber

open Foundation

namespace NBAsYouTypeFormatter

open NBPhoneNumberUtil

variable {u : NBPhoneNumberUtil}

section Typing

variable {regionCode : Option NSString} {typed : NSString}

/-- A formatter that has accrued a few characters. -/
def begun (u : NBPhoneNumberUtil) (regionCode : Option NSString) (typed : NSString) : NBAsYouTypeFormatter :=
  { initWithRegionCode u regionCode with
    accruedInput := typed
    accruedInputWithoutFormatting := typed
    nationalNumber := typed.filter isAsciiDigit }

theorem isNanpaNumber_returns {state : NBAsYouTypeFormatter} (long : 2 ≤ state.nationalNumber.length) :
    Returns state.isNanpaNumberWithNationalPrefix := by
  have some : 0 < state.nationalNumber.length := by omega
  obtain ⟨first, atFirst, _⟩ := characterAtIndex_of_lt some
  obtain ⟨second, atSecond, _⟩ := characterAtIndex_of_lt long
  unfold isNanpaNumberWithNationalPrefix
  rw [atFirst, atSecond]
  refine Returns.ite (fun _ => returns_pure _) (fun _ => ?_)
  refine Returns.ite (fun _ => returns_pure _) (fun _ => ?_)
  exact Returns.ite (fun _ => returns_pure _) (fun _ => returns_pure _)

theorem begun_holds (digits : typed.all isAsciiDigit) : Holds u typed (begun u regionCode typed) := by
  have all : typed.filter isAsciiDigit = typed := by
    rw [List.all_eq_true] at digits
    exact List.filter_eq_self.mpr digits
  refine ⟨rfl, rfl, rfl, all, ?_, rfl, rfl, serves_getD u _, fun format none => by cases none⟩
  unfold begun
  dsimp only
  rw [all]
  exact digits

/-- A plus sign is extracted like an international prefix. -/
theorem attemptToExtractIdd_signed (expressions : u.TypingExpressions) {state : NBAsYouTypeFormatter} {rest : NSString}
    (served : u.Serves state.currentMetaData) (accrued : state.accruedInputWithoutFormatting = 43 :: rest) :
    (attemptToExtractIdd u state).1 = true := by
  obtain ⟨result, results, found, range⟩ := expressions.international _ served rest
  unfold attemptToExtractIdd matchedStringByRegex
  dsimp only
  rw [accrued, found, List.map_cons, range, slice_zero]
  rfl

/-- The third character: a plus sign before it is extracted now. -/
theorem inputThird_shows (expressions : u.TypingExpressions) (inOrder : u.FormatsUseGroupsInOrder)
    (dialling : IsDialling typed) (long : 2 ≤ typed.length) (output : NSString) (success : Bool) (nextChar : NSString) :
    Shows u typed (inputThird u
      { begun u regionCode typed with currentOutput := output, isSuccessfulFormatting := success } nextChar) := by
  have served : u.Serves (begun u regionCode typed).currentMetaData := serves_getD u _
  have exhausted : Exhausted (begun u regionCode typed) := rfl
  unfold inputThird
  rcases attemptToExtractIdd_cases dialling (show NBAsYouTypeFormatter.accruedInputWithoutFormatting
      { begun u regionCode typed with currentOutput := output, isSuccessfulFormatting := success } = typed from rfl)
    with none | ⟨buffer, rest, found, same, digits⟩
  · have unsigned : typed.all isAsciiDigit := by
      obtain ⟨sign, digits, whole, plus, areDigits⟩ := dialling
      rcases plus with rfl | rfl
      · rw [whole]
        exact areDigits
      · have found : (attemptToExtractIdd u { begun u regionCode typed with
            currentOutput := output, isSuccessfulFormatting := success }).1 = true :=
          attemptToExtractIdd_signed expressions served whole
        rw [none] at found
        cases found
    have holds : Holds u typed (begun u regionCode typed) := begun_holds unsigned
    have holds' : Holds u typed
        { begun u regionCode typed with currentOutput := output, isSuccessfulFormatting := success } :=
      ⟨holds.input, holds.accrued, holds.unformatted, holds.buffers, holds.digits, holds.extracted, holds.units,
        holds.served, holds.conserves⟩
    have national : (begun u regionCode typed).nationalNumber = typed := holds.buffers
    have answers : Returns (isNanpaNumberWithNationalPrefix { begun u regionCode typed with
        currentOutput := output, isSuccessfulFormatting := success }) := by
      refine isNanpaNumber_returns ?_
      rw [show _ = typed from national]
      exact long
    obtain ⟨removed, buffer, complete, rest, moved, removedDigits, parts, dial⟩ := removeNationalPrefix_holds holds' answers
    rw [none]
    dsimp only
    rw [moved]
    have digits : rest.all isAsciiDigit := by
      have both := unsigned
      rw [← national, ← show removed ++ rest = (begun u regionCode typed).nationalNumber from parts] at both
      exact (digits_of_append both).2
    have same : dialled buffer ++ rest = typed := by
      rw [dial, List.append_assoc, parts]
      exact holds.buffers
    have removedHolds : Holds u typed
        { begun u regionCode typed with
          currentOutput := output
          isSuccessfulFormatting := success
          prefixBeforeNationalNumber := buffer
          isCompleteNumber := complete
          nationalNumber := rest
          nationalPrefixExtracted := removed } :=
      ⟨rfl, rfl, rfl, same, digits, removedDigits, rfl, served, fun format none => by cases none⟩
    exact (attemptToChooseFormattingPattern_shows expressions inOrder removedHolds rfl rfl (Or.inl exhausted)).flagged true
  · rw [found]
    have holds : Holds u typed
        { begun u regionCode typed with
          currentOutput := output
          isSuccessfulFormatting := success
          isCompleteNumber := true
          nationalNumber := rest
          prefixBeforeNationalNumber := buffer
          isExpectingCountryCallingCode := true } :=
      ⟨rfl, rfl, rfl, same, digits, rfl, rfl, served, fun format none => by cases none⟩
    exact inputFurther_expecting_shows holds rfl rfl exhausted nextChar

theorem accrue_digit (expressions : u.TypingExpressions) (state : NBAsYouTypeFormatter) {c : unichar}
    (isDigit : isAsciiDigit c = true) :
    accrue u state [c] false = ([c],
      { state with
        accruedInput := state.accruedInput ++ [c]
        accruedInputWithoutFormatting := state.accruedInputWithoutFormatting ++ [c]
        nationalNumber := state.nationalNumber ++ [c] }) := by
  have mapped : DIGIT_MAPPINGS c = some c := forall_digit (P := fun c => DIGIT_MAPPINGS c = some c) (by decide) isDigit
  have notPlus : [c] ≠ ns "+" := by
    intro same
    obtain rfl : c = 43 := (List.cons.inj same).1
    exact absurd isDigit (by decide)
  have found : isDigitOrLeadingPlusSign u { state with accruedInput := state.accruedInput ++ [c] } [c] = true := by
    have some := expressions.digit c isDigit
    unfold isDigitOrLeadingPlusSign
    simp [some]
  unfold accrue
  dsimp only
  rw [if_neg Bool.false_ne_true, if_pos found]
  unfold normalizeAndAccrueDigitsAndPlusSign
  rw [if_neg notPlus]
  dsimp only
  rw [mapped]
  rfl

theorem accrue_plus (expressions : u.TypingExpressions) {state : NBAsYouTypeFormatter} (first : state.accruedInput = []) :
    accrue u state (ns "+") false = (ns "+",
      { state with
        accruedInput := ns "+"
        accruedInputWithoutFormatting := state.accruedInputWithoutFormatting ++ ns "+" }) := by
  have found : isDigitOrLeadingPlusSign u { state with accruedInput := ns "+" } (ns "+") = true := by
    have some := expressions.plus
    unfold isDigitOrLeadingPlusSign
    simp only [Bool.or_eq_true, Bool.and_eq_true]
    exact Or.inr ⟨rfl, by simpa using some⟩
  unfold accrue
  rw [first, List.nil_append]
  dsimp only
  rw [if_neg Bool.false_ne_true, if_pos found]
  rfl

/-- A formatter fresh but for the characters typed into it. -/
def Typing (u : NBPhoneNumberUtil) (regionCode : Option NSString) (typed : NSString) (state : NBAsYouTypeFormatter) : Prop :=
  typed.length < 3 ∧ (∃ success,
    state = { begun u regionCode typed with currentOutput := typed, isSuccessfulFormatting := success }) ∨
  3 ≤ typed.length ∧ Typed u typed state ∧ dialled state.currentOutput = typed

theorem Typing.input {state : NBAsYouTypeFormatter} (typing : Typing u regionCode typed state) :
    state.accruedInput = typed := by
  rcases typing with ⟨_, success, rfl⟩ | ⟨_, ⟨holds, _⟩, _⟩
  · rfl
  · exact holds.input

theorem Typing.accrued {state : NBAsYouTypeFormatter} (typing : Typing u regionCode typed state) :
    state.accruedInputWithoutFormatting = typed := by
  rcases typing with ⟨_, success, rfl⟩ | ⟨_, ⟨holds, _⟩, _⟩
  · rfl
  · exact holds.accrued

theorem Typing.dial {state : NBAsYouTypeFormatter} (typing : Typing u regionCode typed state) (dialling : IsDialling typed) :
    dialled state.currentOutput = typed := by
  rcases typing with ⟨_, success, rfl⟩ | ⟨_, _, dial⟩
  · exact dialling.dialled_typed
  · exact dial

theorem IsDialling.unsnoc {c : unichar} (dialling : IsDialling (typed ++ [c])) :
    IsDialling typed ∧ (isAsciiDigit c = true ∨ typed = [] ∧ c = 43) := by
  obtain ⟨sign, digits, whole, plus, areDigits⟩ := dialling
  rw [List.all_eq_true] at areDigits
  rcases List.eq_nil_or_concat digits with rfl | ⟨front, d, rfl⟩
  · rw [List.append_nil] at whole
    rcases plus with rfl | rfl
    · exact absurd whole (by simp)
    · cases typed with
      | nil => exact ⟨⟨[], [], rfl, Or.inl rfl, rfl⟩, Or.inr ⟨rfl, (List.cons.inj whole).1⟩⟩
      | cons first typed =>
        have lengths := congrArg List.length whole
        simp [ns] at lengths
  · rw [List.concat_eq_append, ← List.append_assoc] at whole
    obtain ⟨init, same⟩ := List.append_inj' whole rfl
    obtain rfl := (List.cons.inj same).1
    refine ⟨⟨sign, front, init, plus, ?_⟩, Or.inl (areDigits c (by simp))⟩
    exact List.all_eq_true.mpr fun c member => areDigits c (by simp [member])

/-- After the accrual of a character the formatter answers with what was typed. -/
theorem inputDigit_answers {state : NBAsYouTypeFormatter} {c : unichar} {accrued : NSString}
    (shows : Shows u accrued (inputDigitWithOptionToRememberPosition u state [c] false)) :
    ∃ after, inputDigit u state [c] = .ok after ∧ Typed u accrued after ∧ dialled after.currentOutput = accrued := by
  obtain ⟨output, after, answered, ⟨holds, ready⟩, dial⟩ := shows
  unfold inputDigit
  rw [answered]
  refine ⟨_, rfl, ⟨⟨holds.input, holds.accrued, holds.unformatted, holds.buffers, holds.digits, holds.extracted, holds.units,
    holds.served, holds.conserves⟩, ?_⟩, dial⟩
  intro able
  obtain ⟨expecting, unchosen, chosen⟩ := ready able
  exact ⟨expecting, unchosen, chosen⟩

theorem inputDigit_typing (expressions : u.TypingExpressions) (inOrder : u.FormatsUseGroupsInOrder)
    {state : NBAsYouTypeFormatter} {c : unichar} (typing : Typing u regionCode typed state)
    (dialling : IsDialling (typed ++ [c]))
    (unslipped : state.ableToFormat = false → Unslipped u (accrue u state [c] false).2) :
    ∃ after, inputDigit u state [c] = .ok after ∧ Typing u regionCode (typed ++ [c]) after := by
  rcases typing with ⟨short, success, rfl⟩ | ⟨long, ⟨holds, ready⟩, _⟩
  · have accrued : accrue u { begun u regionCode typed with currentOutput := typed, isSuccessfulFormatting := success } [c]
        false = ([c],
          { begun u regionCode (typed ++ [c]) with currentOutput := typed, isSuccessfulFormatting := success }) := by
      rcases dialling.unsnoc.2 with isDigit | ⟨rfl, rfl⟩
      · rw [accrue_digit expressions _ isDigit]
        simp [begun, isDigit]
      · exact accrue_plus expressions rfl
    have lengths : (typed ++ [c]).length = typed.length + 1 := by simp
    have atThird : (begun u regionCode (typed ++ [c])).accruedInputWithoutFormatting.length = typed.length + 1 := lengths
    by_cases third : typed.length = 2
    · have answered : inputDigitWithOptionToRememberPosition u
          { begun u regionCode typed with currentOutput := typed, isSuccessfulFormatting := success } [c] false =
          inputThird u { begun u regionCode (typed ++ [c]) with
            currentOutput := typed, isSuccessfulFormatting := success } [c] := by
        unfold inputDigitWithOptionToRememberPosition
        rw [if_neg (by simp), accrued]
        dsimp only
        rw [if_neg (by simp [begun, initWithRegionCode]), if_neg (by omega), if_pos (by omega)]
      have shows : Shows u (typed ++ [c]) (inputThird u { begun u regionCode (typed ++ [c]) with
            currentOutput := typed, isSuccessfulFormatting := success } [c]) :=
        inputThird_shows expressions inOrder dialling (by omega) typed success [c]
      rw [← answered] at shows
      obtain ⟨after, inputs, typed', dial⟩ := inputDigit_answers shows
      exact ⟨after, inputs, Or.inr ⟨by omega, typed', dial⟩⟩
    · refine ⟨{ begun u regionCode (typed ++ [c]) with
        currentOutput := typed ++ [c], isSuccessfulFormatting := true }, ?_, Or.inl ⟨by omega, true, rfl⟩⟩
      unfold inputDigit inputDigitWithOptionToRememberPosition
      rw [if_neg (by simp), if_neg (by simp), accrued]
      dsimp only
      rw [if_neg (by simp [begun, initWithRegionCode]), if_pos (by omega)]
      rfl
  · have isDigit : isAsciiDigit c = true := by
      refine dialling.unsnoc.2.resolve_right ?_
      rintro ⟨rfl, _⟩
      cases long
    have accrued := accrue_digit expressions state isDigit
    have areDigits : [c].all isAsciiDigit := by
      rw [List.all_cons, isDigit]
      rfl
    have holds' : Holds u (typed ++ [c])
        { state with
          accruedInput := state.accruedInput ++ [c]
          accruedInputWithoutFormatting := state.accruedInputWithoutFormatting ++ [c]
          nationalNumber := state.nationalNumber ++ [c] } := by
      refine ⟨?_, ?_, holds.unformatted, ?_, ?_, holds.extracted, holds.units, holds.served, holds.conserves⟩
      · rw [holds.input]
      · rw [holds.accrued]
      · rw [← List.append_assoc, holds.buffers]
      · rw [List.all_append, holds.digits, areDigits]
        rfl
    have shows : Shows u (typed ++ [c]) (inputDigitWithOptionToRememberPosition u state [c] false) := by
      unfold inputDigitWithOptionToRememberPosition
      rw [if_neg (by simp), accrued]
      dsimp only
      have lengths : (state.accruedInputWithoutFormatting ++ [c]).length = typed.length + 1 := by
        rw [holds.accrued, List.length_append, List.length_singleton]
      by_cases able : state.ableToFormat = true
      · rw [if_neg (by simp [able]), if_neg (by omega), if_neg (by omega)]
        obtain ⟨expecting, unchosen, chosen⟩ := ready able
        exact inputFurther_shows expressions inOrder holds' rfl ⟨expecting, unchosen, chosen⟩
      · have unable : state.ableToFormat = false := by simpa using able
        have slips := unslipped unable
        rw [accrued] at slips
        rw [if_pos (by simp [unable])]
        exact inputUnformatted_shows expressions inOrder dialling holds' unable slips
    obtain ⟨after, inputs, typed', dial⟩ := inputDigit_answers shows
    have lengths : (typed ++ [c]).length = typed.length + 1 := by simp
    exact ⟨after, inputs, Or.inr ⟨by omega, typed', dial⟩⟩

/-- A fresh formatter after some characters, one at a time. -/
def afterTyping (u : NBPhoneNumberUtil) (regionCode : Option NSString) (typed : NSString) : Objc NBAsYouTypeFormatter :=
  typed.foldlM (fun state c => inputDigit u state [c]) (initWithRegionCode u regionCode)

theorem afterTyping_append (before : NSString) (c : unichar) :
    afterTyping u regionCode (before ++ [c]) = afterTyping u regionCode before >>= fun state => inputDigit u state [c] := by
  unfold afterTyping
  rw [List.foldlM_append]
  congr 1
  funext state
  exact List.foldlM_cons.trans (bind_pure _)

/-- No character is typed into a formatter that gave up in a state where one of
the slips would follow. -/
def TypedUnslipped (u : NBPhoneNumberUtil) (regionCode : Option NSString) (typed : NSString) : Prop :=
  ∀ before c, before ++ [c] <+: typed → ∀ state, afterTyping u regionCode before = .ok state →
    state.ableToFormat = false → Unslipped u (accrue u state [c] false).2

theorem afterTyping_typing (expressions : u.TypingExpressions) (inOrder : u.FormatsUseGroupsInOrder)
    (dialling : IsDialling typed) (unslipped : TypedUnslipped u regionCode typed) :
    ∃ state, afterTyping u regionCode typed = .ok state ∧ Typing u regionCode typed state := by
  induction typed using List.reverseRecOn with
  | nil => exact ⟨_, rfl, Or.inl ⟨by decide, false, rfl⟩⟩
  | append_singleton before c ih =>
    obtain ⟨state, reached, typing⟩ := ih dialling.unsnoc.1 fun before' c' earlier =>
      unslipped before' c' (earlier.trans (List.prefix_append _ _))
    obtain ⟨after, inputs, typing'⟩ := inputDigit_typing expressions inOrder typing dialling
      (unslipped before c List.prefix_rfl state reached)
    refine ⟨after, ?_, typing'⟩
    rw [afterTyping_append, reached]
    exact inputs

/-- Where no slip is made every character typed is returned, in its order, and
the buffers hold all of them; a plus sign only after two more characters. -/
theorem inputDigit_conserves (expressions : u.TypingExpressions) (inOrder : u.FormatsUseGroupsInOrder)
    (dialling : IsDialling typed) (unslipped : TypedUnslipped u regionCode typed) :
    ∃ state, afterTyping u regionCode typed = .ok state ∧
      dialled state.currentOutput = typed ∧ state.accruedInputWithoutFormatting = typed ∧
      (3 ≤ typed.length → dialled (state.prefixBeforeNationalNumber ++ state.nationalNumber) = typed) ∧
      (typed.length < 3 →
        dialled (state.prefixBeforeNationalNumber ++ state.nationalNumber) = typed.filter isAsciiDigit) := by
  obtain ⟨state, reached, typing⟩ := afterTyping_typing expressions inOrder dialling unslipped
  refine ⟨state, reached, typing.dial dialling, typing.accrued, ?_⟩
  rcases typing with ⟨short, success, rfl⟩ | ⟨long, ⟨holds, _⟩, _⟩
  · refine ⟨fun long => absurd long (by omega), fun _ => ?_⟩
    have digits : (typed.filter isAsciiDigit).all isAsciiDigit := by simp
    exact dialled_digits digits
  · refine ⟨fun _ => ?_, fun short => absurd short (by omega)⟩
    rw [dialled_append, dialled_digits holds.digits, holds.buffers]

/-- A number that a format is found for never reaches a slip. -/
theorem sevenDigits_unslipped : TypedUnslipped typingRegions (some (ns "US")) (ns "2530000") := by
  have able : ∀ count < 7, ∀ state ∈ (afterTyping typingRegions (some (ns "US")) ((ns "2530000").take count)).toOption,
      state.ableToFormat = true := by decide +kernel
  intro before c earlier state reached unable
  have short : before.length < 7 := by
    have lengths : (before ++ [c]).length ≤ (ns "2530000").length := earlier.length_le
    rw [List.length_append, List.length_singleton] at lengths
    exact lengths
  have taken : before = (ns "2530000").take before.length :=
    List.prefix_iff_eq_take.mp ((List.prefix_append before [c]).trans earlier)
  have still : state.ableToFormat = true := by
    refine able before.length short state ?_
    rw [← taken, reached]
    rfl
  rw [still] at unable
  cases unable

theorem inputDigit_conserves_sevenDigits :
    ∃ state, afterTyping typingRegions (some (ns "US")) (ns "2530000") = .ok state ∧
      dialled state.currentOutput = ns "2530000" ∧ state.accruedInputWithoutFormatting = ns "2530000" ∧
      (3 ≤ (ns "2530000").length →
        dialled (state.prefixBeforeNationalNumber ++ state.nationalNumber) = ns "2530000") ∧
      ((ns "2530000").length < 3 →
        dialled (state.prefixBeforeNationalNumber ++ state.nationalNumber) = (ns "2530000").filter isAsciiDigit) :=
  inputDigit_conserves typingRegions_typingExpressions typingRegions_inOrder
    ⟨[], ns "2530000", rfl, Or.inl rfl, rfl⟩ sevenDigits_unslipped

/-- A plus sign alone is in one of the buffers only, and a digit is lost to
the buffers when a national prefix taken earlier is not the last thing taken. -/
theorem buffers_miss_plus_and_digit :
    typingRegions.TypingExpressions ∧ typingRegions.FormatsUseGroupsInOrder ∧ IsDialling (ns "+") ∧
      IsDialling (ns "152345") ∧
      (∃ state, afterTyping typingRegions (some (ns "US")) (ns "+") = .ok state ∧
        state.accruedInputWithoutFormatting = ns "+" ∧
        dialled (state.prefixBeforeNationalNumber ++ state.nationalNumber) = []) ∧
      ∃ state, afterTyping typingRegions (some (ns "RU")) (ns "152345") = .ok state ∧
        state.accruedInputWithoutFormatting = ns "152345" ∧
        dialled (state.prefixBeforeNationalNumber ++ state.nationalNumber) = ns "12345" := by
  have plus : (afterTyping typingRegions (some (ns "US")) (ns "+")).toOption.any fun state =>
      state.accruedInputWithoutFormatting = ns "+" ∧
        dialled (state.prefixBeforeNationalNumber ++ state.nationalNumber) = [] := by decide +kernel
  have slipped : (afterTyping typingRegions (some (ns "RU")) (ns "152345")).toOption.any fun state =>
      state.accruedInputWithoutFormatting = ns "152345" ∧
        dialled (state.prefixBeforeNationalNumber ++ state.nationalNumber) = ns "12345" := by decide +kernel
  obtain ⟨first, reachedFirst, misses⟩ := exists_ok_of_any plus
  obtain ⟨second, reachedSecond, loses⟩ := exists_ok_of_any slipped
  exact ⟨typingRegions_typingExpressions, typingRegions_inOrder, ⟨ns "+", [], rfl, Or.inr rfl, rfl⟩,
    ⟨[], ns "152345", rfl, Or.inl rfl, rfl⟩, ⟨first, reachedFirst, of_decide_eq_true misses⟩,
    ⟨second, reachedSecond, of_decide_eq_true loses⟩⟩

end Typing

end NBAsYouTypeFormatter

end SignalPods.PhoneNumber
