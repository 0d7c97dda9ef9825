import SignalPods.PhoneNumber.AsYouTypeFormatter
import SignalPods.Foundation.Relations

namespace SignalPods.PhoneNumber

open Foundation

namespace NBAsYouTypeFormatter

/-- What the input methods leave alone once they have accrued a character. -/
structure Origin where
  accruedInput : NSString
  defaultCountry : Option NSString
  defaultMetaData : NBPhoneMetaData

def origin (self : NBAsYouTypeFormatter) : Origin :=
  ⟨self.accruedInput, self.defaultCountry, self.defaultMetaData⟩

/-- What the formatting does not read. -/
structure Marks where
  isSuccessfulFormatting : Bool
  originalPosition : Nat
  positionToRemember : Nat

def withMarks (marks : Marks) (self : NBAsYouTypeFormatter) : NBAsYouTypeFormatter :=
  { self with
    isSuccessfulFormatting := marks.isSuccessfulFormatting
    originalPosition := marks.originalPosition
    positionToRemember := marks.positionToRemember }

/-- Two formatters that differ in their marks at most, and if they are alike in
the flag at most. -/
structure Twin (alike : Prop) (start : Origin) (one other : NBAsYouTypeFormatter) : Prop where
  same : ∃ marks, other = withMarks marks one
  kept : one.origin = start
  together : alike → one.originalPosition = other.originalPosition ∧
    one.positionToRemember = other.positionToRemember

/-- Outputs that agree, with formatters that are twins. -/
def TwinOutputs {Output : Type} (alike : Prop) (start : Origin) (x y : Output × NBAsYouTypeFormatter) : Prop :=
  x.1 = y.1 ∧ Twin alike start x.2 y.2

variable {u : NBPhoneNumberUtil} {alike : Prop} {start : Origin} {self other : NBAsYouTypeFormatter}

theorem Twin.imp {closer : Prop} (twin : Twin alike start self other) (fewer : closer → alike) :
    Twin closer start self other :=
  ⟨twin.same, twin.kept, fun near => twin.together (fewer near)⟩

theorem TwinOutputs.ite {Output : Type} {condition : Prop} [Decidable condition]
    {x₁ x₂ y₁ y₂ : Output × NBAsYouTypeFormatter}
    (yes : condition → TwinOutputs alike start x₁ y₁) (no : ¬ condition → TwinOutputs alike start x₂ y₂) :
    TwinOutputs alike start (if condition then x₁ else x₂) (if condition then y₁ else y₂) := by
  by_cases holds : condition
  · rw [if_pos holds, if_pos holds]
    exact yes holds
  · rw [if_neg holds, if_neg holds]
    exact no holds

theorem narrowDownPossibleFormats_twin (twin : Twin alike start self other) (leadingDigits : NSString) :
    Twin alike start (narrowDownPossibleFormats u self leadingDigits)
      (narrowDownPossibleFormats u other leadingDigits) := by
  obtain ⟨marks, rfl⟩ := twin.same
  exact ⟨⟨marks, rfl⟩, twin.kept, twin.together⟩

theorem getAvailableFormats_twin (twin : Twin alike start self other) (leadingDigits : NSString) :
    Twin alike start (getAvailableFormats u self leadingDigits) (getAvailableFormats u other leadingDigits) := by
  obtain ⟨marks, rfl⟩ := twin.same
  exact ⟨⟨marks, rfl⟩, twin.kept, twin.together⟩

theorem createFormattingTemplate_twin (twin : Twin alike start self other) (pattern : NSString)
    (format : NBNumberFormat) :
    Related (TwinOutputs alike start) (createFormattingTemplate u self pattern format)
      (createFormattingTemplate u other pattern format) := by
  obtain ⟨marks, rfl⟩ := twin.same
  unfold createFormattingTemplate
  refine Related.ite (fun _ => .returns ⟨rfl, twin⟩) (fun _ => ?_)
  exact Related.bind_same _ fun tempTemplate => .returns ⟨rfl, ⟨marks, rfl⟩, twin.kept, twin.together⟩

theorem firstTemplate_twin (twin : Twin alike start self other) (formats : List NBNumberFormat) :
    Related (TwinOutputs alike start) (firstTemplate u self formats) (firstTemplate u other formats) := by
  induction formats generalizing self other with
  | nil =>
    obtain ⟨marks, rfl⟩ := twin.same
    exact .returns ⟨rfl, ⟨marks, rfl⟩, twin.kept, twin.together⟩
  | cons numberFormat formats ih =>
    obtain ⟨marks, rfl⟩ := twin.same
    unfold firstTemplate
    refine Related.ite (fun _ => .returns ⟨rfl, twin⟩) (fun _ => ?_)
    refine (createFormattingTemplate_twin twin _ _).bind ?_
    rintro ⟨created, after⟩ ⟨_, afterOther⟩ ⟨rfl, twin⟩
    refine Related.ite (fun _ => ?_) (fun _ => ih twin)
    obtain ⟨marks, rfl⟩ := twin.same
    exact .returns ⟨rfl, ⟨marks, rfl⟩, twin.kept, twin.together⟩

theorem maybeCreateNewTemplate_twin (twin : Twin alike start self other) :
    Related (TwinOutputs alike start) (maybeCreateNewTemplate u self) (maybeCreateNewTemplate u other) := by
  have templates := firstTemplate_twin (u := u) twin self.possibleFormats
  obtain ⟨marks, rfl⟩ := twin.same
  exact templates

theorem inputDigitHelper_twin (twin : Twin alike start self other) (nextChar : NSString) :
    Related (TwinOutputs alike start) (inputDigitHelper u self nextChar) (inputDigitHelper u other nextChar) := by
  obtain ⟨marks, rfl⟩ := twin.same
  unfold inputDigitHelper
  refine Related.ite (fun _ => ?_) (fun _ => .returns ⟨rfl, ⟨marks, rfl⟩, twin.kept, twin.together⟩)
  dsimp only [withMarks]
  cases u.unicode.rangeOfString self.formattingTemplate NBDigitPlaceHolder with
  | none => exact .throws _
  | some location =>
    exact Related.bind_same _ fun output => .returns ⟨rfl, ⟨marks, rfl⟩, twin.kept, twin.together⟩

theorem formatByFirstMatch_twin (twin : Twin alike start self other) (formats : List NBNumberFormat) :
    TwinOutputs alike start (formatByFirstMatch u self formats) (formatByFirstMatch u other formats) := by
  obtain ⟨marks, rfl⟩ := twin.same
  induction formats with
  | nil => exact ⟨rfl, twin⟩
  | cons numberFormat formats ih =>
    unfold formatByFirstMatch
    exact TwinOutputs.ite (fun _ => ⟨rfl, ⟨marks, rfl⟩, twin.kept, twin.together⟩) (fun _ => ih)

theorem attemptToFormatAccruedDigits_twin (twin : Twin alike start self other) :
    TwinOutputs alike start (attemptToFormatAccruedDigits u self) (attemptToFormatAccruedDigits u other) := by
  have formatted := formatByFirstMatch_twin (u := u) twin self.possibleFormats
  obtain ⟨marks, rfl⟩ := twin.same
  exact formatted

theorem inputDigits_twin (twin : Twin alike start self other) (tempNationalNumber digits : NSString) :
    Related (TwinOutputs alike start) (inputDigits u self tempNationalNumber digits)
      (inputDigits u other tempNationalNumber digits) := by
  induction digits generalizing self other tempNationalNumber with
  | nil => exact .returns ⟨rfl, twin⟩
  | cons c digits ih =>
    refine (inputDigitHelper_twin twin [c]).bind ?_
    rintro ⟨output, after⟩ ⟨_, afterOther⟩ ⟨rfl, twin⟩
    exact ih twin output

theorem inputAccruedNationalNumber_twin (twin : Twin alike start self other) :
    Related (TwinOutputs alike start) (inputAccruedNationalNumber u self) (inputAccruedNationalNumber u other) := by
  have digits := inputDigits_twin (u := u) twin [] self.nationalNumber
  obtain ⟨marks, rfl⟩ := twin.same
  refine Related.ite (fun _ => ?_) (fun _ => .returns ⟨rfl, twin⟩)
  refine digits.bind ?_
  rintro ⟨output, after⟩ ⟨_, afterOther⟩ ⟨rfl, twin⟩
  obtain ⟨marks, rfl⟩ := twin.same
  exact .returns ⟨rfl, twin⟩

theorem attemptToChooseFormattingPattern_twin (twin : Twin alike start self other) :
    Related (TwinOutputs alike start) (attemptToChooseFormattingPattern u self)
      (attemptToChooseFormattingPattern u other) := by
  have available := getAvailableFormats_twin (u := u) twin self.nationalNumber
  have formatted := attemptToFormatAccruedDigits_twin (u := u) available
  obtain ⟨marks, rfl⟩ := twin.same
  unfold attemptToChooseFormattingPattern
  refine Related.ite (fun _ => ?_) (fun _ => .returns ⟨rfl, twin⟩)
  revert formatted
  dsimp only [withMarks]
  -- the formatted number and the formatter it leaves decide the rest
  generalize attemptToFormatAccruedDigits u _ = x
  generalize attemptToFormatAccruedDigits u _ = y
  intro formatted
  obtain ⟨output, after⟩ := x
  obtain ⟨_, afterOther⟩ := y
  obtain ⟨rfl, twin⟩ := formatted
  refine Related.ite (fun _ => .returns ⟨rfl, twin⟩) (fun _ => ?_)
  refine (maybeCreateNewTemplate_twin twin).bind ?_
  rintro ⟨created, after⟩ ⟨_, afterOther⟩ ⟨rfl, twin⟩
  refine Related.ite (fun _ => inputAccruedNationalNumber_twin twin) (fun _ => ?_)
  obtain ⟨marks, rfl⟩ := twin.same
  exact .returns ⟨rfl, twin⟩

theorem attemptToChoosePatternWithPrefixExtracted_twin (twin : Twin alike start self other) :
    Related (TwinOutputs alike start) (attemptToChoosePatternWithPrefixExtracted u self)
      (attemptToChoosePatternWithPrefixExtracted u other) := by
  obtain ⟨marks, rfl⟩ := twin.same
  exact attemptToChooseFormattingPattern_twin ⟨⟨marks, rfl⟩, twin.kept, twin.together⟩

theorem removeNationalPrefixFromNationalNumber_twin (twin : Twin alike start self other) :
    Related (TwinOutputs alike start) (removeNationalPrefixFromNationalNumber u self)
      (removeNationalPrefixFromNationalNumber u other) := by
  obtain ⟨marks, rfl⟩ := twin.same
  refine Related.bind_same self.isNanpaNumberWithNationalPrefix fun isNanpa => ?_
  exact Related.ite (fun _ => .returns ⟨rfl, ⟨marks, rfl⟩, twin.kept, twin.together⟩)
    (fun _ => .returns ⟨rfl, ⟨marks, rfl⟩, twin.kept, twin.together⟩)

theorem attemptToExtractIdd_twin (twin : Twin alike start self other) :
    TwinOutputs alike start (attemptToExtractIdd u self) (attemptToExtractIdd u other) := by
  obtain ⟨marks, rfl⟩ := twin.same
  unfold attemptToExtractIdd
  dsimp only [withMarks]
  generalize u.matchedStringByRegex self.accruedInputWithoutFormatting _ = found
  cases found with
  | nil => exact ⟨rfl, ⟨marks, rfl⟩, twin.kept, twin.together⟩
  | cons firstString others =>
    exact TwinOutputs.ite (fun _ => ⟨rfl, ⟨marks, rfl⟩, twin.kept, twin.together⟩)
      (fun _ => ⟨rfl, ⟨marks, rfl⟩, twin.kept, twin.together⟩)

theorem attemptToExtractCountryCallingCode_twin (twin : Twin alike start self other) :
    Related (TwinOutputs alike start) (attemptToExtractCountryCallingCode u self)
      (attemptToExtractCountryCallingCode u other) := by
  obtain ⟨marks, rfl⟩ := twin.same
  refine Related.ite (fun _ => .returns ⟨rfl, twin⟩) (fun _ => ?_)
  refine Related.bind_same _ fun extracted => ?_
  exact Related.ite (fun _ => .returns ⟨rfl, twin⟩)
    (fun _ => .returns ⟨rfl, ⟨marks, rfl⟩, twin.kept, twin.together⟩)

theorem putBackNationalPrefix_twin (twin : Twin alike start self other) :
    Twin alike start self.putBackNationalPrefix other.putBackNationalPrefix := by
  obtain ⟨marks, rfl⟩ := twin.same
  by_cases extracted : 0 < self.nationalPrefixExtracted.length
  · have one : self.putBackNationalPrefix = _ := if_pos extracted
    have other : (withMarks marks self).putBackNationalPrefix = _ := if_pos extracted
    rw [one, other]
    exact ⟨⟨marks, rfl⟩, twin.kept, twin.together⟩
  · have one : self.putBackNationalPrefix = self := if_neg extracted
    have other : (withMarks marks self).putBackNationalPrefix = withMarks marks self := if_neg extracted
    rw [one, other]
    exact twin

theorem ableToExtractLongerNdd_twin (twin : Twin alike start self other) :
    Related (TwinOutputs alike start) (ableToExtractLongerNdd u self) (ableToExtractLongerNdd u other) := by
  have removed := removeNationalPrefixFromNationalNumber_twin (u := u) (putBackNationalPrefix_twin twin)
  obtain ⟨marks, rfl⟩ := twin.same
  refine removed.bind ?_
  rintro ⟨taken, after⟩ ⟨_, afterOther⟩ ⟨rfl, twin⟩
  exact .returns ⟨rfl, twin⟩

theorem extractPrefixAgain_twin (twin : Twin alike start self other) :
    Related (TwinOutputs alike start) (extractPrefixAgain u self) (extractPrefixAgain u other) := by
  have idd := attemptToExtractIdd_twin (u := u) twin
  unfold extractPrefixAgain
  revert idd
  generalize attemptToExtractIdd u self = x
  generalize attemptToExtractIdd u other = y
  intro idd
  obtain ⟨found, after⟩ := x
  obtain ⟨_, afterOther⟩ := y
  obtain ⟨rfl, twin⟩ := idd
  cases found with
  | true => exact attemptToExtractCountryCallingCode_twin twin
  | false =>
    refine (ableToExtractLongerNdd_twin twin).bind ?_
    rintro ⟨able, after⟩ ⟨_, afterOther⟩ ⟨rfl, twin⟩
    obtain ⟨marks, rfl⟩ := twin.same
    exact Related.ite (fun _ => .returns ⟨rfl, ⟨marks, rfl⟩, twin.kept, twin.together⟩)
      (fun _ => .returns ⟨rfl, twin⟩)

/-- The same is returned, and the formatters are twins with one flag. -/
structure SameOutputs (alike : Prop) (start : Origin) (x y : NSString × NBAsYouTypeFormatter) : Prop where
  same : x.1 = y.1
  twin : Twin alike start x.2 y.2
  flag : x.2.isSuccessfulFormatting = y.2.isSuccessfulFormatting

/-- The flag is set in the end, whatever it was. -/
theorem TwinOutputs.successful {x y : NSString × NBAsYouTypeFormatter} (outputs : TwinOutputs alike start x y) :
    SameOutputs alike start (successful x) (successful y) := by
  obtain ⟨output, after⟩ := x
  obtain ⟨_, afterOther⟩ := y
  obtain ⟨rfl, twin⟩ := outputs
  obtain ⟨marks, rfl⟩ := twin.same
  exact ⟨rfl, ⟨⟨{ marks with isSuccessfulFormatting := true }, rfl⟩, twin.kept, twin.together⟩, rfl⟩

theorem TwinOutputs.unsuccessful {x y : NSString × NBAsYouTypeFormatter} (outputs : TwinOutputs alike start x y) :
    SameOutputs alike start (unsuccessful x) (unsuccessful y) := by
  obtain ⟨output, after⟩ := x
  obtain ⟨_, afterOther⟩ := y
  obtain ⟨rfl, twin⟩ := outputs
  obtain ⟨marks, rfl⟩ := twin.same
  exact ⟨rfl, ⟨⟨{ marks with isSuccessfulFormatting := false }, rfl⟩, twin.kept, twin.together⟩, rfl⟩

theorem inputUnformatted_same (twin : Twin alike start self other) :
    Related (SameOutputs alike start) (inputUnformatted u self) (inputUnformatted u other) := by
  have again := extractPrefixAgain_twin (u := u) twin
  obtain ⟨marks, rfl⟩ := twin.same
  refine Related.ite (fun _ => .returns (TwinOutputs.successful ⟨rfl, twin⟩)) (fun _ => ?_)
  refine again.bind ?_
  rintro ⟨extracted, after⟩ ⟨_, afterOther⟩ ⟨rfl, twin⟩
  cases extracted with
  | true =>
    refine (attemptToChoosePatternWithPrefixExtracted_twin twin).bind ?_
    exact fun x y outputs => .returns outputs.successful
  | false =>
    obtain ⟨marks, rfl⟩ := twin.same
    exact .returns (TwinOutputs.unsuccessful ⟨rfl, twin⟩)

theorem inputToPossibleFormats_same (twin : Twin alike start self other) (nextChar : NSString) :
    Related (SameOutputs alike start) (inputToPossibleFormats u self nextChar)
      (inputToPossibleFormats u other nextChar) := by
  refine (inputDigitHelper_twin twin nextChar).bind ?_
  rintro ⟨tempNationalNumber, after⟩ ⟨_, afterOther⟩ ⟨rfl, twin⟩
  have formatted := attemptToFormatAccruedDigits_twin (u := u) twin
  revert formatted
  dsimp only
  generalize attemptToFormatAccruedDigits u after = x
  generalize attemptToFormatAccruedDigits u afterOther = y
  intro formatted
  obtain ⟨output, after⟩ := x
  obtain ⟨_, afterOther⟩ := y
  obtain ⟨rfl, twin⟩ := formatted
  refine Related.ite (fun _ => .returns (TwinOutputs.successful ⟨rfl, twin⟩)) (fun _ => ?_)
  have narrowed := narrowDownPossibleFormats_twin (u := u) twin after.nationalNumber
  obtain ⟨marks, rfl⟩ := twin.same
  refine (maybeCreateNewTemplate_twin narrowed).bind ?_
  rintro ⟨created, after⟩ ⟨_, afterOther⟩ ⟨rfl, twin⟩
  refine Related.ite (fun _ => ?_) (fun _ => ?_)
  · exact (inputAccruedNationalNumber_twin twin).bind fun x y outputs => .returns outputs.successful
  · obtain ⟨marks, rfl⟩ := twin.same
    exact Related.ite (fun _ => .returns (TwinOutputs.successful ⟨rfl, twin⟩))
      (fun _ => .returns (TwinOutputs.unsuccessful ⟨rfl, twin⟩))

theorem inputFurther_same (twin : Twin alike start self other) (nextChar : NSString) :
    Related (SameOutputs alike start) (inputFurther u self nextChar) (inputFurther u other nextChar) := by
  have code := attemptToExtractCountryCallingCode_twin (u := u) twin
  have possible := inputToPossibleFormats_same (u := u) twin nextChar
  have chosen := attemptToChooseFormattingPattern_twin (u := u) twin
  obtain ⟨marks, rfl⟩ := twin.same
  refine Related.ite (fun _ => ?_) (fun _ => ?_)
  · refine code.bind ?_
    rintro ⟨extracted, after⟩ ⟨_, afterOther⟩ ⟨rfl, twin⟩
    obtain ⟨marks, rfl⟩ := twin.same
    cases extracted with
    | true => exact .returns (TwinOutputs.successful ⟨rfl, ⟨marks, rfl⟩, twin.kept, twin.together⟩)
    | false => exact .returns (TwinOutputs.successful ⟨rfl, twin⟩)
  · refine Related.ite (fun _ => possible) (fun _ => ?_)
    exact chosen.bind fun x y outputs => .returns outputs.unsuccessful

theorem inputThird_same (twin : Twin alike start self other) (nextChar : NSString) :
    Related (SameOutputs alike start) (inputThird u self nextChar) (inputThird u other nextChar) := by
  have idd := attemptToExtractIdd_twin (u := u) twin
  unfold inputThird
  revert idd
  generalize attemptToExtractIdd u self = x
  generalize attemptToExtractIdd u other = y
  intro idd
  obtain ⟨found, after⟩ := x
  obtain ⟨_, afterOther⟩ := y
  obtain ⟨rfl, twin⟩ := idd
  cases found with
  | true =>
    obtain ⟨marks, rfl⟩ := twin.same
    have expecting : Twin alike start { after with isExpectingCountryCallingCode := true }
        { withMarks marks after with isExpectingCountryCallingCode := true } :=
      ⟨⟨marks, rfl⟩, twin.kept, twin.together⟩
    exact inputFurther_same expecting nextChar
  | false =>
    refine (removeNationalPrefixFromNationalNumber_twin twin).bind ?_
    rintro ⟨nationalPrefixExtracted, after⟩ ⟨_, afterOther⟩ ⟨rfl, twin⟩
    obtain ⟨marks, rfl⟩ := twin.same
    have extracted : Twin alike start { after with nationalPrefixExtracted := nationalPrefixExtracted }
        { withMarks marks after with nationalPrefixExtracted := nationalPrefixExtracted } :=
      ⟨⟨marks, rfl⟩, twin.kept, twin.together⟩
    refine (attemptToChooseFormattingPattern_twin extracted).bind ?_
    exact fun x y outputs => .returns outputs.successful

/-- The origin with one more string accrued. -/
def Origin.accrue (start : Origin) (nextChar : NSString) : Origin :=
  { start with accruedInput := start.accruedInput ++ nextChar }

/-- The two formatters may be told differently whether to remember the position. -/
theorem Twin.remembered (twin : Twin alike start self other) (remember rememberOther : Bool) :
    Twin (alike ∧ remember = rememberOther) start
      (if remember then { self with positionToRemember := self.accruedInputWithoutFormatting.length } else self)
      (if rememberOther then { other with positionToRemember := other.accruedInputWithoutFormatting.length }
        else other) := by
  obtain ⟨marks, rfl⟩ := twin.same
  refine ⟨?_, ?_, ?_⟩
  · refine ⟨if rememberOther then { marks with positionToRemember := self.accruedInputWithoutFormatting.length }
      else marks, ?_⟩
    cases remember <;> cases rememberOther <;> rfl
  · cases remember <;> exact twin.kept
  · rintro ⟨positions, rfl⟩
    cases remember with
    | false => exact twin.together positions
    | true => exact ⟨(twin.together positions).1, rfl⟩

theorem normalizeAndAccrue_twin (twin : Twin alike start self other) (nextChar : NSString)
    (remember rememberOther : Bool) :
    TwinOutputs (alike ∧ remember = rememberOther) start
      (self.normalizeAndAccrueDigitsAndPlusSign nextChar remember)
      (other.normalizeAndAccrueDigitsAndPlusSign nextChar rememberOther) := by
  obtain ⟨marks, rfl⟩ := twin.same
  have unread : Twin (alike ∧ remember = rememberOther) start self (withMarks marks self) := twin.imp And.left
  refine TwinOutputs.ite (fun _ => ⟨rfl, ?_⟩) (fun _ => ?_)
  · have written : Twin alike start
        { self with accruedInputWithoutFormatting := self.accruedInputWithoutFormatting ++ nextChar }
        (withMarks marks
          { self with accruedInputWithoutFormatting := self.accruedInputWithoutFormatting ++ nextChar }) :=
      ⟨⟨marks, rfl⟩, twin.kept, twin.together⟩
    exact written.remembered remember rememberOther
  · match nextChar with
    | [] => exact ⟨rfl, unread⟩
    | [c] =>
      dsimp only
      cases DIGIT_MAPPINGS c with
      | none => exact ⟨rfl, unread⟩
      | some normalizedChar =>
        have written : Twin alike start
            { self with
              accruedInputWithoutFormatting := self.accruedInputWithoutFormatting ++ [normalizedChar]
              nationalNumber := self.nationalNumber ++ [normalizedChar] }
            (withMarks marks
              { self with
                accruedInputWithoutFormatting := self.accruedInputWithoutFormatting ++ [normalizedChar]
                nationalNumber := self.nationalNumber ++ [normalizedChar] }) :=
          ⟨⟨marks, rfl⟩, twin.kept, twin.together⟩
        exact ⟨rfl, written.remembered remember rememberOther⟩
    | _ :: _ :: _ => exact ⟨rfl, unread⟩

theorem accrue_twin (twin : Twin alike start self other) (nextChar : NSString) (remember rememberOther : Bool) :
    TwinOutputs (alike ∧ remember = rememberOther) (start.accrue nextChar) (accrue u self nextChar remember)
      (accrue u other nextChar rememberOther) := by
  obtain ⟨marks, rfl⟩ := twin.same
  obtain rfl := twin.kept
  -- the position of the last character is remembered before it is read
  have written : Twin (alike ∧ remember = rememberOther) (self.origin.accrue nextChar)
      (if remember then
        { self with
          accruedInput := self.accruedInput ++ nextChar
          originalPosition := (self.accruedInput ++ nextChar).length }
        else { self with accruedInput := self.accruedInput ++ nextChar })
      (if rememberOther then
        { withMarks marks self with
          accruedInput := self.accruedInput ++ nextChar
          originalPosition := (self.accruedInput ++ nextChar).length }
        else { withMarks marks self with accruedInput := self.accruedInput ++ nextChar }) := by
    refine ⟨?_, ?_, ?_⟩
    · refine ⟨if rememberOther then { marks with originalPosition := (self.accruedInput ++ nextChar).length }
        else marks, ?_⟩
      cases remember <;> cases rememberOther <;> rfl
    · cases remember <;> rfl
    · rintro ⟨positions, rfl⟩
      cases remember with
      | false => exact twin.together positions
      | true => exact ⟨rfl, (twin.together positions).2⟩
  have rest (one other : NBAsYouTypeFormatter)
      (twin : Twin (alike ∧ remember = rememberOther) (self.origin.accrue nextChar) one other) :
      TwinOutputs (alike ∧ remember = rememberOther) (self.origin.accrue nextChar)
        (if isDigitOrLeadingPlusSign u one nextChar then one.normalizeAndAccrueDigitsAndPlusSign nextChar remember
          else (nextChar, { one with ableToFormat := false, inputHasFormatting := true }))
        (if isDigitOrLeadingPlusSign u other nextChar then
          other.normalizeAndAccrueDigitsAndPlusSign nextChar rememberOther
          else (nextChar, { other with ableToFormat := false, inputHasFormatting := true })) := by
    have accrued := normalizeAndAccrue_twin twin nextChar remember rememberOther
    obtain ⟨marks, rfl⟩ := twin.same
    refine TwinOutputs.ite (fun _ => ?_) (fun _ => ⟨rfl, ⟨marks, rfl⟩, twin.kept, twin.together⟩)
    exact ⟨accrued.1, accrued.2.imp fun both => ⟨both, both.2⟩⟩
  exact rest _ _ written

/-- What a string leads to does not depend on the marks before it. -/
theorem inputDigitWithOption_same (twin : Twin alike start self other) {nextChar : NSString} (typed : nextChar ≠ [])
    (remember rememberOther : Bool) :
    Related (SameOutputs (alike ∧ remember = rememberOther) (start.accrue nextChar))
      (inputDigitWithOptionToRememberPosition u self nextChar remember)
      (inputDigitWithOptionToRememberPosition u other nextChar rememberOther) := by
  have accrued := accrue_twin (u := u) twin nextChar remember rememberOther
  have nonempty : nextChar.isEmpty = false := by simpa using typed
  unfold inputDigitWithOptionToRememberPosition
  rw [nonempty, if_neg Bool.false_ne_true, if_neg Bool.false_ne_true]
  revert accrued
  generalize accrue u self nextChar remember = x
  generalize accrue u other nextChar rememberOther = y
  intro accrued
  obtain ⟨normalized, after⟩ := x
  obtain ⟨_, afterOther⟩ := y
  obtain ⟨rfl, twin⟩ := accrued
  have unformatted := inputUnformatted_same (u := u) twin
  have third := inputThird_same (u := u) twin normalized
  have further := inputFurther_same (u := u) twin normalized
  obtain ⟨marks, rfl⟩ := twin.same
  refine Related.ite (fun _ => unformatted) (fun _ => ?_)
  refine Related.ite (fun _ => .returns (TwinOutputs.successful ⟨rfl, twin⟩)) (fun _ => ?_)
  exact Related.ite (fun _ => third) (fun _ => further)

/-- Twins with one flag. -/
structure SameFormatter (alike : Prop) (start : Origin) (one other : NBAsYouTypeFormatter) : Prop where
  twin : Twin alike start one other
  flag : one.isSuccessfulFormatting = other.isSuccessfulFormatting

theorem SameFormatter.eq (same : SameFormatter alike start self other) (positions : alike) : self = other := by
  obtain ⟨marks, rfl⟩ := same.twin.same
  obtain ⟨original, remembered⟩ := same.twin.together positions
  have flag := same.flag
  cases self
  simp_all [withMarks]

theorem SameOutputs.shown {x y : NSString × NBAsYouTypeFormatter} (outputs : SameOutputs alike start x y) :
    SameFormatter alike start { x.2 with currentOutput := x.1 } { y.2 with currentOutput := y.1 } := by
  obtain ⟨output, after⟩ := x
  obtain ⟨_, afterOther⟩ := y
  obtain ⟨rfl, twin, flag⟩ := outputs
  obtain ⟨marks, rfl⟩ := twin.same
  exact ⟨⟨⟨marks, rfl⟩, twin.kept, twin.together⟩, flag⟩

/-- A string that is not empty with either of the two input methods. -/
theorem input_eq (self : NBAsYouTypeFormatter) {nextChar : NSString} (typed : nextChar ≠ []) (remember : Bool) :
    (if remember then inputDigitAndRememberPosition u self nextChar else inputDigit u self nextChar) =
      inputDigitWithOptionToRememberPosition u self nextChar remember >>= fun x =>
        pure { x.2 with currentOutput := x.1 } := by
  have nonempty : nextChar.isEmpty = false := by simpa using typed
  unfold inputDigitAndRememberPosition inputDigit
  rw [nonempty]
  cases remember <;> rfl

/-- Twins go on as twins with one flag. -/
theorem input_same (twin : Twin alike start self other) {nextChar : NSString} (typed : nextChar ≠ [])
    (remember rememberOther : Bool) :
    Related (SameFormatter (alike ∧ remember = rememberOther) (start.accrue nextChar))
      (if remember then inputDigitAndRememberPosition u self nextChar else inputDigit u self nextChar)
      (if rememberOther then inputDigitAndRememberPosition u other nextChar else inputDigit u other nextChar) := by
  rw [input_eq self typed remember, input_eq other typed rememberOther]
  exact (inputDigitWithOption_same twin typed remember rememberOther).bind fun x y outputs => .returns outputs.shown

end NBAsYouTypeFormatter

end SignalPods.PhoneNumber
