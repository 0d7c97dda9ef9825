import SignalPods.PhoneNumber.AsYouTypeFormatter
import SignalPods.Foundation.Relations

namespace SignalPods.PhoneNumber

open Foundation

namespace NBAsYouTypeFormatter

/-- What the formatting does not read, but for the input that it may show as it is. -/
structure Frame where
  currentOutput : NSString
  accruedInput : NSString
  originalPosition : Nat
  positionToRemember : Nat

def framed (frame : Frame) (self : NBAsYouTypeFormatter) : NBAsYouTypeFormatter :=
  { self with
    currentOutput := frame.currentOutput
    accruedInput := frame.accruedInput
    originalPosition := frame.originalPosition
    positionToRemember := frame.positionToRemember }

/-- The same is returned in another frame, and the input is kept. -/
structure Framed {Output : Type} (typed : NSString) (frame : Frame) (x y : Output × NBAsYouTypeFormatter) : Prop where
  kept : x.2.accruedInput = typed
  same : y = (x.1, framed frame x.2)

/-- The same is shown, or each of two inputs after the same characters. -/
def ShownAlike (typed entered output shown : NSString) : Prop :=
  shown = output ∨ ∃ start, output = start ++ typed ∧ shown = start ++ entered

/-- What is shown in another frame is alike, and the input is kept. -/
structure Redrawn (typed : NSString) (frame : Frame) (x y : NSString × NBAsYouTypeFormatter) : Prop where
  kept : x.2.accruedInput = typed
  same : y.2 = framed frame x.2
  shown : ShownAlike typed frame.accruedInput x.1 y.1

variable {u : NBPhoneNumberUtil} {typed : NSString} {frame : Frame} {self : NBAsYouTypeFormatter}

theorem redrawn_accruedInput (kept : self.accruedInput = typed) :
    Redrawn typed frame (self.accruedInput, self) (frame.accruedInput, framed frame self) :=
  ⟨kept, rfl, Or.inr ⟨[], kept, rfl⟩⟩

theorem Redrawn.successful {x y : NSString × NBAsYouTypeFormatter} (redrawn : Redrawn typed frame x y) :
    Redrawn typed frame (successful x) (successful y) := by
  obtain ⟨output, state⟩ := y
  obtain ⟨kept, rfl, shown⟩ := redrawn
  exact ⟨kept, rfl, shown⟩

theorem Redrawn.unsuccessful {x y : NSString × NBAsYouTypeFormatter} (redrawn : Redrawn typed frame x y) :
    Redrawn typed frame (unsuccessful x) (unsuccessful y) := by
  obtain ⟨output, state⟩ := y
  obtain ⟨kept, rfl, shown⟩ := redrawn
  exact ⟨kept, rfl, shown⟩

section Templates

theorem createFormattingTemplate_framed (kept : self.accruedInput = typed) (pattern : NSString) (format : NBNumberFormat) :
    Related (Framed typed frame) (createFormattingTemplate u self pattern format)
      (createFormattingTemplate u (framed frame self) pattern format) := by
  unfold createFormattingTemplate
  refine Related.ite (fun _ => .returns ⟨kept, rfl⟩) (fun _ => ?_)
  exact Related.bind_same (getFormattingTemplate u self (templatePattern u pattern) (format.format.getD []))
    fun tempTemplate => .returns ⟨kept, rfl⟩

theorem firstTemplate_framed (kept : self.accruedInput = typed) (formats : List NBNumberFormat) :
    Related (Framed typed frame) (firstTemplate u self formats) (firstTemplate u (framed frame self) formats) := by
  induction formats generalizing self with
  | nil => exact .returns ⟨kept, rfl⟩
  | cons numberFormat formats ih =>
    unfold firstTemplate
    refine Related.ite (fun _ => .returns ⟨kept, rfl⟩) (fun _ => ?_)
    refine (createFormattingTemplate_framed kept _ _).bind ?_
    rintro ⟨created, after⟩ _ ⟨kept, rfl⟩
    exact Related.ite (fun _ => .returns ⟨kept, rfl⟩) (fun _ => ih kept)

theorem maybeCreateNewTemplate_framed (kept : self.accruedInput = typed) :
    Related (Framed typed frame) (maybeCreateNewTemplate u self) (maybeCreateNewTemplate u (framed frame self)) :=
  firstTemplate_framed kept self.possibleFormats

theorem formatByFirstMatch_framed (kept : self.accruedInput = typed) (formats : List NBNumberFormat) :
    Framed typed frame (formatByFirstMatch u self formats) (formatByFirstMatch u (framed frame self) formats) := by
  induction formats with
  | nil => exact ⟨kept, rfl⟩
  | cons numberFormat formats ih =>
    have national : (framed frame self).nationalNumber = self.nationalNumber := rfl
    unfold formatByFirstMatch
    rw [national]
    dsimp only
    split
    · exact ⟨kept, rfl⟩
    · exact ih

theorem attemptToFormatAccruedDigits_framed (kept : self.accruedInput = typed) :
    Framed typed frame (attemptToFormatAccruedDigits u self) (attemptToFormatAccruedDigits u (framed frame self)) :=
  formatByFirstMatch_framed kept self.possibleFormats

theorem inputDigitHelper_redrawn (kept : self.accruedInput = typed) (nextChar : NSString) :
    Related (Redrawn typed frame) (inputDigitHelper u self nextChar) (inputDigitHelper u (framed frame self) nextChar) := by
  unfold inputDigitHelper
  refine Related.ite (fun _ => ?_) (fun _ => ?_)
  · have template : (framed frame self).formattingTemplate = self.formattingTemplate := rfl
    rw [template]
    cases u.unicode.rangeOfString self.formattingTemplate NBDigitPlaceHolder with
    | none => exact .throws _
    | some location => exact Related.bind_same _ fun output => .returns ⟨kept, rfl, Or.inl rfl⟩
  · exact .returns ⟨kept, rfl, Or.inr ⟨[], kept, rfl⟩⟩

theorem inputDigits_redrawn (kept : self.accruedInput = typed) (digits : NSString) {output shown : NSString}
    (alike : ShownAlike typed frame.accruedInput output shown) :
    Related (Redrawn typed frame) (inputDigits u self output digits) (inputDigits u (framed frame self) shown digits) := by
  induction digits generalizing self output shown with
  | nil => exact .returns ⟨kept, rfl, alike⟩
  | cons c digits ih =>
    refine (inputDigitHelper_redrawn kept [c]).bind ?_
    rintro ⟨output, after⟩ ⟨shown, _⟩ ⟨kept, rfl, alike⟩
    exact ih kept alike

theorem appendNationalNumber_eq (self : NBAsYouTypeFormatter) :
    ∃ before, ∀ nationalNumber, self.appendNationalNumber nationalNumber = before ++ nationalNumber := by
  unfold appendNationalNumber
  split
  · exact ⟨_, fun _ => rfl⟩
  · exact ⟨_, fun _ => rfl⟩

/-- What comes before the national number comes before either input. -/
theorem ShownAlike.append {entered output shown : NSString} (alike : ShownAlike typed entered output shown)
    (self : NBAsYouTypeFormatter) :
    ShownAlike typed entered (self.appendNationalNumber output) (self.appendNationalNumber shown) := by
  obtain ⟨before, appended⟩ := self.appendNationalNumber_eq
  rw [appended, appended]
  rcases alike with rfl | ⟨start, rfl, rfl⟩
  · exact Or.inl rfl
  · exact Or.inr ⟨before ++ start, (List.append_assoc ..).symm, (List.append_assoc ..).symm⟩

theorem inputAccruedNationalNumber_redrawn (kept : self.accruedInput = typed) :
    Related (Redrawn typed frame) (inputAccruedNationalNumber u self) (inputAccruedNationalNumber u (framed frame self)) := by
  unfold inputAccruedNationalNumber
  refine Related.ite (fun _ => ?_) (fun _ => .returns ⟨kept, rfl, Or.inl rfl⟩)
  refine (inputDigits_redrawn kept self.nationalNumber (Or.inl rfl)).bind ?_
  rintro ⟨output, after⟩ ⟨shown, _⟩ ⟨kept, rfl, alike⟩
  refine .returns ?_
  have able : (framed frame after).ableToFormat = after.ableToFormat := rfl
  dsimp only
  rw [able]
  split
  · exact ⟨kept, rfl, alike.append after⟩
  · exact redrawn_accruedInput kept

theorem attemptToChooseFormattingPattern_redrawn (kept : self.accruedInput = typed) :
    Related (Redrawn typed frame) (attemptToChooseFormattingPattern u self)
      (attemptToChooseFormattingPattern u (framed frame self)) := by
  unfold attemptToChooseFormattingPattern
  refine Related.ite (fun _ => ?_) (fun _ => .returns ⟨kept, rfl, Or.inl rfl⟩)
  have formatted : Framed typed frame (attemptToFormatAccruedDigits u (getAvailableFormats u self self.nationalNumber))
      (attemptToFormatAccruedDigits u
        (getAvailableFormats u (framed frame self) (framed frame self).nationalNumber)) :=
    attemptToFormatAccruedDigits_framed kept
  obtain ⟨kept, same⟩ := formatted
  rw [same]
  generalize attemptToFormatAccruedDigits u (getAvailableFormats u self self.nationalNumber) = result at kept ⊢
  obtain ⟨formattedNumber, after⟩ := result
  refine Related.ite (fun _ => .returns ⟨kept, rfl, Or.inl rfl⟩) (fun _ => ?_)
  refine (maybeCreateNewTemplate_framed kept).bind ?_
  rintro ⟨created, after⟩ _ ⟨kept, rfl⟩
  exact Related.ite (fun _ => inputAccruedNationalNumber_redrawn kept) (fun _ => .returns (redrawn_accruedInput kept))

end Templates

section Extraction

theorem removeNationalPrefixFromNationalNumber_framed (kept : self.accruedInput = typed) :
    Related (Framed typed frame) (removeNationalPrefixFromNationalNumber u self)
      (removeNationalPrefixFromNationalNumber u (framed frame self)) := by
  refine Related.bind_same self.isNanpaNumberWithNationalPrefix fun isNanpa => ?_
  exact Related.ite (fun _ => .returns ⟨kept, rfl⟩) (fun _ => .returns ⟨kept, rfl⟩)

theorem attemptToExtractIdd_framed (kept : self.accruedInput = typed) :
    Framed typed frame (attemptToExtractIdd u self) (attemptToExtractIdd u (framed frame self)) := by
  have accrued : (framed frame self).accruedInputWithoutFormatting = self.accruedInputWithoutFormatting := rfl
  have metadata : (framed frame self).currentMetaData = self.currentMetaData := rfl
  unfold attemptToExtractIdd
  rw [accrued, metadata]
  dsimp only
  generalize u.matchedStringByRegex self.accruedInputWithoutFormatting _ = found
  cases found with
  | nil => exact ⟨kept, rfl⟩
  | cons firstString others =>
    dsimp only
    split
    · exact ⟨kept, rfl⟩
    · exact ⟨kept, rfl⟩

theorem attemptToExtractCountryCallingCode_framed (kept : self.accruedInput = typed) :
    Related (Framed typed frame) (attemptToExtractCountryCallingCode u self)
      (attemptToExtractCountryCallingCode u (framed frame self)) := by
  refine Related.ite (fun _ => .returns ⟨kept, rfl⟩) (fun _ => ?_)
  refine Related.bind_same _ fun extracted => ?_
  exact Related.ite (fun _ => .returns ⟨kept, rfl⟩) (fun _ => .returns ⟨kept, rfl⟩)

theorem putBackNationalPrefix_framed (frame : Frame) (self : NBAsYouTypeFormatter) :
    (framed frame self).putBackNationalPrefix = framed frame self.putBackNationalPrefix := by
  by_cases extracted : 0 < self.nationalPrefixExtracted.length
  · have one : self.putBackNationalPrefix = _ := if_pos extracted
    have other : (framed frame self).putBackNationalPrefix = _ := if_pos extracted
    rw [one, other]
    rfl
  · have one : self.putBackNationalPrefix = self := if_neg extracted
    have other : (framed frame self).putBackNationalPrefix = framed frame self := if_neg extracted
    rw [one, other]

theorem ableToExtractLongerNdd_framed (kept : self.accruedInput = typed) :
    Related (Framed typed frame) (ableToExtractLongerNdd u self) (ableToExtractLongerNdd u (framed frame self)) := by
  have back : self.putBackNationalPrefix.accruedInput = typed := by
    unfold putBackNationalPrefix
    split
    · exact kept
    · exact kept
  unfold ableToExtractLongerNdd
  rw [putBackNationalPrefix_framed]
  refine (removeNationalPrefixFromNationalNumber_framed back).bind ?_
  rintro ⟨removed, after⟩ _ ⟨kept, rfl⟩
  exact .returns ⟨kept, rfl⟩

theorem extractPrefixAgain_framed (kept : self.accruedInput = typed) :
    Related (Framed typed frame) (extractPrefixAgain u self) (extractPrefixAgain u (framed frame self)) := by
  have idd : Framed typed frame (attemptToExtractIdd u self) (attemptToExtractIdd u (framed frame self)) :=
    attemptToExtractIdd_framed kept
  obtain ⟨kept, same⟩ := idd
  unfold extractPrefixAgain
  rw [same]
  generalize attemptToExtractIdd u self = result at kept ⊢
  obtain ⟨found, after⟩ := result
  cases found with
  | true => exact attemptToExtractCountryCallingCode_framed kept
  | false =>
    refine (ableToExtractLongerNdd_framed kept).bind ?_
    rintro ⟨able, after⟩ _ ⟨kept, rfl⟩
    exact Related.ite (fun _ => .returns ⟨kept, rfl⟩) (fun _ => .returns ⟨kept, rfl⟩)

end Extraction

section Input

theorem inputUnformatted_redrawn (kept : self.accruedInput = typed) :
    Related (Redrawn typed frame) (inputUnformatted u self) (inputUnformatted u (framed frame self)) := by
  refine Related.ite (fun _ => .returns (redrawn_accruedInput kept).successful) (fun _ => ?_)
  refine (extractPrefixAgain_framed kept).bind ?_
  rintro ⟨extracted, after⟩ _ ⟨kept, rfl⟩
  cases extracted with
  | true =>
    have choosing : NBAsYouTypeFormatter.accruedInput
        { after with ableToFormat := true, isExpectingCountryCallingCode := false, possibleFormats := [] } = typed := kept
    exact (attemptToChooseFormattingPattern_redrawn choosing).bind fun x y redrawn => .returns redrawn.successful
  | false => exact .returns (redrawn_accruedInput kept).unsuccessful

theorem inputToPossibleFormats_redrawn (kept : self.accruedInput = typed) (nextChar : NSString) :
    Related (Redrawn typed frame) (inputToPossibleFormats u self nextChar)
      (inputToPossibleFormats u (framed frame self) nextChar) := by
  refine (inputDigitHelper_redrawn kept nextChar).bind ?_
  rintro ⟨output, after⟩ ⟨shown, _⟩ ⟨kept, rfl, alike⟩
  have formatted : Framed typed frame (attemptToFormatAccruedDigits u after)
      (attemptToFormatAccruedDigits u (framed frame after)) := attemptToFormatAccruedDigits_framed kept
  obtain ⟨kept, same⟩ := formatted
  dsimp only
  rw [same]
  generalize attemptToFormatAccruedDigits u after = result at kept ⊢
  obtain ⟨formattedNumber, formattedAfter⟩ := result
  refine Related.ite (fun _ => .returns ⟨kept, rfl, Or.inl rfl⟩) (fun _ => ?_)
  have narrowed : (narrowDownPossibleFormats u formattedAfter formattedAfter.nationalNumber).accruedInput = typed := kept
  refine (maybeCreateNewTemplate_framed narrowed).bind ?_
  rintro ⟨created, last⟩ _ ⟨kept, rfl⟩
  refine Related.ite (fun _ => ?_) (fun _ => ?_)
  · exact (inputAccruedNationalNumber_redrawn kept).bind fun x y redrawn => .returns redrawn.successful
  · refine Related.ite (fun _ => .returns ?_) (fun _ => .returns (redrawn_accruedInput kept).unsuccessful)
    exact ⟨kept, rfl, alike.append last⟩

theorem inputFurther_redrawn (kept : self.accruedInput = typed) (nextChar : NSString) :
    Related (Redrawn typed frame) (inputFurther u self nextChar) (inputFurther u (framed frame self) nextChar) := by
  unfold inputFurther
  refine Related.ite (fun _ => ?_) (fun _ => ?_)
  · refine (attemptToExtractCountryCallingCode_framed kept).bind ?_
    rintro ⟨extracted, after⟩ _ ⟨kept, rfl⟩
    cases extracted with
    | true => exact .returns ⟨kept, rfl, Or.inl rfl⟩
    | false => exact .returns ⟨kept, rfl, Or.inl rfl⟩
  · refine Related.ite (fun _ => inputToPossibleFormats_redrawn kept nextChar) (fun _ => ?_)
    exact (attemptToChooseFormattingPattern_redrawn kept).bind fun x y redrawn => .returns redrawn.unsuccessful

theorem inputThird_redrawn (kept : self.accruedInput = typed) (nextChar : NSString) :
    Related (Redrawn typed frame) (inputThird u self nextChar) (inputThird u (framed frame self) nextChar) := by
  have idd : Framed typed frame (attemptToExtractIdd u self) (attemptToExtractIdd u (framed frame self)) :=
    attemptToExtractIdd_framed kept
  obtain ⟨kept, same⟩ := idd
  unfold inputThird
  rw [same]
  generalize attemptToExtractIdd u self = result at kept ⊢
  obtain ⟨found, after⟩ := result
  cases found with
  | true =>
    have expecting : NBAsYouTypeFormatter.accruedInput { after with isExpectingCountryCallingCode := true } = typed := kept
    exact inputFurther_redrawn expecting nextChar
  | false =>
    refine (removeNationalPrefixFromNationalNumber_framed kept).bind ?_
    rintro ⟨nationalPrefixExtracted, last⟩ _ ⟨kept, rfl⟩
    have extracted : NBAsYouTypeFormatter.accruedInput
        { last with nationalPrefixExtracted := nationalPrefixExtracted } = typed := kept
    exact (attemptToChooseFormattingPattern_redrawn extracted).bind fun x y redrawn => .returns redrawn.successful

/-- Once two formatters have accrued a character alike they go on alike. -/
theorem inputDigitWithOption_redrawn {plain entered : NBAsYouTypeFormatter} {character nextChar normalized : NSString}
    {remember rememberOther : Bool} (some_character : character ≠ []) (some_next : nextChar ≠ [])
    (accrued : accrue u plain character remember = (normalized, self))
    (accruedOther : accrue u entered nextChar rememberOther = (normalized, framed frame self))
    (kept : self.accruedInput = typed) :
    Related (Redrawn typed frame) (inputDigitWithOptionToRememberPosition u plain character remember)
      (inputDigitWithOptionToRememberPosition u entered nextChar rememberOther) := by
  unfold inputDigitWithOptionToRememberPosition
  rw [if_neg (by simpa using some_character), if_neg (by simpa using some_next), accrued, accruedOther]
  dsimp only
  refine Related.ite (fun _ => inputUnformatted_redrawn kept) (fun _ => ?_)
  refine Related.ite (fun _ => .returns (redrawn_accruedInput kept).successful) (fun _ => ?_)
  exact Related.ite (fun _ => inputThird_redrawn kept normalized) (fun _ => inputFurther_redrawn kept normalized)

end Input

end NBAsYouTypeFormatter

end SignalPods.PhoneNumber
