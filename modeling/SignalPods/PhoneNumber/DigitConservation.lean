import SignalPods.PhoneNumber.FormattingTemplates
import SignalPods.PhoneNumber.CallingCodes

namespace SignalPods.PhoneNumber

open Foundation

def NBPhoneMetaData.formats (metadata : NBPhoneMetaData) : List NBNumberFormat :=
  metadata.numberFormats ++ metadata.intlNumberFormats

namespace NBPhoneNumberUtil

/-- All formats that a formatter can choose use the groups of their patterns
once and in order. -/
def FormatsUseGroupsInOrder (u : NBPhoneNumberUtil) : Prop :=
  ∀ metadata, u.Serves metadata → ∀ format ∈ metadata.formats,
    NBAsYouTypeFormatter.isFormatEligible u format.format → u.UsesGroupsInOrder format

end NBPhoneNumberUtil

namespace NBAsYouTypeFormatter

open NBPhoneNumberUtil

variable {u : NBPhoneNumberUtil}

/-- Digits with at most one plus sign, before them. -/
def IsDialling (typed : NSString) : Prop :=
  ∃ sign digits, typed = sign ++ digits ∧ (sign = [] ∨ sign = ns "+") ∧ digits.all isAsciiDigit

theorem IsDialling.drop_digits {typed : NSString} (dialling : IsDialling typed) {index : Nat} (positive : 0 < index) :
    (typed.drop index).all isAsciiDigit := by
  obtain ⟨sign, digits, rfl, plus, areDigits⟩ := dialling
  rw [List.all_eq_true] at areDigits ⊢
  intro c member
  rw [List.drop_append] at member
  have none : sign.drop index = [] := by
    rcases plus with rfl | rfl
    · exact List.drop_nil
    · exact List.drop_of_length_le positive
  rw [none, List.nil_append] at member
  exact areDigits c (List.mem_of_mem_drop member)

theorem IsDialling.dialled_typed {typed : NSString} (dialling : IsDialling typed) : dialled typed = typed := by
  obtain ⟨sign, digits, rfl, plus, areDigits⟩ := dialling
  rw [dialled_append, dialled_digits areDigits]
  rcases plus with rfl | rfl <;> rfl

/-- The buffers hold what was typed, in its order. -/
structure Holds (u : NBPhoneNumberUtil) (typed : NSString) (state : NBAsYouTypeFormatter) : Prop where
  input : state.accruedInput = typed
  accrued : state.accruedInputWithoutFormatting = typed
  unformatted : state.inputHasFormatting = false
  buffers : dialled state.prefixBeforeNationalNumber ++ state.nationalNumber = typed
  digits : state.nationalNumber.all isAsciiDigit
  extracted : state.nationalPrefixExtracted.all isAsciiDigit
  units : state.formattingTemplate.all isTemplateUnit
  served : u.Serves state.currentMetaData
  conserves : ∀ format ∈ state.possibleFormats, u.Conserves format

/-- The pattern of the template is not that of a format to choose from. -/
def Unmet (state : NBAsYouTypeFormatter) : Prop :=
  ∀ format ∈ state.possibleFormats ++ state.currentMetaData.formats, format.pattern ≠ some state.currentFormattingPattern

/-- An old template that shows in no output. -/
def Settled (state : NBAsYouTypeFormatter) : Prop := state.Exhausted ∨ state.Unmet

/-- The template is filled with some digits, if it is used again at all. -/
structure Ready (digits : NSString) (state : NBAsYouTypeFormatter) : Prop where
  expecting : state.isExpectingCountryCallingCode = true → state.possibleFormats = [] ∧ state.Exhausted
  unchosen : state.possibleFormats = [] → state.Settled
  chosen : state.possibleFormats ≠ [] → 3 ≤ digits.length ∧
    (state.Settled ∨ Filled state.formattingTemplate state.lastMatchPosition digits)

theorem Ready.of_chosen {digits : NSString} {state : NBAsYouTypeFormatter}
    (unexpecting : state.isExpectingCountryCallingCode = false) (chosen : state.possibleFormats ≠ [])
    (long : 3 ≤ digits.length)
    (template : state.Settled ∨ Filled state.formattingTemplate state.lastMatchPosition digits) :
    Ready digits state where
  expecting expecting := by
    rw [unexpecting] at expecting
    cases expecting
  unchosen none := absurd none chosen
  chosen _ := ⟨long, template⟩

theorem Ready.of_unchosen {digits : NSString} {state : NBAsYouTypeFormatter}
    (unexpecting : state.isExpectingCountryCallingCode = false) (unchosen : state.possibleFormats = [])
    (settled : state.Settled) : Ready digits state where
  expecting expecting := by
    rw [unexpecting] at expecting
    cases expecting
  unchosen _ := settled
  chosen chosen := absurd unchosen chosen

structure Typed (u : NBPhoneNumberUtil) (typed : NSString) (state : NBAsYouTypeFormatter) : Prop where
  holds : Holds u typed state
  ready : state.ableToFormat = true → Ready state.nationalNumber state

/-- What is returned shows what was typed, and so do the buffers. -/
def Shows (u : NBPhoneNumberUtil) (typed : NSString) (x : Objc (NSString × NBAsYouTypeFormatter)) : Prop :=
  ∃ output after, x = .ok (output, after) ∧ Typed u typed after ∧ dialled output = typed

section Output

variable {typed : NSString} {state : NBAsYouTypeFormatter}

theorem Holds.dialled_typed (holds : Holds u typed state) : dialled typed = typed := by
  have again : dialled (dialled state.prefixBeforeNationalNumber) = dialled state.prefixBeforeNationalNumber := by
    simp [dialled]
  rw [← holds.buffers, dialled_append, again, dialled_digits holds.digits]

theorem dialled_appendNationalNumber (nationalNumber : NSString) :
    dialled (state.appendNationalNumber nationalNumber) =
      dialled state.prefixBeforeNationalNumber ++ dialled nationalNumber := by
  unfold appendNationalNumber
  split
  · rw [dialled_append, dialled_append, dialled_separator, List.append_nil]
  · exact dialled_append _ _

theorem Holds.dialled_appendNationalNumber (holds : Holds u typed state) {nationalNumber : NSString}
    (same : dialled nationalNumber = state.nationalNumber) : dialled (state.appendNationalNumber nationalNumber) = typed := by
  rw [NBAsYouTypeFormatter.dialled_appendNationalNumber, same, holds.buffers]

theorem formatByFirstMatch_output (state : NBAsYouTypeFormatter) {formats : List NBNumberFormat}
    (digits : state.nationalNumber.all isAsciiDigit)
    (conserves : ∀ format ∈ formats, u.Conserves format) :
    ∃ output separated, formatByFirstMatch u state formats =
        (output, { state with shouldAddSpaceAfterNationalPrefix := separated }) ∧
      (output ≠ [] → formats ≠ [] ∧
        dialled output = dialled state.prefixBeforeNationalNumber ++ state.nationalNumber) := by
  induction formats with
  | nil => exact ⟨[], state.shouldAddSpaceAfterNationalPrefix, rfl, fun nonempty => absurd rfl nonempty⟩
  | cons format formats ih =>
    obtain ⟨pattern, atPattern, _, conserve⟩ := conserves format List.mem_cons_self
    unfold formatByFirstMatch
    dsimp only
    split
    · refine ⟨_, _, rfl, fun _ => ⟨List.cons_ne_nil _ _, ?_⟩⟩
      have same := conserve pattern (by simp) isDialled (fun _ => isDialled_of_punctuation) state.nationalNumber
      rw [NBAsYouTypeFormatter.dialled_appendNationalNumber, atPattern]
      dsimp only [Option.getD_some]
      rw [← dialled, ← dialled, dialled_digits digits] at same
      rw [same]
    · obtain ⟨output, separated, found, shows⟩ := ih fun format member => conserves format (List.mem_cons_of_mem _ member)
      exact ⟨output, separated, found, fun nonempty => ⟨List.cons_ne_nil _ _, (shows nonempty).2⟩⟩

theorem getAvailableFormats_formats (u : NBPhoneNumberUtil) (state : NBAsYouTypeFormatter) (leadingDigits : NSString) :
    ∃ formats, getAvailableFormats u state leadingDigits = { state with possibleFormats := formats } ∧
      ∀ format ∈ formats, format ∈ state.possibleFormats ∨
        format ∈ state.currentMetaData.formats ∧ isFormatEligible u format.format = true := by
  refine ⟨_, rfl, ?_⟩
  intro format member
  rcases List.mem_append.mp (List.mem_filter.mp member).1 with old | available
  · exact Or.inl old
  · obtain ⟨listed, eligible⟩ := List.mem_filter.mp available
    rw [Bool.and_eq_true] at eligible
    refine Or.inr ⟨?_, eligible.2⟩
    unfold NBPhoneMetaData.formats
    rw [List.mem_append]
    split at listed
    · exact Or.inr listed
    · exact Or.inl listed

/-- After a template was made the output shows the digits in it. -/
theorem inputAccruedNationalNumber_shows (expressions : u.TypingExpressions) (holds : Holds u typed state)
    (long : 3 ≤ state.nationalNumber.length) (chosen : state.possibleFormats ≠ [])
    (unexpecting : state.isExpectingCountryCallingCode = false)
    (fresh : FreshTemplate state.nationalNumber.length state.formattingTemplate) (start : state.lastMatchPosition = 0) :
    Shows u typed (inputAccruedNationalNumber u state) := by
  have nonempty : state.nationalNumber ≠ [] := by
    rintro empty
    rw [empty] at long
    cases long
  have filled : Filled state.formattingTemplate state.lastMatchPosition [] := by
    rw [start]
    exact fresh.filled
  obtain ⟨output, template, position, inputs, units, filled, shows⟩ :=
    inputDigits_filled expressions state holds.digits [] holds.units filled fresh.2
  rw [List.nil_append] at filled shows
  unfold inputAccruedNationalNumber
  rw [if_pos (by omega), inputs]
  refine ⟨_, _, rfl, ⟨⟨holds.input, holds.accrued, holds.unformatted, holds.buffers, holds.digits, holds.extracted, units,
    holds.served, holds.conserves⟩, fun _ => .of_chosen unexpecting chosen long (Or.inr filled)⟩, ?_⟩
  · dsimp only
    split
    · exact holds.dialled_appendNationalNumber (shows nonempty)
    · rw [holds.input]
      exact holds.dialled_typed

theorem units_of_old {template old : NSString} (units : old.all isTemplateUnit)
    (kept : template = [] ∨ template = old) : template.all isTemplateUnit := by
  rcases kept with rfl | rfl
  · rfl
  · exact units

/-- A template that is kept or emptied has no more placeholders than before. -/
theorem exhausted_of_old {state : NBAsYouTypeFormatter} (exhausted : state.Exhausted) (after : NBAsYouTypeFormatter)
    (kept : after.formattingTemplate = [] ∨ after.formattingTemplate = state.formattingTemplate)
    (position : after.lastMatchPosition = state.lastMatchPosition) : after.Exhausted := by
  unfold Exhausted at exhausted ⊢
  rcases kept with empty | same
  · rw [empty, List.drop_nil]
    rfl
  · rw [same, position]
    exact exhausted

theorem attemptToChooseFormattingPattern_shows (expressions : u.TypingExpressions) (inOrder : u.FormatsUseGroupsInOrder)
    (holds : Holds u typed state) (unchosen : state.possibleFormats = [])
    (unexpecting : state.isExpectingCountryCallingCode = false) (settled : state.Settled) :
    Shows u typed (attemptToChooseFormattingPattern u state) := by
  unfold attemptToChooseFormattingPattern
  by_cases long : state.nationalNumber.length ≥ NBMinLeadingDigitsLength
  · rw [if_pos long]
    obtain ⟨formats, available, listed⟩ := getAvailableFormats_formats u state state.nationalNumber
    have listed : ∀ format ∈ formats, format ∈ state.currentMetaData.formats ∧ isFormatEligible u format.format = true := by
      intro format member
      rcases listed format member with old | available
      · rw [unchosen] at old
        cases old
      · exact available
    have conserves : ∀ format ∈ formats, u.Conserves format := by
      intro format member
      obtain ⟨served, eligible⟩ := listed format member
      exact conserves_of_eligible expressions eligible (inOrder _ holds.served format served eligible)
    obtain ⟨output, separated, formatted, shows⟩ :=
      formatByFirstMatch_output { state with possibleFormats := formats } holds.digits conserves
    have attempted : attemptToFormatAccruedDigits u (getAvailableFormats u state state.nationalNumber) =
        (output, { state with possibleFormats := formats, shouldAddSpaceAfterNationalPrefix := separated }) := by
      unfold attemptToFormatAccruedDigits
      rw [available]
      exact formatted
    have settled' : Settled
        { state with possibleFormats := formats, shouldAddSpaceAfterNationalPrefix := separated } := by
      refine settled.imp id ?_
      intro unmet format member
      refine unmet format (List.mem_append_right _ ?_)
      rcases List.mem_append.mp member with chosen | served
      · exact (listed format chosen).1
      · exact served
    have holds' : Holds u typed
        { state with possibleFormats := formats, shouldAddSpaceAfterNationalPrefix := separated } :=
      ⟨holds.input, holds.accrued, holds.unformatted, holds.buffers, holds.digits, holds.extracted, holds.units,
        holds.served, conserves⟩
    rw [attempted]
    dsimp only
    by_cases some : output.length > 0
    · rw [if_pos some]
      obtain ⟨chosen, dial⟩ := shows (List.ne_nil_of_length_pos some)
      refine ⟨_, _, rfl, ⟨holds', fun _ => .of_chosen unexpecting chosen long (Or.inl settled')⟩, ?_⟩
      rw [dial]
      exact holds.buffers
    · rw [if_neg some]
      obtain ⟨created, after, made, choice⟩ :=
        firstTemplate_choice expressions
          { state with possibleFormats := formats, shouldAddSpaceAfterNationalPrefix := separated }
          (show 0 < state.nationalNumber.length from Nat.lt_of_lt_of_le (by decide) long) conserves
      have input : dialled state.accruedInput = typed := by rw [holds.input, holds.dialled_typed]
      rw [maybeCreateNewTemplate, made]
      simp only [bind, Except.bind]
      cases choice with
      | created template pattern separated' fresh =>
        have chosen : formats ≠ [] := by
          rintro rfl
          cases made
        refine inputAccruedNationalNumber_shows expressions ?_ long chosen unexpecting fresh rfl
        exact ⟨holds.input, holds.accrued, holds.unformatted, holds.buffers, holds.digits, holds.extracted, fresh.units,
          holds.served, conserves⟩
      | met template old pattern =>
        refine ⟨_, _, rfl, ⟨⟨holds.input, holds.accrued, holds.unformatted, holds.buffers, holds.digits, holds.extracted,
          ?_, holds.served, conserves⟩, ?_⟩, input⟩
        · exact units_of_old holds.units old
        · -- the pattern is met again only with a template that has no placeholder left
          have chosen : formats ≠ [] := by
            obtain ⟨format, member, _⟩ := pattern
            exact List.ne_nil_of_mem member
          have exhausted : state.Exhausted := by
            refine settled'.resolve_right ?_
            intro unmet
            obtain ⟨format, member, same⟩ := pattern
            exact unmet format (List.mem_append_left _ member) same
          have still := exhausted_of_old exhausted { state with formattingTemplate := template } old rfl
          exact fun _ => .of_chosen unexpecting chosen long (Or.inl (Or.inl still))
      | gaveUp template old =>
        refine ⟨_, _, rfl, ⟨⟨holds.input, holds.accrued, holds.unformatted, holds.buffers, holds.digits, holds.extracted,
          ?_, holds.served, conserves⟩, fun able => by cases able⟩, input⟩
        exact units_of_old holds.units old
  · rw [if_neg long]
    exact ⟨_, _, rfl, ⟨holds, fun _ => .of_unchosen unexpecting unchosen settled⟩,
      holds.dialled_appendNationalNumber (dialled_digits holds.digits)⟩

end Output

section Extraction

variable {typed : NSString} {state : NBAsYouTypeFormatter}

theorem digits_of_append {s rest : NSString} (digits : (s ++ rest).all isAsciiDigit) :
    s.all isAsciiDigit ∧ rest.all isAsciiDigit := by
  rw [List.all_append, Bool.and_eq_true] at digits
  exact digits

theorem digits_take_drop {s : NSString} (digits : s.all isAsciiDigit) (index : Nat) :
    (s.take index).all isAsciiDigit ∧ (s.drop index).all isAsciiDigit := by
  rw [← List.take_append_drop index s] at digits
  exact digits_of_append digits

theorem isNanpaNumber_true {state : NBAsYouTypeFormatter} (nanpa : state.isNanpaNumberWithNationalPrefix = .ok true) :
    state.nationalNumber.take 1 = ns "1" := by
  unfold isNanpaNumberWithNationalPrefix at nanpa
  split at nanpa
  · cases nanpa
  · obtain ⟨first, atFirst, nanpa⟩ := bind_eq_ok_iff.mp nanpa
    split at nanpa
    · cases nanpa
    · rename_i one
      have one : first = 49 := by simpa using one
      cases digits : state.nationalNumber with
      | nil =>
        rw [digits] at atFirst
        cases atFirst
      | cons c rest =>
        rw [digits] at atFirst
        obtain rfl : c = first := Except.ok.inj atFirst
        rw [one]
        rfl

/-- A national prefix goes from one buffer to the other. -/
theorem removeNationalPrefix_holds (holds : Holds u typed state)
    (answers : Returns state.isNanpaNumberWithNationalPrefix) :
    ∃ removed buffer complete rest,
      removeNationalPrefixFromNationalNumber u state = .ok (removed,
        { state with
          prefixBeforeNationalNumber := buffer
          isCompleteNumber := complete
          nationalNumber := rest }) ∧
      removed.all isAsciiDigit ∧ removed ++ rest = state.nationalNumber ∧
      dialled buffer = dialled state.prefixBeforeNationalNumber ++ removed := by
  obtain ⟨nanpa, answered⟩ := answers
  unfold removeNationalPrefixFromNationalNumber
  rw [answered]
  cases nanpa with
  | true =>
    have one := isNanpaNumber_true answered
    refine ⟨_, _, _, _, rfl, (digits_take_drop holds.digits 1).1, List.take_append_drop _ _, ?_⟩
    rw [dialled_append, one]
    rfl
  | false =>
    refine ⟨_, _, _, _, rfl, (digits_take_drop holds.digits _).1, List.take_append_drop _ _, ?_⟩
    rw [dialled_append, dialled_digits (digits_take_drop holds.digits _).1]

theorem Holds.moved (holds : Holds u typed state) (buffer rest : NSString) (complete : Bool)
    (same : dialled buffer ++ rest = typed) (digits : rest.all isAsciiDigit) :
    Holds u typed
      { state with prefixBeforeNationalNumber := buffer, isCompleteNumber := complete, nationalNumber := rest } :=
  ⟨holds.input, holds.accrued, holds.unformatted, same, digits, holds.extracted, holds.units, holds.served, holds.conserves⟩

/-- An international prefix splits what was accrued. -/
theorem attemptToExtractIdd_cases (dialling : IsDialling typed) (accrued : state.accruedInputWithoutFormatting = typed) :
    attemptToExtractIdd u state = (false, state) ∨ ∃ buffer rest,
      attemptToExtractIdd u state = (true,
        { state with
          isCompleteNumber := true
          nationalNumber := rest
          prefixBeforeNationalNumber := buffer }) ∧
      dialled buffer ++ rest = typed ∧ rest.all isAsciiDigit := by
  unfold attemptToExtractIdd
  dsimp only
  split
  · exact Or.inl rfl
  · rename_i firstString others matched
    split
    · rename_i some
      rw [accrued]
      refine Or.inr ⟨_, _, rfl, ?_, dialling.drop_digits some⟩
      have dial : dialled (typed.take firstString.length) = typed.take firstString.length := by
        have all := List.filter_eq_self.mp dialling.dialled_typed
        exact List.filter_eq_self.mpr fun c member => all c (List.mem_of_mem_take member)
      split
      · rw [dialled_append, dialled_separator, List.append_nil, dial, List.take_append_drop]
      · rw [dial, List.take_append_drop]
    · exact Or.inl rfl

theorem serves_getD (u : NBPhoneNumberUtil) (region : Option NSString) :
    u.Serves ((u.getMetadataForRegion region).getD {}) := by
  cases found : u.getMetadataForRegion region with
  | none => exact Or.inl rfl
  | some metadata => exact Or.inr ⟨region, found⟩

theorem attemptToExtractCountryCallingCode_cases (holds : Holds u typed state) :
    attemptToExtractCountryCallingCode u state = .ok (false, state) ∨ ∃ buffer rest metadata,
      attemptToExtractCountryCallingCode u state = .ok (true,
        { state with
          nationalNumber := rest
          currentMetaData := metadata
          prefixBeforeNationalNumber := buffer }) ∧
      dialled buffer ++ rest = typed ∧ rest.all isAsciiDigit ∧ u.Serves metadata := by
  unfold attemptToExtractCountryCallingCode
  by_cases empty : state.nationalNumber.isEmpty
  · rw [if_pos empty]
    exact Or.inl rfl
  rw [if_neg empty]
  obtain ⟨⟨code, rest⟩, extracted⟩ := u.extractCountryCode_returns state.nationalNumber []
  rw [extracted]
  simp only [bind, Except.bind]
  by_cases known : code = 0
  · rw [if_pos known]
    exact Or.inl rfl
  · rw [if_neg known]
    obtain ⟨spelled, digits⟩ := extractCountryCode_spells holds.digits extracted known
    have codeDigits : (formatted (some code)).all isAsciiDigit := by
      have both := holds.digits
      rw [← spelled] at both
      exact (digits_of_append both).1
    refine Or.inr ⟨_, _, _, rfl, ?_, digits, ?_⟩
    · rw [dialled_append, dialled_append, dialled_separator, List.append_nil, dialled_digits codeDigits, List.append_assoc,
        spelled, holds.buffers]
    · split
      · exact serves_getD u _
      · split
        · exact holds.served
        · exact serves_getD u _

/-- The national prefix put back is the last thing before the national number. -/
def PrefixLast (state : NBAsYouTypeFormatter) : Prop :=
  state.nationalPrefixExtracted = [] ∨ ∃ before gap, (∀ c ∈ gap, c = 0x20) ∧
    state.prefixBeforeNationalNumber = before ++ state.nationalPrefixExtracted ++ gap

theorem lastOccurrence_last {before target gap : NSString} (nonempty : target ≠ []) (digits : target.all isAsciiDigit)
    (spaces : ∀ c ∈ gap, c = 0x20) : lastOccurrence (before ++ target ++ gap) target = some before.length := by
  have later : ∀ index, before.length < index → ¬ target <+: (before ++ target ++ gap).drop index := by
    rintro index after ⟨rest, found⟩
    -- the last unit of the target would be one of the spaces
    obtain ⟨front, d, whole⟩ := (List.eq_nil_or_concat target).resolve_left nonempty
    rw [List.concat_eq_append] at whole
    subst whole
    have short := congrArg List.length found
    simp only [List.length_drop, List.length_append, List.length_singleton] at short
    have bySpaces : gap <:+ before ++ (front ++ [d]) ++ gap := List.suffix_append _ _
    have byDigit : d :: rest <:+ before ++ (front ++ [d]) ++ gap := by
      refine List.IsSuffix.trans ⟨front, ?_⟩ (List.drop_suffix index _)
      rw [← found, List.append_assoc]
      rfl
    have inside : d :: rest <:+ gap := by
      refine List.suffix_of_suffix_length_le byDigit bySpaces ?_
      rw [List.length_cons]
      omega
    have space := spaces d (inside.subset List.mem_cons_self)
    rw [List.all_eq_true] at digits
    have digit := digits d (List.mem_append_right _ (List.mem_singleton_self d))
    rw [space] at digit
    exact absurd digit (by decide)
  have split : List.range ((before ++ target ++ gap).length + 1) =
      List.range before.length ++ before.length :: List.range' (before.length + 1) (target.length + gap.length) := by
    have lengths : (before ++ target ++ gap).length + 1 = before.length + (target.length + gap.length + 1) := by
      simp only [List.length_append]
      omega
    rw [lengths, List.range_eq_range', List.range_eq_range', ← List.range'_succ]
    have joined : List.range' 0 before.length ++ List.range' (0 + before.length) (target.length + gap.length + 1) = _ :=
      List.range'_append_1
    rw [Nat.zero_add] at joined
    exact joined.symm
  have none : (List.range' (before.length + 1) (target.length + gap.length)).reverse.find?
      (fun index => target.isPrefixOf ((before ++ target ++ gap).drop index)) = none := by
    rw [List.find?_eq_none]
    intro index listed found
    have bounds := List.mem_range'_1.mp (List.mem_reverse.mp listed)
    exact later index (by omega) (List.isPrefixOf_iff_prefix.mp found)
  have here : target.isPrefixOf ((before ++ target ++ gap).drop before.length) = true := by
    rw [List.append_assoc, List.drop_left, List.isPrefixOf_iff_prefix]
    exact List.prefix_append _ _
  unfold lastOccurrence
  rw [split, List.reverse_append, List.reverse_cons, List.find?_append, List.find?_append, none, List.find?_singleton, here]
  rfl

theorem putBackNationalPrefix_holds (holds : Holds u typed state) (last : state.PrefixLast) :
    ∃ buffer rest, state.putBackNationalPrefix =
        { state with prefixBeforeNationalNumber := buffer, nationalNumber := rest } ∧
      dialled buffer ++ rest = typed ∧ rest.all isAsciiDigit := by
  unfold putBackNationalPrefix
  by_cases extracted : state.nationalPrefixExtracted.length > 0
  · rw [if_pos extracted]
    have nonempty := List.ne_nil_of_length_pos extracted
    obtain ⟨before, gap, spaces, buffer⟩ := last.resolve_left nonempty
    have dial : dialled gap = [] := by
      refine List.filter_eq_nil_iff.mpr ?_
      intro c member
      rw [spaces c member]
      decide
    refine ⟨_, _, rfl, ?_, ?_⟩
    · rw [buffer, lastOccurrence_last nonempty holds.extracted spaces]
      dsimp only
      rw [List.append_assoc before, List.take_left, ← List.append_assoc, ← holds.buffers, buffer, dialled_append,
        dialled_append, dial, List.append_nil, dialled_digits holds.extracted]
    · rw [List.all_append, holds.extracted, holds.digits]
      rfl
  · rw [if_neg extracted]
    exact ⟨_, _, rfl, holds.buffers, holds.digits⟩

/-- None of the slips of an extraction after the first one is made: what is put
back was the last thing taken, the check for a NANPA prefix does not read past
the number, and no half-filled template of a format to choose from is left. -/
structure Unslipped (u : NBPhoneNumberUtil) (state : NBAsYouTypeFormatter) : Prop where
  last : (attemptToExtractIdd u state).1 = false → state.PrefixLast
  within : (attemptToExtractIdd u state).1 = false →
    Returns state.putBackNationalPrefix.isNanpaNumberWithNationalPrefix
  template : ∀ after, extractPrefixAgain u state = .ok (true, after) → state.Exhausted ∨
    ∀ format ∈ after.currentMetaData.formats, format.pattern ≠ some state.currentFormattingPattern

theorem extractPrefixAgain_holds (dialling : IsDialling typed) (holds : Holds u typed state)
    (unslipped : Unslipped u state) :
    ∃ extracted buffer rest complete metadata, extractPrefixAgain u state = .ok (extracted,
        { state with
          prefixBeforeNationalNumber := buffer
          nationalNumber := rest
          isCompleteNumber := complete
          currentMetaData := metadata }) ∧
      dialled buffer ++ rest = typed ∧ rest.all isAsciiDigit ∧ u.Serves metadata := by
  unfold extractPrefixAgain
  rcases attemptToExtractIdd_cases dialling holds.accrued with none | ⟨buffer, rest, found, same, digits⟩
  · have absent : (attemptToExtractIdd u state).1 = false := by rw [none]
    rw [none]
    obtain ⟨buffer, rest, back, same, digits⟩ := putBackNationalPrefix_holds holds (unslipped.last absent)
    have returned := unslipped.within absent
    rw [back] at returned
    have holds' : Holds u typed { state with prefixBeforeNationalNumber := buffer, nationalNumber := rest } :=
      holds.moved buffer rest state.isCompleteNumber same digits
    obtain ⟨removed, buffer', complete, rest', moved, _, parts, dial⟩ := removeNationalPrefix_holds holds' returned
    have kept : dialled buffer' ++ rest' = typed := by
      rw [dial, List.append_assoc, parts]
      exact same
    have digits' : rest'.all isAsciiDigit := by
      have both := digits
      rw [← show removed ++ rest' = rest from parts] at both
      exact (digits_of_append both).2
    dsimp only
    unfold ableToExtractLongerNdd
    rw [back, moved]
    simp only [bind, Except.bind, pure, Except.pure]
    cases u.sameObject state.nationalPrefixExtracted removed with
    | true => exact ⟨_, _, _, _, _, rfl, kept, digits', holds.served⟩
    | false =>
      refine ⟨_, _, _, _, _, rfl, ?_, digits', holds.served⟩
      rw [dialled_append, dialled_separator, List.append_nil, kept]
  · rw [found]
    dsimp only
    have holds' := holds.moved buffer rest true same digits
    rcases attemptToExtractCountryCallingCode_cases holds' with none |
      ⟨buffer', rest', metadata, found', same', digits', served⟩
    · exact ⟨_, _, _, _, _, none, same, digits, holds.served⟩
    · exact ⟨_, _, _, _, _, found', same', digits', served⟩

end Extraction

section Input

variable {typed : NSString} {state : NBAsYouTypeFormatter}

theorem Shows.flagged {x : Objc (NSString × NBAsYouTypeFormatter)} (shows : Shows u typed x) (success : Bool) :
    Shows u typed (x >>= fun y => pure (y.1, { y.2 with isSuccessfulFormatting := success })) := by
  obtain ⟨output, after, rfl, ⟨holds, ready⟩, dial⟩ := shows
  refine ⟨output, _, rfl, ⟨⟨holds.input, holds.accrued, holds.unformatted, holds.buffers, holds.digits, holds.extracted,
    holds.units, holds.served, holds.conserves⟩, ?_⟩, dial⟩
  intro able
  obtain ⟨expecting, unchosen, chosen⟩ := ready able
  exact ⟨expecting, unchosen, chosen⟩

/-- The input itself, when it is returned as it is. -/
theorem Holds.shows_input (holds : Holds u typed state)
    (ready : state.ableToFormat = true → Ready state.nationalNumber state) :
    Shows u typed (.ok (state.accruedInput, state)) := by
  refine ⟨_, _, rfl, ⟨holds, ready⟩, ?_⟩
  rw [holds.input, holds.dialled_typed]

theorem inputUnformatted_shows (expressions : u.TypingExpressions) (inOrder : u.FormatsUseGroupsInOrder)
    (dialling : IsDialling typed) (holds : Holds u typed state) (unable : state.ableToFormat = false)
    (unslipped : Unslipped u state) : Shows u typed (inputUnformatted u state) := by
  obtain ⟨extracted, buffer, rest, complete, metadata, again, same, digits, served⟩ :=
    extractPrefixAgain_holds dialling holds unslipped
  unfold inputUnformatted
  rw [if_neg (by simp [holds.unformatted]), again]
  cases extracted with
  | true =>
    have settled := unslipped.template _ again
    refine Shows.flagged ?_ true
    refine attemptToChooseFormattingPattern_shows expressions inOrder ⟨holds.input, holds.accrued, holds.unformatted, same,
      digits, holds.extracted, holds.units, served, fun format none => by cases none⟩ rfl rfl settled
  | false =>
    refine (Holds.shows_input ?_ ?_).flagged false
    · exact ⟨holds.input, holds.accrued, holds.unformatted, same, digits, holds.extracted, holds.units, served,
        holds.conserves⟩
    · intro able
      rw [show state.ableToFormat = true from able] at unable
      cases unable

/-- What a digit makes of the template: it is filled with all digits, or its
pattern is none to choose from. -/
theorem inputDigitHelper_ready (expressions : u.TypingExpressions) {old : NSString} {c : unichar}
    (holds : Holds u typed state) (national : state.nationalNumber = old ++ [c])
    (template : state.Settled ∨ Filled state.formattingTemplate state.lastMatchPosition old) :
    ∃ output template position pattern able,
      inputDigitHelper u state [c] = .ok (output,
        { state with
          formattingTemplate := template
          lastMatchPosition := position
          currentFormattingPattern := pattern
          ableToFormat := able }) ∧
      template.all isTemplateUnit ∧
      (Settled { state with
          formattingTemplate := template
          lastMatchPosition := position
          currentFormattingPattern := pattern } ∧
          (∀ format ∈ state.possibleFormats, format.pattern ≠ some pattern) ∨
        Filled template position state.nationalNumber ∧ dialled output = state.nationalNumber) := by
  have isDigit : isAsciiDigit c = true := by
    have digits := holds.digits
    rw [national, List.all_append, Bool.and_eq_true] at digits
    simpa using digits.2
  by_cases left : (state.formattingTemplate.drop state.lastMatchPosition).any isPlaceholder
  · obtain ⟨output, after, position, placed, units, _, fills⟩ :=
      inputDigitHelper_placed expressions holds.units isDigit left
    refine ⟨output, after, position, state.currentFormattingPattern, state.ableToFormat, placed, units, ?_⟩
    rcases template with settled | filled
    · have unmet : state.Unmet := by
        refine settled.resolve_left ?_
        intro exhausted
        rw [exhausted] at left
        cases left
      exact Or.inl ⟨Or.inr unmet, fun format member => unmet format (List.mem_append_left _ member)⟩
    · rw [national]
      exact Or.inr (fills old filled)
  · have exhausted : state.Exhausted := Bool.eq_false_iff.mpr left
    refine ⟨_, state.formattingTemplate, state.lastMatchPosition, [], _,
      inputDigitHelper_exhausted expressions exhausted [c], holds.units, Or.inl ⟨Or.inl exhausted, ?_⟩⟩
    intro format member same
    obtain ⟨pattern, atPattern, written, _⟩ := holds.conserves format member
    exact written (Option.some.inj (atPattern.symm.trans same))

theorem inputToPossibleFormats_shows (expressions : u.TypingExpressions) {old : NSString} {c : unichar}
    (holds : Holds u typed state) (national : state.nationalNumber = old ++ [c]) (chosen : state.possibleFormats ≠ [])
    (unexpecting : state.isExpectingCountryCallingCode = false) (long : 3 ≤ old.length)
    (template : state.Settled ∨ Filled state.formattingTemplate state.lastMatchPosition old) :
    Shows u typed (inputToPossibleFormats u state [c]) := by
  have long' : 3 ≤ state.nationalNumber.length := by
    rw [national, List.length_append]
    omega
  obtain ⟨output, template', position, pattern, able, helped, units, ready⟩ :=
    inputDigitHelper_ready expressions holds national template
  unfold inputToPossibleFormats
  rw [helped]
  simp only [bind, Except.bind]
  obtain ⟨formattedNumber, separated, formatted, shows⟩ := formatByFirstMatch_output
    { state with
      formattingTemplate := template'
      lastMatchPosition := position
      currentFormattingPattern := pattern
      ableToFormat := able } holds.digits holds.conserves
  rw [attemptToFormatAccruedDigits, formatted]
  dsimp only
  by_cases some : formattedNumber.length > 0
  · rw [if_pos some]
    have dial : dialled formattedNumber = typed := by
      rw [(shows (List.ne_nil_of_length_pos some)).2]
      exact holds.buffers
    have holds' : Holds u typed
        { state with
          formattingTemplate := template'
          lastMatchPosition := position
          currentFormattingPattern := pattern
          ableToFormat := able
          shouldAddSpaceAfterNationalPrefix := separated } :=
      ⟨holds.input, holds.accrued, holds.unformatted, holds.buffers, holds.digits, holds.extracted, units, holds.served,
        holds.conserves⟩
    exact Shows.flagged ⟨_, _, rfl, ⟨holds', fun _ => .of_chosen unexpecting chosen long' (ready.imp And.left And.left)⟩,
      dial⟩ true
  · rw [if_neg some]
    have kept : ∀ format ∈ state.possibleFormats.filter (isLedBy u state.nationalNumber), format ∈ state.possibleFormats :=
      fun format member => (List.mem_filter.mp member).1
    obtain ⟨created, after, made, choice⟩ := firstTemplate_choice expressions
      { state with
        formattingTemplate := template'
        lastMatchPosition := position
        currentFormattingPattern := pattern
        ableToFormat := able
        shouldAddSpaceAfterNationalPrefix := separated
        possibleFormats := state.possibleFormats.filter (isLedBy u state.nationalNumber) }
      (show 0 < state.nationalNumber.length from Nat.lt_of_lt_of_le (by decide) long')
      (fun format member => holds.conserves format (kept format member))
    have narrowed (template : NSString) (position : Nat) (pattern : NSString) (separated able : Bool)
        (units : template.all isTemplateUnit) : Holds u typed
        { state with
          formattingTemplate := template
          lastMatchPosition := position
          currentFormattingPattern := pattern
          ableToFormat := able
          shouldAddSpaceAfterNationalPrefix := separated
          possibleFormats := state.possibleFormats.filter (isLedBy u state.nationalNumber) } :=
      ⟨holds.input, holds.accrued, holds.unformatted, holds.buffers, holds.digits, holds.extracted, units, holds.served,
        fun format member => holds.conserves format (kept format member)⟩
    rw [maybeCreateNewTemplate, narrowDownPossibleFormats, made]
    dsimp only
    cases choice with
    | created template pattern separated' fresh =>
      have some' : state.possibleFormats.filter (isLedBy u state.nationalNumber) ≠ [] := by
        intro none
        rw [none] at made
        cases made
      exact (inputAccruedNationalNumber_shows expressions (narrowed _ _ _ _ _ fresh.units) long' some' unexpecting fresh
        rfl).flagged true
    | gaveUp template old =>
      exact (Holds.shows_input (narrowed _ _ _ _ _ (units_of_old units old)) (fun able => by cases able)).flagged false
    | met template old met =>
      obtain ⟨format, member, atPattern⟩ := met
      have some' := List.ne_nil_of_mem member
      -- the pattern is one to choose from, so the template was filled
      obtain ⟨filled, dial⟩ := ready.resolve_left fun settled => settled.2 format (kept format member) atPattern
      have holds' := narrowed template position pattern separated able (units_of_old units old)
      have ready' : Ready state.nationalNumber
          { state with
            formattingTemplate := template
            lastMatchPosition := position
            currentFormattingPattern := pattern
            ableToFormat := able
            shouldAddSpaceAfterNationalPrefix := separated
            possibleFormats := state.possibleFormats.filter (isLedBy u state.nationalNumber) } := by
        refine .of_chosen unexpecting some' long' ?_
        rcases old with empty | same
        · refine Or.inl (Or.inl ?_)
          unfold Exhausted
          dsimp only
          rw [empty, List.drop_nil]
          rfl
        · rw [← show template = template' from same] at filled
          exact Or.inr filled
      cases able with
      | true => exact Shows.flagged ⟨_, _, rfl, ⟨holds', fun _ => ready'⟩, holds'.dialled_appendNationalNumber dial⟩ true
      | false => exact (holds'.shows_input fun _ => ready').flagged false

theorem inputFurther_expecting_shows (holds : Holds u typed state) (expecting : state.isExpectingCountryCallingCode = true)
    (unchosen : state.possibleFormats = []) (exhausted : state.Exhausted) (nextChar : NSString) :
    Shows u typed (inputFurther u state nextChar) := by
  have output {state : NBAsYouTypeFormatter} (holds : Holds u typed state) :
      dialled (state.prefixBeforeNationalNumber ++ state.nationalNumber) = typed := by
    rw [dialled_append, dialled_digits holds.digits, holds.buffers]
  unfold inputFurther
  rw [if_pos expecting]
  rcases attemptToExtractCountryCallingCode_cases holds with none | ⟨buffer, rest, metadata, found, same, digits, served⟩
  · rw [none]
    refine Shows.flagged ⟨_, _, rfl, ⟨holds, fun _ => ⟨fun _ => ⟨unchosen, exhausted⟩, fun _ => Or.inl exhausted, ?_⟩⟩,
      output holds⟩ true
    exact fun chosen => absurd unchosen chosen
  · rw [found]
    have holds' : Holds u typed
        { state with
          nationalNumber := rest
          currentMetaData := metadata
          prefixBeforeNationalNumber := buffer
          isExpectingCountryCallingCode := false } :=
      ⟨holds.input, holds.accrued, holds.unformatted, same, digits, holds.extracted, holds.units, served, holds.conserves⟩
    exact Shows.flagged ⟨_, _, rfl, ⟨holds', fun _ => .of_unchosen rfl unchosen (Or.inl exhausted)⟩, output holds'⟩ true

theorem inputFurther_shows (expressions : u.TypingExpressions) (inOrder : u.FormatsUseGroupsInOrder) {old : NSString}
    {c : unichar} (holds : Holds u typed state) (national : state.nationalNumber = old ++ [c]) (ready : Ready old state) :
    Shows u typed (inputFurther u state [c]) := by
  by_cases expecting : state.isExpectingCountryCallingCode = true
  · obtain ⟨unchosen, exhausted⟩ := ready.expecting expecting
    exact inputFurther_expecting_shows holds expecting unchosen exhausted [c]
  · have unexpecting : state.isExpectingCountryCallingCode = false := by simpa using expecting
    unfold inputFurther
    rw [if_neg expecting]
    by_cases chosen : state.possibleFormats = []
    · rw [if_neg (by simp [chosen])]
      exact (attemptToChooseFormattingPattern_shows expressions inOrder holds chosen unexpecting
        (ready.unchosen chosen)).flagged false
    · rw [if_pos (List.length_pos_iff.mpr chosen)]
      obtain ⟨long, template⟩ := ready.chosen chosen
      exact inputToPossibleFormats_shows expressions holds national chosen unexpecting long template

end Input

end NBAsYouTypeFormatter

end SignalPods.PhoneNumber
