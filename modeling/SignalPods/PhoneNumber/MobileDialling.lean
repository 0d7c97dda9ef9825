import SignalPods.PhoneNumber.DiallingFormats
import SignalPods.PhoneNumber.TypingExpressions
import SignalPods.Foundation.Objects

namespace SignalPods.PhoneNumber

open Foundation

/-- A unit that stands between the groups of a template and is not dialled. -/
def isSeparator (c : unichar) : Bool := !isDiallable c && c != 92

theorem isDiallable_of_digit {c : unichar} (isDigit : isAsciiDigit c = true) : isDiallable c = true := by
  unfold isDiallable
  rw [isDigit]
  rfl

theorem isSeparator_of_digit {c : unichar} (isDigit : isAsciiDigit c = true) : isSeparator c = false := by
  unfold isSeparator
  rw [isDiallable_of_digit isDigit]
  rfl

theorem isDiallable_of_separator {c : unichar} (separates : isSeparator c = true) : isDiallable c = false := by
  unfold isSeparator at separates
  rw [Bool.and_eq_true, Bool.not_eq_true'] at separates
  exact separates.1

theorem filter_isDiallable_of_digits {s : NSString} (digits : s.all isAsciiDigit) : s.filter isDiallable = s := by
  rw [List.all_eq_true] at digits
  exact List.filter_eq_self.mpr fun c member => isDiallable_of_digit (digits c member)

/-- The number of leading zeros and the national number are spelled by digits. -/
theorem getNationalSignificantNumber_digits {number : NBPhoneNumber} {n : Nat} (written : number.Written n) :
    (getNationalSignificantNumber number).all isAsciiDigit := by
  have national : (stringValue (n : Int)).all isAsciiDigit := by
    rw [stringValue, if_neg (Int.not_lt.mpr (Int.natCast_nonneg n))]
    exact decimalDigits_all _
  unfold getNationalSignificantNumber formatted
  rw [written.national, Option.map_some, Option.getD_some, Option.getD_some]
  split
  · rw [List.all_append, Bool.and_eq_true]
    refine ⟨?_, national⟩
    rw [List.all_eq_true]
    intro c member
    rw [List.eq_of_mem_replicate member]
    decide
  · exact national

namespace NBPhoneNumberUtil

/-- The method on the object of a number: it works on a copy. -/
def formatNumberForMobileDialingObject (u : NBPhoneNumberUtil) (number : Nat) (regionCallingFrom : Option NSString)
    (withFormatting : Bool) : Memory NBPhoneNumber NSString := do
  let given ← readObject number
  if !u.hasValidCountryCallingCode given.countryCode then
    return if hasValue given.rawInput then given.rawInput.getD [] else []
  else
    let numberNoExt ← copyObject number
    modifyObject numberNoExt fun copy => { copy with extension := some [] }
    let copied ← readObject numberNoExt
    u.formatWithoutExtension copied regionCallingFrom withFormatting

/-- Among upper cases the units that can be dialled are those of themselves alone. -/
def DiallablesHaveNoCase (u : NBPhoneNumberUtil) : Prop :=
  ∀ c d, isDiallable d → (u.unicode.uppercaseString [c] = [d] ↔ c = d)

/-- The template of a format uses each group once and in order, the groups tile what
the pattern matches, and nothing else in the template can be dialled. -/
def TakesGroupsInOrder (u : NBPhoneNumberUtil) (format : NBNumberFormat) : Prop :=
  ∃ groups, templateGroups isSeparator (format.format.getD []) = some (List.range' 1 groups) ∧
    u.regex.TilesMatches (format.pattern.getD []) groups

/-- The formats of each calling code, national and international. -/
def FormatsTakeGroups (u : NBPhoneNumberUtil) : Prop :=
  ∀ countryCode metadata, u.mainMetadata countryCode = some metadata →
    ∀ format ∈ metadata.numberFormats ++ metadata.intlNumberFormats, u.TakesGroupsInOrder format

/-- What is dialled is what is shown, without what cannot be dialled, without the
extension and whatever the raw input; the number itself is left as it was. -/
structure DialsShownNumber (u : NBPhoneNumberUtil) (number : NBPhoneNumber) (regionCallingFrom : Option NSString) :
    Prop where
  diallable : ∀ plain, u.formatNumberForMobileDialing number regionCallingFrom false = .ok plain → plain.all isDiallable
  shown : ∀ plain formatted, u.formatNumberForMobileDialing number regionCallingFrom false = .ok plain →
    u.formatNumberForMobileDialing number regionCallingFrom true = .ok formatted → plain = formatted.filter isDiallable
  alone : ∀ withFormatting, u.formatNumberForMobileDialing number regionCallingFrom withFormatting =
    u.formatNumberForMobileDialing { number with extension := none, rawInput := none } regionCallingFrom withFormatting
  untouched : ∀ heap reference withFormatting, heap[reference]? = some number →
    Keeps heap (u.formatNumberForMobileDialingObject reference regionCallingFrom withFormatting) heap
      (u.formatNumberForMobileDialing number regionCallingFrom withFormatting)

variable {u : NBPhoneNumberUtil}

theorem newDigit_diallable (caseless : u.DiallablesHaveNoCase) (c : unichar) :
    u.newDigit DIALLABLE_CHAR_MAPPINGS c = if isDiallable c then some c else none := by
  unfold newDigit
  by_cases dialled : isDiallable c
  · rw [(caseless c c dialled).mpr rfl]
    rfl
  · rw [if_neg dialled]
    split
    · rename_i upper same
      refine if_neg fun isUpper => dialled ?_
      exact (caseless c upper isUpper).mp same ▸ isUpper
    · rfl

theorem normalizeHelper_diallable (caseless : u.DiallablesHaveNoCase) (s : NSString) :
    u.normalizeHelper DIALLABLE_CHAR_MAPPINGS true s = s.filter isDiallable := by
  rw [normalizeHelper_removing, ← List.filterMap_eq_filter]
  refine List.filterMap_congr fun c _ => ?_
  rw [newDigit_diallable caseless]
  rfl

theorem getMetadataForRegion_listed {regionCode : Option NSString} {metadata : NBPhoneMetaData}
    (found : u.getMetadataForRegion regionCode = some metadata) :
    ∃ region, u.helper.countryToMetadata region = some metadata := by
  unfold getMetadataForRegion at found
  split at found
  · dsimp only at found
    split at found
    · cases found
    · exact ⟨_, found⟩
  · cases found

/-- The metadata of a calling code is in the table. -/
theorem mainMetadata_listed {countryCode : Option Int} {metadata : NBPhoneMetaData}
    (found : u.mainMetadata countryCode = some metadata) : ∃ region, u.helper.countryToMetadata region = some metadata := by
  unfold mainMetadata getMetadataForRegionOrCallingCode getMetadataForNonGeographicalRegion at found
  split at found
  · exact getMetadataForRegion_listed found
  · exact getMetadataForRegion_listed found

theorem chooseFormattingPatternForNumber_mem {nationalNumber : NSString} {formats : List NBNumberFormat}
    {chosen : NBNumberFormat} (choice : u.chooseFormattingPatternForNumber nationalNumber formats = .ok (some chosen)) :
    chosen ∈ formats := by
  induction formats with
  | nil => cases choice
  | cons numFormat formats ih =>
    have later (choice : u.chooseFormattingPatternForNumber nationalNumber formats = .ok (some chosen)) :
        chosen ∈ numFormat :: formats := List.mem_cons_of_mem _ (ih choice)
    have here (choice : (u.matchesEntirely numFormat.pattern nationalNumber >>= fun entire =>
        if entire then pure (some numFormat) else u.chooseFormattingPatternForNumber nationalNumber formats) =
          .ok (some chosen)) : chosen ∈ numFormat :: formats := by
      obtain ⟨entire, _, choice⟩ := bind_eq_ok_iff.mp choice
      split at choice
      · obtain rfl := Option.some.inj (Except.ok.inj choice)
        exact List.mem_cons_self
      · exact later choice
    unfold chooseFormattingPatternForNumber at choice
    dsimp only at choice
    split at choice
    · split at choice
      · exact here choice
      · exact later choice
    · exact here choice

/-- What can be dialled of a formatted national number is the number. -/
theorem filter_formatNsn (ordered : u.regex.FindsInOrder) (takes : u.FormatsTakeGroups) {countryCode : Option Int}
    {digits text : NSString} (areDigits : digits.all isAsciiDigit)
    (formatted : u.formatNsn digits (u.mainMetadata countryCode) .INTERNATIONAL none = .ok text) :
    text.filter isDiallable = digits := by
  unfold formatNsn at formatted
  obtain ⟨chosen, choice, formatted⟩ := bind_eq_ok_iff.mp formatted
  cases chosen with
  | none =>
    obtain rfl := Except.ok.inj formatted
    exact filter_isDiallable_of_digits areDigits
  | some format =>
    obtain rfl := Except.ok.inj formatted
    have template : u.numberFormatRule format .INTERNATIONAL none = format.format.getD [] := by
      unfold numberFormatRule
      rw [if_neg, if_neg]
      · rintro ⟨national, _⟩
        cases national
      · rintro ⟨national, _⟩
        cases national
    obtain ⟨groups, shape, tiles⟩ : u.TakesGroupsInOrder format := by
      have listed := chooseFormattingPatternForNumber_mem choice
      cases found : u.mainMetadata countryCode with
      | none =>
        rw [found] at listed
        cases listed
      | some metadata =>
        refine takes countryCode metadata found format ?_
        rw [found, availableFormats] at listed
        dsimp only [Option.getD_some] at listed
        rw [List.mem_append]
        split at listed
        · exact Or.inl listed
        · exact Or.inr listed
    unfold formatNsnUsingPattern
    rw [template]
    dsimp only
    rw [if_neg (by decide), filter_replaceStringByRegex (fun c => isDiallable_of_separator) (by decide)
      (fun c => isSeparator_of_digit) ordered tiles shape digits]
    exact filter_isDiallable_of_digits areDigits

section Numbers

variable {number : NBPhoneNumber} {regionCallingFrom : Option NSString}

/-- Only a number that is not zero, or has no raw input, is formatted by its digits. -/
def IsFormatted (number : NBPhoneNumber) : Prop := number.nationalNumber = some 0 → ¬ hasValue number.rawInput

theorem notRaw_of_isFormatted (formats : IsFormatted number) :
    (isEqualToNumber number.nationalNumber (some 0) && hasValue number.rawInput) = false := by
  by_cases zero : number.nationalNumber = some 0
  · have noRaw := formats zero
    rw [Bool.not_eq_true] at noRaw
    rw [noRaw, Bool.and_false]
  · have different : isEqualToNumber number.nationalNumber (some 0) = false := by
      cases given : number.nationalNumber with
      | none => rfl
      | some n =>
        rw [given] at zero
        exact beq_eq_false_iff_ne.mpr fun same => zero (congrArg some same)
    rw [different, Bool.false_and]

theorem formatted_filter {code : Int} (natural : 0 ≤ code) :
    (formatted (some code)).all isAsciiDigit := by
  have bound : ¬ code < 0 := Int.not_lt.mpr natural
  unfold formatted
  rw [Option.map_some, Option.getD_some, stringValue, if_neg bound]
  exact decimalDigits_all _

theorem maybeGetFormattedExtension_empty {metadata : Option NBPhoneMetaData} {numberFormat : NBEPhoneNumberFormat}
    (empty : number.extension = some []) : maybeGetFormattedExtension number metadata numberFormat = [] := by
  unfold maybeGetFormattedExtension
  rw [empty]
  rfl

/-- The two formats of a number that is dialled from another region. -/
theorem format_E164_eq_filter (ordered : u.regex.FindsInOrder) (takes : u.FormatsTakeGroups) (formats : IsFormatted number)
    (valid : u.hasValidCountryCallingCode number.countryCode) (code : ∀ n ∈ number.countryCode, 0 ≤ n)
    {n : Nat} (written : number.Written n) :
    ∃ plain, u.format { number with extension := some [] } .E164 = .ok plain ∧ plain.all isDiallable ∧
      ∀ text, u.format { number with extension := some [] } .INTERNATIONAL = .ok text → plain = text.filter isDiallable := by
  have notRaw := notRaw_of_isFormatted formats
  have digits := getNationalSignificantNumber_digits written
  cases coded : number.countryCode with
  | none =>
    rw [coded] at valid
    cases valid
  | some countryCode =>
    have codeDigits := formatted_filter (code countryCode coded)
    have spelled : ((ns "+" ++ formatted (some countryCode) ++ getNationalSignificantNumber number ++ []).all isDiallable) := by
      rw [List.append_nil, List.all_append, List.all_append, Bool.and_eq_true, Bool.and_eq_true]
      rw [List.all_eq_true] at codeDigits digits
      refine ⟨⟨by decide, ?_⟩, ?_⟩
      · exact List.all_eq_true.mpr fun c member => isDiallable_of_digit (codeDigits c member)
      · exact List.all_eq_true.mpr fun c member => isDiallable_of_digit (digits c member)
    refine ⟨ns "+" ++ formatted (some countryCode) ++ getNationalSignificantNumber number ++ [], ?_, spelled, ?_⟩
    · unfold format
      dsimp only
      rw [notRaw]
      rfl
    · intro text international
      unfold format at international
      dsimp only at international
      rw [coded] at valid
      rw [notRaw, if_neg Bool.false_ne_true, if_neg (by decide), valid, if_neg (by decide)] at international
      obtain ⟨national, formattedNational, international⟩ := bind_eq_ok_iff.mp international
      obtain rfl := Except.ok.inj international
      have kept := filter_formatNsn ordered takes digits formattedNational
      have separator : (ns " ").filter isDiallable = [] := by decide
      have plus : (ns "+").filter isDiallable = ns "+" := by decide
      rw [maybeGetFormattedExtension_empty rfl, prefixNumberWithCountryCallingCode, List.filter_append, List.filter_append,
        List.filter_append, List.filter_append, plus, separator, filter_isDiallable_of_digits codeDigits, kept,
        List.filter_nil, List.append_nil, List.append_nil, List.append_nil]

/-- The raw input of a number that is formatted is not looked at. -/
theorem format_withoutRaw (formats : IsFormatted number) (numberFormat : NBEPhoneNumberFormat) :
    u.format number numberFormat = u.format { number with rawInput := none } numberFormat := by
  have noRaw : (isEqualToNumber number.nationalNumber (some 0) && hasValue none) = false := Bool.and_false _
  unfold format
  dsimp only
  rw [notRaw_of_isFormatted formats, noRaw]
  rfl

theorem formatForOwnRegion_withoutRaw (formats : IsFormatted number) (regionCode : NSString) :
    u.formatForOwnRegion number regionCode = u.formatForOwnRegion { number with rawInput := none } regionCode := by
  unfold formatForOwnRegion
  rw [format_withoutRaw formats, format_withoutRaw formats]
  rfl

theorem formatWithoutExtension_withoutRaw (formats : IsFormatted number) (withFormatting : Bool) :
    u.formatWithoutExtension number regionCallingFrom withFormatting =
      u.formatWithoutExtension { number with rawInput := none } regionCallingFrom withFormatting := by
  unfold formatWithoutExtension
  dsimp only
  rw [formatForOwnRegion_withoutRaw formats, format_withoutRaw formats, format_withoutRaw formats]
  rfl

/-- The object itself is read, and only its copy changed. -/
theorem formatNumberForMobileDialingObject_keeps {heap : List NBPhoneNumber} {reference : Nat}
    (found : heap[reference]? = some number) (withFormatting : Bool) :
    Keeps heap (u.formatNumberForMobileDialingObject reference regionCallingFrom withFormatting) heap
      (u.formatNumberForMobileDialing number regionCallingFrom withFormatting) := by
  unfold formatNumberForMobileDialingObject formatNumberForMobileDialing
  refine Keeps.readObject_bind found ?_
  split
  · exact Keeps.pure List.prefix_rfl _
  · have copied : ((heap ++ [number]).modify heap.length fun copy => { copy with extension := some [] })[heap.length]? =
        some { number with extension := some [] } := by
      rw [List.getElem?_modify_eq, List.getElem?_append_right le_rfl, Nat.sub_self]
      rfl
    refine Keeps.copyObject_bind found (Keeps.modifyObject_bind (Keeps.readObject_bind copied ?_))
    exact Keeps.lift (prefix_modify (List.prefix_append heap [number]) le_rfl) _

/-- What is dialled of a number is what is shown of it. -/
theorem dials_shown_number (caseless : u.DiallablesHaveNoCase) (ordered : u.regex.FindsInOrder)
    (takes : u.FormatsTakeGroups) (valid : u.hasValidCountryCallingCode number.countryCode)
    (code : ∀ n ∈ number.countryCode, 0 ≤ n) {nationalNumber : Nat} (written : number.Written nationalNumber)
    (formats : IsFormatted number) (regionCallingFrom : Option NSString) :
    u.DialsShownNumber number regionCallingFrom := by
  have run (withFormatting : Bool) : u.formatNumberForMobileDialing number regionCallingFrom withFormatting =
      u.formatWithoutExtension { number with extension := some [] } regionCallingFrom withFormatting := by
    unfold formatNumberForMobileDialing
    rw [valid]
    rfl
  have all (s : NSString) : (s.filter isDiallable).all isDiallable := by
    rw [List.all_eq_true]
    exact fun c member => (List.mem_filter.mp member).2
  -- every way to the two results goes through one text or through two formats
  have ways : ∀ plain, u.formatWithoutExtension { number with extension := some [] } regionCallingFrom false = .ok plain →
      plain.all isDiallable ∧ ∀ formatted,
        u.formatWithoutExtension { number with extension := some [] } regionCallingFrom true = .ok formatted →
          plain = formatted.filter isDiallable := by
    intro plain dialled
    unfold formatWithoutExtension at dialled ⊢
    dsimp only at dialled ⊢
    split at dialled
    · rename_i own
      simp only [if_pos own]
      obtain ⟨text, found, dialled⟩ := bind_eq_ok_iff.mp dialled
      obtain rfl := Except.ok.inj dialled
      rw [if_neg Bool.false_ne_true, normalizeHelper_diallable caseless]
      refine ⟨all text, fun formatted shown => ?_⟩
      rw [found] at shown
      obtain rfl := Except.ok.inj shown
      rfl
    · rename_i other
      simp only [if_neg other]
      obtain ⟨diallable, can, dialled⟩ := bind_eq_ok_iff.mp dialled
      rw [can]
      obtain ⟨digits, E164, digitsAll, same⟩ := format_E164_eq_filter ordered takes formats valid code written
      cases diallable with
      | true =>
        rw [if_pos rfl, if_neg Bool.false_ne_true, E164] at dialled
        obtain rfl := Except.ok.inj dialled
        exact ⟨digitsAll, same⟩
      | false =>
        obtain rfl := Except.ok.inj dialled
        refine ⟨rfl, fun formatted shown => ?_⟩
        obtain rfl := Except.ok.inj shown
        rfl
  refine ⟨?_, ?_, ?_, ?_⟩
  · intro plain dialled
    rw [run] at dialled
    exact (ways plain dialled).1
  · intro plain formatted dialled shown
    rw [run] at dialled shown
    exact (ways plain dialled).2 formatted shown
  · intro withFormatting
    rw [run, formatWithoutExtension_withoutRaw]
    · unfold formatNumberForMobileDialing
      dsimp only
      rw [valid]
      rfl
    · exact formats
  · intro heap reference withFormatting found
    exact formatNumberForMobileDialingObject_keeps found withFormatting

end Numbers

section Regions

/-- The expressions for seven digits, in groups of three and of four. -/
def sevenDigitExpressions : NSRegularExpressions where
  matchesInString pattern s range := if pattern = sevenDigitPattern then sevenDigitMatches s range else []
  firstAnchoredMatch pattern s :=
    if pattern = ns "^(?:" ++ sevenDigitPattern ++ ns ")$" ∧ s.length = 7 then (sevenDigitMatches s ⟨0, s.length⟩).head?
    else none
  matches_inside pattern s range inside := by
    intro result member
    split at member
    · exact sevenDigitMatches_inside inside result member
    · cases member
  anchored_inside pattern s := by
    intro result member
    split at member
    · exact sevenDigitMatches_inside (Nat.le_of_eq (Nat.zero_add _)) result (List.mem_of_head? member)
    · cases member

/-- A region whose numbers can be dialled from everywhere, with one format. -/
def dialledRegion (template : NSString) : NBPhoneNumberUtil where
  unicode := Unicode.ascii
  regex := sevenDigitExpressions
  helper :=
    { countryCodeToRegionCodeMap := fun code => if code = ns "1" then some [ns "US"] else none
      countryToMetadata := fun region =>
        if region = ns "US" then
          some
            { countryCode := some 1
              noInternationalDialling := { nationalNumberPattern := some (ns "NA") }
              numberFormats := [{ pattern := some sevenDigitPattern, format := some template }] }
        else none }
  sameObject := sameText
  sameObject_eq := sameText_eq
  errorDescription := NSError.localizedDescription

theorem dialledRegion_caseless (template : NSString) : (dialledRegion template).DiallablesHaveNoCase := by
  intro c d dialled
  refine ascii_uppercaseString_eq_iff ?_ ?_
  all_goals
    simp only [isDiallable, isAsciiDigit, Bool.or_eq_true, Bool.and_eq_true, decide_eq_true_eq, beq_iff_eq,
      UInt16.le_iff_toNat_le, ← UInt16.toNat_inj, UInt16.reduceToNat] at dialled
    omega

theorem dialledRegion_ordered (template : NSString) : (dialledRegion template).regex.FindsInOrder := by
  intro pattern s range _
  have found : (dialledRegion template).regex.matchesInString pattern s range =
      if pattern = sevenDigitPattern then sevenDigitMatches s range else [] := rfl
  rw [found]
  split
  · exact sevenDigitMatches_ordered s range
  · exact .nil

theorem dialledRegion_takes : (dialledRegion (ns "$1-$2")).FormatsTakeGroups := by
  intro countryCode metadata found format listed
  have only : format = { pattern := some sevenDigitPattern, format := some (ns "$1-$2") } := by
    obtain ⟨region, found⟩ := mainMetadata_listed found
    have found : (if region = ns "US" then some _ else none) = some metadata := found
    split at found
    · obtain rfl := Option.some.inj found
      exact List.mem_singleton.mp listed
    · cases found
  refine ⟨2, by rw [only]; decide, ?_⟩
  intro s range _ result member
  rw [only] at member
  exact sevenDigitMatches_tiles member

theorem dials_shown_fiveThirty : (dialledRegion (ns "$1-$2")).DialsShownNumber
    { countryCode := some 1, nationalNumber := some 5305302, extension := some (ns "777") } (some (ns "GB")) := by
  have written : NBPhoneNumber.Written
      { countryCode := some 1, nationalNumber := some 5305302, extension := some (ns "777") } 5305302 :=
    ⟨rfl, by decide⟩
  exact dials_shown_number (dialledRegion_caseless _) (dialledRegion_ordered _) dialledRegion_takes (by decide)
    (by decide) written (fun zero => absurd zero (by decide)) _

/-- What is dialled of four numbers: of an unknown code and of zero the raw input, of
a negative number its sign, and of a template its own digit. -/
theorem shown_number_not_dialled :
    (¬ (dialledRegion (ns "$1-$2")).DialsShownNumber
      { countryCode := some 999, nationalNumber := some 5305302, rawInput := some (ns "530 5302 ext. 7") } none) ∧
    (¬ (dialledRegion (ns "$1-$2")).DialsShownNumber
      { countryCode := some 1, nationalNumber := some 0, rawInput := some (ns "0 ext. 7") } none) ∧
    (¬ (dialledRegion (ns "$1-$2")).DialsShownNumber { countryCode := some 1, nationalNumber := some (-5) } none) ∧
    ¬ (dialledRegion (ns "$1-0-$2")).DialsShownNumber { countryCode := some 1, nationalNumber := some 5305302 } none := by
  refine ⟨fun dials => ?_, fun dials => ?_, fun dials => ?_, fun dials => ?_⟩
  · exact absurd (dials.diallable (ns "530 5302 ext. 7") (by decide +kernel)) (by decide)
  · exact absurd (dials.diallable (ns "0 ext. 7") (by decide +kernel)) (by decide)
  · exact absurd (dials.diallable (ns "+1-5") (by decide +kernel)) (by decide)
  · exact absurd (dials.shown (ns "+15305302") (ns "+1 530-0-5302") (by decide +kernel) (by decide +kernel)) (by decide)

end Regions

end NBPhoneNumberUtil

end SignalPods.PhoneNumber
