import SignalPods.PhoneNumber.AsYouTypeFormatter
import SignalPods.PhoneNumber.UnitExpressions
import SignalPods.Foundation.Templates

namespace SignalPods.PhoneNumber

open Foundation

/-- The units of `VALID_PUNCTUATION`. -/
def isPunctuation (c : unichar) : Bool :=
  c == 0x2d || c == 0x78 || (0x2010 ≤ c && c ≤ 0x2015) || c == 0x2212 || c == 0x30fc || (0xff0d ≤ c && c ≤ 0xff0f) ||
    c == 0x20 || c == 0xad || c == 0x200b || c == 0x2060 || c == 0x3000 || c == 0x28 || c == 0x29 || c == 0xff08 ||
    c == 0xff09 || c == 0xff3b || c == 0xff3d || c == 0x2e || c == 0x5b || c == 0x5d || c == 0x2f || c == 0x7e ||
    c == 0x2053 || c == 0x223c || c == 0xff5e

/-- The digits and the plus sign. -/
def isDialled (c : unichar) : Bool := isAsciiDigit c || c == 43

def dialled (s : NSString) : NSString := s.filter isDialled

def isPlaceholder (c : unichar) : Bool := c == 0x2008

/-- The units before which `$` stands at the end of a string. -/
def isLineBreak (c : unichar) : Bool := (0x0a ≤ c && c ≤ 0x0d) || c == 0x85 || c == 0x2028 || c == 0x2029

/-- What a formatting template is made of. -/
def isTemplateUnit (c : unichar) : Bool := isAsciiDigit c || isPunctuation c || isPlaceholder c

section Units

theorem isPunctuation_of_digit {c : unichar} (isDigit : isAsciiDigit c = true) : isPunctuation c = false :=
  forall_digit (P := fun c => isPunctuation c = false) (by decide) isDigit

theorem isPlaceholder_of_digit {c : unichar} (isDigit : isAsciiDigit c = true) : isPlaceholder c = false :=
  forall_digit (P := fun c => isPlaceholder c = false) (by decide) isDigit

theorem isDialled_of_digit {c : unichar} (isDigit : isAsciiDigit c = true) : isDialled c = true := by
  unfold isDialled
  rw [isDigit, Bool.true_or]

theorem isDialled_of_punctuation {c : unichar} (punctuation : isPunctuation c = true) : isDialled c = false := by
  unfold isDialled
  rw [Bool.or_eq_false_iff]
  constructor
  · by_contra digit
    rw [isPunctuation_of_digit (by simpa using digit)] at punctuation
    cases punctuation
  · rw [beq_eq_false_iff_ne]
    rintro rfl
    exact absurd punctuation (by decide)

theorem dialled_append (s rest : NSString) : dialled (s ++ rest) = dialled s ++ dialled rest := List.filter_append ..

theorem dialled_digits {s : NSString} (digits : s.all isAsciiDigit) : dialled s = s := by
  rw [List.all_eq_true] at digits
  exact List.filter_eq_self.mpr fun c member => isDialled_of_digit (digits c member)

theorem dialled_separator : dialled NBSeparatorBeforeNationalNumber = [] := by decide

end Units

namespace NBPhoneNumberUtil

/-- The template of a format refers to each group of its pattern once and in
order and has no line break, and the groups make up what the pattern matches; so
they do when each character class and each digit in the pattern are made any digit. -/
def UsesGroupsInOrder (u : NBPhoneNumberUtil) (format : NBNumberFormat) : Prop :=
  ∃ pattern template groups, format.pattern = some pattern ∧ pattern ≠ [] ∧ format.format = some template ∧
    templateGroups (fun _ => true) template = some (List.range' 1 groups) ∧
    template.all (fun c => !isLineBreak c) ∧
    u.regex.TilesMatches pattern groups ∧
    u.regex.TilesMatches (NBAsYouTypeFormatter.templatePattern u pattern) groups

/-- The metadata a formatter can come upon. -/
def Serves (u : NBPhoneNumberUtil) (metadata : NBPhoneMetaData) : Prop :=
  metadata = {} ∨ ∃ regionCode, u.getMetadataForRegion regionCode = some metadata

/-- The fixed expressions of the formatter, as they are on what it gives them. -/
structure TypingExpressions (u : NBPhoneNumberUtil) : Prop where
  ordered : u.regex.FindsInOrder
  digit : ∀ c, isAsciiDigit c = true → u.regex.allMatches CAPTURING_DIGIT_PATTERN [c] ≠ []
  plus : u.regex.allMatches PLUS_CHARS_PATTERN (ns "+") ≠ []
  placeholder : u.MatchesUnits NBDigitPlaceHolder isPlaceholder 0
  nine : u.MatchesUnits (ns "9") (· == 57) 0
  /-- Without a line break, and with its groups in ASCII, a template is matched as a whole. -/
  eligible : ∀ format, (templateGroups (fun _ => true) format).isSome → format.all (fun c => !isLineBreak c) →
    u.regex.allMatches ELIGIBLE_FORMAT_PATTERN format ≠ [] → (templateGroups isPunctuation format).isSome
  /-- The plus sign is the first alternative of the pattern. -/
  international : ∀ metadata, u.Serves metadata → ∀ s, ∃ result results,
    u.regex.allMatches (ns "^(?:\\+|" ++ metadata.internationalPrefix.getD (ns "(null)") ++ ns ")") (43 :: s) =
      result :: results ∧ result.range = ⟨0, 1⟩
  /-- No unit of a template combines with the placeholder or is equivalent to it. -/
  search : ∀ s, s.all isTemplateUnit → u.unicode.rangeOfString s NBDigitPlaceHolder = literalSearch s NBDigitPlaceHolder

variable {u : NBPhoneNumberUtil}

theorem filter_replaceStringByRegex {keep literal : unichar → Bool} (dropped : ∀ c, literal c = true → keep c = false)
    (plain : literal 92 = false) (noDigit : ∀ c, isAsciiDigit c = true → literal c = false)
    (ordered : u.regex.FindsInOrder) {pattern template : NSString} {groups : Nat}
    (tiles : u.regex.TilesMatches pattern groups)
    (shape : templateGroups literal template = some (List.range' 1 groups)) (s : NSString) :
    (u.replaceStringByRegex s pattern template).filter keep = s.filter keep := by
  unfold replaceStringByRegex
  split
  · rfl
  · rename_i result found
    have member : result ∈ u.regex.allMatches pattern s := by rw [found]; exact List.mem_singleton_self result
    have inside : result.range.Inside s := NSRegularExpressions.inside_of_mem_allMatches member 0 _ rfl
    exact filter_stringByReplacingMatches dropped plain noDigit ordered tiles shape inside
  · exact filter_stringByReplacingMatches dropped plain noDigit ordered tiles shape (Nat.le_of_eq (Nat.zero_add _))

/-- A format by which only punctuation is added. -/
def Conserves (u : NBPhoneNumberUtil) (format : NBNumberFormat) : Prop :=
  ∃ pattern, format.pattern = some pattern ∧ pattern ≠ [] ∧
    ∀ regex ∈ [pattern, NBAsYouTypeFormatter.templatePattern u pattern], ∀ keep : unichar → Bool,
      (∀ c, isPunctuation c = true → keep c = false) →
      ∀ s, (u.replaceStringByRegex s regex (format.format.getD [])).filter keep = s.filter keep

theorem conserves_of_eligible (expressions : u.TypingExpressions) {format : NBNumberFormat}
    (eligible : NBAsYouTypeFormatter.isFormatEligible u format.format) (uses : u.UsesGroupsInOrder format) :
    u.Conserves format := by
  obtain ⟨pattern, template, groups, atPattern, written, atFormat, inOrder, oneLine, tiles, templateTiles⟩ := uses
  have found : u.regex.allMatches ELIGIBLE_FORMAT_PATTERN template ≠ [] := by
    intro none
    rw [atFormat] at eligible
    simp [NBAsYouTypeFormatter.isFormatEligible, none] at eligible
  have numbered : (templateGroups (fun _ => true) template).isSome := by
    rw [inOrder]
    rfl
  obtain ⟨used, shape⟩ := Option.isSome_iff_exists.mp (expressions.eligible template numbered oneLine found)
  have same : used = List.range' 1 groups := by
    have loose := templateGroups_mono (fun _ _ => rfl) shape
    exact Option.some.inj (loose.symm.trans inOrder)
  rw [same] at shape
  refine ⟨pattern, atPattern, written, ?_⟩
  intro regex listed keep dropped s
  have tiled : u.regex.TilesMatches regex groups := by
    rcases List.mem_pair.mp listed with rfl | rfl
    · exact tiles
    · exact templateTiles
  rw [atFormat]
  exact filter_replaceStringByRegex dropped (by decide) (fun _ => isPunctuation_of_digit) expressions.ordered tiled shape s

end NBPhoneNumberUtil

namespace NBAsYouTypeFormatter

open NBPhoneNumberUtil

variable {u : NBPhoneNumberUtil}

/-- A template with placeholders for so many digits, and no digits. -/
def FreshTemplate (digits : Nat) (template : NSString) : Prop :=
  (∀ c ∈ template, isPunctuation c = true ∨ isPlaceholder c = true) ∧ digits ≤ template.countP isPlaceholder

/-- The digits stand in a template before all its placeholders. -/
def Filled (template : NSString) (lastMatchPosition : Nat) (digits : NSString) : Prop :=
  ∃ filled rest, template = filled ++ rest ∧ filled.all (fun c => !isPlaceholder c) ∧ dialled filled = digits ∧
    dialled rest = [] ∧ lastMatchPosition ≤ filled.length

theorem FreshTemplate.filled {digits : Nat} {template : NSString} (fresh : FreshTemplate digits template) :
    Filled template 0 [] := by
  refine ⟨[], template, rfl, rfl, rfl, ?_, Nat.le_refl 0⟩
  refine List.filter_eq_nil_iff.mpr ?_
  intro c member
  rcases fresh.1 c member with punctuation | placeholder
  · rw [isDialled_of_punctuation punctuation]
    decide
  · obtain rfl := beq_iff_eq.mp placeholder
    decide

theorem FreshTemplate.units {digits : Nat} {template : NSString} (fresh : FreshTemplate digits template) :
    template.all isTemplateUnit := by
  rw [List.all_eq_true]
  intro c member
  rcases fresh.1 c member with kind | kind
  all_goals simp [isTemplateUnit, kind]

theorem getFormattingTemplate_fresh (expressions : u.TypingExpressions) {state : NBAsYouTypeFormatter}
    {numberPattern numberFormat : NSString} (digits : 0 < state.nationalNumber.length)
    (conserves : ∀ keep : unichar → Bool, (∀ c, isPunctuation c = true → keep c = false) →
      ∀ s, (u.replaceStringByRegex s numberPattern numberFormat).filter keep = s.filter keep) :
    ∃ template, getFormattingTemplate u state numberPattern numberFormat = .ok template ∧
      (template = [] ∨ FreshTemplate state.nationalNumber.length template) := by
  unfold getFormattingTemplate
  dsimp only
  split
  · rw [if_pos digits]
    exact ⟨[], rfl, Or.inl rfl⟩
  · rename_i aPhoneNumber others matched
    split
    · exact ⟨[], rfl, Or.inl rfl⟩
    · rename_i long
      refine ⟨_, rfl, Or.inr ?_⟩
      have nines : ∀ c ∈ aPhoneNumber, c = 57 := by
        have member : aPhoneNumber ∈ u.matchedStringByRegex (ns "999999999999999") numberPattern := by
          rw [matched]
          exact List.mem_cons_self
        obtain ⟨result, _, rfl⟩ := List.mem_map.mp member
        intro c inSlice
        have listed := List.mem_of_mem_drop (List.mem_of_mem_take inSlice)
        have all : ns "999999999999999" = List.replicate 15 57 := by decide
        rw [all] at listed
        exact List.eq_of_mem_replicate listed
      have kept := conserves (fun c => !isPunctuation c) (by simp) aPhoneNumber
      have whole : aPhoneNumber.filter (fun c => !isPunctuation c) = aPhoneNumber := by
        refine List.filter_eq_self.mpr ?_
        intro c member
        rw [nines c member]
        decide
      rw [whole] at kept
      -- what is not punctuation in the formatted number is one of its nines
      have nine : ∀ c ∈ u.replaceStringByRegex aPhoneNumber numberPattern numberFormat,
          isPunctuation c = false → c = 57 := by
        intro c member noPunctuation
        refine nines c ?_
        rw [← kept]
        exact List.mem_filter.mpr ⟨member, by rw [noPunctuation]; rfl⟩
      have literal : ∀ group groups, expandTemplate group groups .plain NBDigitPlaceHolder = NBDigitPlaceHolder := by
        intro group groups
        simp [NBDigitPlaceHolder, expandTemplate]
      have placeholders := replaceStringByRegex_units expressions.nine literal
        (u.replaceStringByRegex aPhoneNumber numberPattern numberFormat)
      have mapped : (u.replaceStringByRegex aPhoneNumber numberPattern numberFormat).flatMap
            (fun c => if (c == 57) = true then NBDigitPlaceHolder else [c]) =
          (u.replaceStringByRegex aPhoneNumber numberPattern numberFormat).map
            fun c => if c = 57 then 0x2008 else c := by
        rw [← List.flatMap_pure_eq_map]
        refine List.flatMap_congr ?_
        intro c _
        by_cases same : c = 57
        · simp [same, NBDigitPlaceHolder]
        · simp [same]
      rw [placeholders, mapped]
      constructor
      · intro c member
        obtain ⟨before, listed, rfl⟩ := List.mem_map.mp member
        by_cases punctuation : isPunctuation before
        · have noNine : before ≠ 57 := by
            rintro rfl
            exact absurd punctuation (by decide)
          rw [if_neg noNine]
          exact Or.inl punctuation
        · rw [if_pos (nine before listed (by simpa using punctuation))]
          exact Or.inr rfl
      · rw [List.countP_map]
        calc state.nationalNumber.length
            ≤ aPhoneNumber.length := Nat.not_lt.mp long
          _ = (u.replaceStringByRegex aPhoneNumber numberPattern numberFormat).countP (fun c => !isPunctuation c) := by
              rw [List.countP_eq_length_filter, kept]
          _ ≤ _ := by
              refine List.countP_mono_left ?_
              intro c member noPunctuation
              rw [Function.comp_apply, if_pos (nine c member (by simpa using noPunctuation))]
              rfl

theorem first_placeholder {template : NSString} (left : template.any isPlaceholder) :
    ∃ before after, template = before ++ 0x2008 :: after ∧ before.all fun c => !isPlaceholder c := by
  induction template with
  | nil => cases left
  | cons c template ih =>
    by_cases here : isPlaceholder c
    · obtain rfl := beq_iff_eq.mp here
      exact ⟨[], template, rfl, rfl⟩
    · rw [List.any_cons, Bool.or_eq_true] at left
      obtain ⟨before, after, rfl, none⟩ := ih (left.resolve_left here)
      exact ⟨c :: before, after, rfl, by rw [List.all_cons, none]; simpa using here⟩

theorem findIdx?_placeholder {before after : NSString} (none : before.all fun c => !isPlaceholder c) :
    (before ++ 0x2008 :: after).findIdx? isPlaceholder = some before.length := by
  induction before with
  | nil => rfl
  | cons c before ih =>
    rw [List.all_cons, Bool.and_eq_true] at none
    rw [List.cons_append, List.findIdx?_cons, if_neg (by simpa using none.1), ih none.2]
    rfl

theorem literalSearch_placeholder {before after : NSString} (none : before.all fun c => !isPlaceholder c) :
    literalSearch (before ++ 0x2008 :: after) NBDigitPlaceHolder = some before.length := by
  rw [literalSearch, List.find?_range_eq_some]
  refine ⟨?_, ?_, ?_⟩
  · rw [List.drop_left]
    simp [NBDigitPlaceHolder]
  · rw [List.mem_range, List.length_append, List.length_cons]
    omega
  · intro index earlier
    rw [List.drop_append_of_le_length (Nat.le_of_lt earlier), List.drop_eq_getElem_cons earlier]
    rw [List.all_eq_true] at none
    have other := none before[index] (List.getElem_mem earlier)
    have different : (before[index] == 0x2008) = false := by simpa [isPlaceholder] using other
    simp only [NBDigitPlaceHolder, List.cons_append, List.isPrefixOf]
    rw [BEq.comm, different]
    rfl

/-- A digit for the first placeholder, after the digits before it. -/
theorem inputDigitHelper_placed (expressions : u.TypingExpressions) {state : NBAsYouTypeFormatter} {c : unichar}
    (units : state.formattingTemplate.all isTemplateUnit) (isDigit : isAsciiDigit c = true)
    (left : (state.formattingTemplate.drop state.lastMatchPosition).any isPlaceholder) :
    ∃ output template lastMatchPosition,
      inputDigitHelper u state [c] = .ok (output,
        { state with formattingTemplate := template, lastMatchPosition := lastMatchPosition }) ∧
      template.all isTemplateUnit ∧ template.countP isPlaceholder + 1 = state.formattingTemplate.countP isPlaceholder ∧
      ∀ digits, Filled state.formattingTemplate state.lastMatchPosition digits →
        Filled template lastMatchPosition (digits ++ [c]) ∧ dialled output = digits ++ [c] := by
  have somewhere : state.formattingTemplate.any isPlaceholder := by
    rw [List.any_eq_true] at left ⊢
    obtain ⟨x, member, placeholder⟩ := left
    exact ⟨x, List.mem_of_mem_drop member, placeholder⟩
  obtain ⟨before, after, whole, none⟩ := first_placeholder somewhere
  have searched := expressions.search _ units
  rw [whole, literalSearch_placeholder none] at searched
  have position : u.stringPositionByRegex state.formattingTemplate NBDigitPlaceHolder = before.length := by
    rw [stringPositionByRegex_units expressions.placeholder (by decide), whole, findIdx?_placeholder none]
  have found : u.stringPositionByRegex (state.formattingTemplate.drop state.lastMatchPosition) NBDigitPlaceHolder ≥ 0 := by
    obtain ⟨x, member, placeholder⟩ := List.any_eq_true.mp left
    rw [stringPositionByRegex_units expressions.placeholder (by decide)]
    cases at' : (state.formattingTemplate.drop state.lastMatchPosition).findIdx? isPlaceholder with
    | none =>
      rw [List.findIdx?_eq_none_iff.mp at' x member] at placeholder
      cases placeholder
    | some index => exact Int.natCast_nonneg index
  have placed : state.formattingTemplate.take before.length ++ [c] ++
      state.formattingTemplate.drop (before.length + NBDigitPlaceHolder.length) = before ++ c :: after := by
    have tail : (before ++ 0x2008 :: after).drop (before.length + NBDigitPlaceHolder.length) = after := by
      rw [← List.drop_drop, List.drop_left]
      rfl
    rw [whole, List.take_left, tail, List.append_assoc]
    rfl
  have bound : before.length + 1 ≤ (before ++ c :: after).length := by
    rw [List.length_append, List.length_cons]
    omega
  refine ⟨before ++ [c], before ++ c :: after, before.length, ?_, ?_, ?_, ?_⟩
  · have start : (before ++ c :: after).take (before.length + 1) = before ++ [c] := by
      rw [List.take_length_add_append]
      rfl
    unfold inputDigitHelper
    dsimp only
    rw [if_pos found, position, whole, searched, ← whole]
    dsimp only
    rw [placed, Int.toNat_natCast, substringToIndex_of_le bound, start]
    rfl
  · rw [whole, List.all_append, List.all_cons, Bool.and_eq_true, Bool.and_eq_true] at units
    rw [List.all_append, List.all_cons, units.1, units.2.2]
    simp [isTemplateUnit, isDigit]
  · rw [whole, List.countP_append, List.countP_append, List.countP_cons, List.countP_cons, isPlaceholder_of_digit isDigit]
    rfl
  · rintro digits ⟨filled, rest, split, clear, kept, noDigits, earlier⟩
    -- nothing before the first placeholder is yet to be filled
    have within : filled <+: before := by
      rw [whole] at split
      rw [List.all_eq_true] at clear
      rcases List.append_eq_append_iff.mp split with ⟨middle, longer, later⟩ | ⟨middle, longer, later⟩
      · cases middle with
        | nil =>
          rw [longer, List.append_nil]
        | cons first middle =>
          rw [List.cons_append] at later
          obtain ⟨rfl, _⟩ := List.cons.inj later
          have here := clear 0x2008 (by rw [longer]; simp)
          exact absurd here (by decide)
      · exact ⟨middle, longer.symm⟩
    obtain ⟨middle, rfl⟩ := within
    have remaining : rest = middle ++ 0x2008 :: after := by
      rw [whole, List.append_assoc] at split
      exact (List.append_cancel_left split).symm
    have empty : dialled middle = [] ∧ dialled after = [] := by
      rw [remaining, dialled_append, List.append_eq_nil_iff] at noDigits
      exact ⟨noDigits.1, noDigits.2⟩
    have before' : dialled (filled ++ middle ++ [c]) = digits ++ [c] := by
      have single : dialled [c] = [c] := dialled_digits (by rw [List.all_cons, isDigit]; rfl)
      rw [dialled_append, dialled_append, kept, empty.1, List.append_nil, single]
    refine ⟨⟨filled ++ middle ++ [c], after, by simp, ?_, before', empty.2, by simp⟩, before'⟩
    rw [List.all_append, none, List.all_cons, isPlaceholder_of_digit isDigit]
    rfl

/-- No placeholder is left from the last match on. -/
def Exhausted (state : NBAsYouTypeFormatter) : Prop :=
  (state.formattingTemplate.drop state.lastMatchPosition).any isPlaceholder = false

theorem inputDigitHelper_exhausted (expressions : u.TypingExpressions) {state : NBAsYouTypeFormatter}
    (exhausted : state.Exhausted) (nextChar : NSString) :
    inputDigitHelper u state nextChar = .ok (state.accruedInput,
      { state with
        ableToFormat := state.ableToFormat && state.possibleFormats.length != 1
        currentFormattingPattern := [] }) := by
  have nowhere :
      ¬ u.stringPositionByRegex (state.formattingTemplate.drop state.lastMatchPosition) NBDigitPlaceHolder ≥ 0 := by
    have none : (state.formattingTemplate.drop state.lastMatchPosition).findIdx? isPlaceholder = none := by
      rw [List.findIdx?_eq_none_iff]
      simpa using List.any_eq_false.mp exhausted
    rw [stringPositionByRegex_units expressions.placeholder (by decide), none]
    decide
  unfold inputDigitHelper
  dsimp only
  rw [if_neg nowhere]
  rfl

theorem Filled.left {template : NSString} {lastMatchPosition : Nat} {digits : NSString}
    (filled : Filled template lastMatchPosition digits) (some : 0 < template.countP isPlaceholder) :
    (template.drop lastMatchPosition).any isPlaceholder := by
  obtain ⟨done, rest, rfl, clear, _, _, earlier⟩ := filled
  have none : done.countP isPlaceholder = 0 := by
    rw [List.countP_eq_zero]
    intro c member
    rw [List.all_eq_true] at clear
    simpa using clear c member
  rw [List.countP_append, none, Nat.zero_add, List.countP_pos_iff] at some
  rw [List.drop_append_of_le_length earlier, List.any_append, Bool.or_eq_true]
  exact Or.inr (List.any_eq_true.mpr some)

/-- Digits fill a template that has a placeholder for each of them. -/
theorem inputDigits_filled (expressions : u.TypingExpressions) (state : NBAsYouTypeFormatter) {digits : NSString}
    (areDigits : digits.all isAsciiDigit) {done : NSString} (tempNationalNumber : NSString)
    (units : state.formattingTemplate.all isTemplateUnit)
    (filled : Filled state.formattingTemplate state.lastMatchPosition done)
    (room : digits.length ≤ state.formattingTemplate.countP isPlaceholder) :
    ∃ output template lastMatchPosition,
      inputDigits u state tempNationalNumber digits = .ok (output,
        { state with formattingTemplate := template, lastMatchPosition := lastMatchPosition }) ∧
      template.all isTemplateUnit ∧ Filled template lastMatchPosition (done ++ digits) ∧
      (digits ≠ [] → dialled output = done ++ digits) := by
  induction digits generalizing state done tempNationalNumber with
  | nil =>
    rw [List.append_nil]
    exact ⟨tempNationalNumber, _, _, rfl, units, filled, fun nonempty => absurd rfl nonempty⟩
  | cons c digits ih =>
    rw [List.all_cons, Bool.and_eq_true] at areDigits
    rw [List.length_cons] at room
    have left := filled.left (by omega)
    obtain ⟨output, template, position, placed, units', count, fills⟩ :=
      inputDigitHelper_placed expressions units areDigits.1 left
    obtain ⟨filled', dial⟩ := fills done filled
    have room' : digits.length ≤ template.countP isPlaceholder := by omega
    obtain ⟨last, template', position', rest, units'', filled'', dial'⟩ :=
      ih { state with formattingTemplate := template, lastMatchPosition := position } areDigits.2 output units' filled' room'
    rw [List.append_assoc, List.singleton_append] at filled'' dial'
    refine ⟨last, template', position', ?_, units'', filled'', ?_⟩
    · unfold inputDigits
      rw [placed]
      exact rest
    · intro _
      cases digits with
      | nil =>
        obtain ⟨rfl, _⟩ := Prod.mk.inj (Except.ok.inj rest)
        exact dial
      | cons next digits => exact dial' (List.cons_ne_nil _ _)

theorem createFormattingTemplate_choice (expressions : u.TypingExpressions) {state : NBAsYouTypeFormatter}
    (digits : 0 < state.nationalNumber.length) {format : NBNumberFormat} {pattern : NSString}
    (atPattern : format.pattern = some pattern) (conserves : u.Conserves format) :
    ∃ created template,
      createFormattingTemplate u state pattern format = .ok (created, { state with formattingTemplate := template }) ∧
      (created = true → FreshTemplate state.nationalNumber.length template) ∧
      (created = false → template = [] ∨ template = state.formattingTemplate) := by
  obtain ⟨pattern', same, _, conserves⟩ := conserves
  obtain rfl := Option.some.inj (atPattern.symm.trans same)
  unfold createFormattingTemplate
  split
  · exact ⟨false, _, rfl, fun absurd => (by cases absurd), fun _ => Or.inr rfl⟩
  · obtain ⟨template, made, fresh⟩ := getFormattingTemplate_fresh expressions digits
      (conserves (templatePattern u pattern) (by simp))
    refine ⟨!template.isEmpty, template, by rw [made]; rfl, ?_, ?_⟩
    · intro nonempty
      refine fresh.resolve_left ?_
      rintro rfl
      cases nonempty
    · intro empty
      exact Or.inl (List.isEmpty_iff.mp (by simpa using empty))

/-- How the search for a format with a template ends. -/
inductive TemplateChoice (state : NBAsYouTypeFormatter) (formats : List NBNumberFormat) :
    Bool → NBAsYouTypeFormatter → Prop
  | created (template pattern : NSString) (separated : Bool) (fresh : FreshTemplate state.nationalNumber.length template) :
      TemplateChoice state formats true
        { state with
          formattingTemplate := template
          currentFormattingPattern := pattern
          shouldAddSpaceAfterNationalPrefix := separated
          lastMatchPosition := 0 }
  | met (template : NSString) (old : template = [] ∨ template = state.formattingTemplate)
      (pattern : ∃ format ∈ formats, format.pattern = some state.currentFormattingPattern) :
      TemplateChoice state formats false { state with formattingTemplate := template }
  | gaveUp (template : NSString) (old : template = [] ∨ template = state.formattingTemplate) :
      TemplateChoice state formats false { state with formattingTemplate := template, ableToFormat := false }

theorem firstTemplate_choice (expressions : u.TypingExpressions) (state : NBAsYouTypeFormatter)
    (digits : 0 < state.nationalNumber.length) {formats : List NBNumberFormat}
    (conserves : ∀ format ∈ formats, u.Conserves format) :
    ∃ created after, firstTemplate u state formats = .ok (created, after) ∧ TemplateChoice state formats created after := by
  induction formats generalizing state with
  | nil => exact ⟨false, _, rfl, .gaveUp state.formattingTemplate (Or.inr rfl)⟩
  | cons format formats ih =>
    have conserve := conserves format List.mem_cons_self
    obtain ⟨pattern, atPattern, written, _⟩ := id conserve
    obtain ⟨created, template, made, fresh, old⟩ := createFormattingTemplate_choice expressions digits atPattern conserve
    unfold firstTemplate
    rw [atPattern]
    simp only [Option.getD_some]
    by_cases met : state.currentFormattingPattern = pattern
    · rw [if_pos (by simp [met])]
      exact ⟨false, _, rfl, .met state.formattingTemplate (Or.inr rfl) ⟨format, List.mem_cons_self, by rw [atPattern, met]⟩⟩
    · rw [if_neg (by simp [written, met]), made]
      simp only [bind, Except.bind]
      cases created with
      | true => exact ⟨true, _, rfl, .created template pattern _ (fresh rfl)⟩
      | false =>
        have old := old rfl
        obtain ⟨created, after, found, choice⟩ := ih { state with formattingTemplate := template } digits
          (fun format member => conserves format (List.mem_cons_of_mem _ member))
        refine ⟨created, after, found, ?_⟩
        have older : ∀ later, (later = [] ∨ later = template) → later = [] ∨ later = state.formattingTemplate := by
          rintro later (rfl | rfl)
          · exact Or.inl rfl
          · exact old
        cases choice with
        | created later pattern separated fresh => exact .created later pattern separated fresh
        | met later old' pattern =>
          obtain ⟨format', member, same⟩ := pattern
          exact .met later (older later old') ⟨format', List.mem_cons_of_mem _ member, same⟩
        | gaveUp later old' => exact .gaveUp later (older later old')

end NBAsYouTypeFormatter

end SignalPods.PhoneNumber
