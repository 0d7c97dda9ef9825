import SignalPods.PhoneNumber.CallingCodes
import SignalPods.PhoneNumber.NationalPrefix
import SignalPods.PhoneNumber.EntryPoints
import SignalPods.PhoneNumber.Formatting

namespace SignalPods.PhoneNumber

open Foundation

/-- What a template writes between digits is digits. -/
def WritesDigits (template : NSString) : Prop :=
  ∀ (group : Nat → NSString) (groups : Nat), (∀ index, (group index).all isAsciiDigit) →
    (expandTemplate group groups .plain template).all isAsciiDigit

section Digits

theorem drop_digits {s : NSString} (digits : s.all isAsciiDigit) (n : Nat) : (s.drop n).all isAsciiDigit := by
  rw [List.all_eq_true] at digits ⊢
  exact fun c member => digits c (List.mem_of_mem_drop member)

theorem groupText_digits {s : NSString} (digits : s.all isAsciiDigit) (result : NSTextCheckingResult) (index : Nat) :
    (groupText s result index).all isAsciiDigit := by
  unfold groupText
  cases result.rangeAtIndex index with
  | none => rfl
  | some range => exact slice_digits digits range

theorem replaceMatches_digits {s template : NSString} (digits : s.all isAsciiDigit) (writes : WritesDigits template)
    (position : Nat) (results : List NSTextCheckingResult) :
    (replaceMatches s template position results).all isAsciiDigit := by
  induction results generalizing position with
  | nil => exact drop_digits digits position
  | cons result results ih =>
    unfold replaceMatches
    rw [List.all_append, List.all_append, slice_digits digits, ih, replacementString,
      writes _ _ (groupText_digits digits result)]
    rfl

end Digits

namespace NBPhoneNumberUtil

variable {u : NBPhoneNumberUtil}

/-- The transform rules of the metadata write digits. -/
def TransformsToDigits (u : NBPhoneNumberUtil) : Prop :=
  ∀ regionCode metadata, u.getMetadataForRegion regionCode = some metadata →
    ∀ rule, metadata.nationalPrefixTransformRule = some rule → WritesDigits rule

theorem replaceFirstStringByRegex_digits {s template : NSString} (digits : s.all isAsciiDigit)
    (writes : WritesDigits template) (pattern : NSString) :
    (u.replaceFirstStringByRegex s pattern template).all isAsciiDigit := by
  unfold replaceFirstStringByRegex
  split
  · exact replaceMatches_digits digits writes 0 _
  · exact digits

theorem transformedNumber_digits {number pattern firstMatchString transformed : NSString} {metadata : NBPhoneMetaData}
    {group : Option NSString} {noTransform : Bool} (digits : number.all isAsciiDigit)
    (writes : ∀ rule, metadata.nationalPrefixTransformRule = some rule → WritesDigits rule)
    (answers : u.transformedNumber number metadata pattern firstMatchString group = .ok (noTransform, transformed)) :
    transformed.all isAsciiDigit := by
  have rest : ∀ x, (substringFromIndex number firstMatchString.length).map (Prod.mk true) = .ok x →
      x.2.all isAsciiDigit := by
    intro x dropped
    unfold substringFromIndex at dropped
    split at dropped
    · obtain rfl := Except.ok.inj dropped
      exact drop_digits digits _
    · cases dropped
  unfold transformedNumber at answers
  cases atRule : metadata.nationalPrefixTransformRule with
  | none =>
    rw [atRule] at answers
    exact rest _ answers
  | some rule =>
    rw [atRule] at answers
    dsimp only at answers
    split at answers
    · exact rest _ answers
    · obtain ⟨_, rfl⟩ := Prod.mk.inj (Except.ok.inj answers)
      exact replaceFirstStringByRegex_digits digits (writes rule atRule) pattern

/-- Digits stay digits when a national prefix is taken off. -/
theorem maybeStripNationalPrefix_digits {number : NSString} {metadata : NBPhoneMetaData} {carrierCode : Option NSString}
    {stripped : StrippedPrefix} (digits : number.all isAsciiDigit)
    (writes : ∀ rule, metadata.nationalPrefixTransformRule = some rule → WritesDigits rule)
    (answers : u.maybeStripNationalPrefixAndCarrierCode number metadata carrierCode = .ok stripped) :
    stripped.number.all isAsciiDigit := by
  unfold maybeStripNationalPrefixAndCarrierCode at answers
  dsimp only at answers
  split at answers
  · obtain rfl := Except.ok.inj answers
    exact digits
  · split at answers
    · obtain rfl := Except.ok.inj answers
      exact digits
    · obtain ⟨firstMatchString, _, answers⟩ := bind_eq_ok_iff.mp answers
      obtain ⟨group, _, answers⟩ := bind_eq_ok_iff.mp answers
      obtain ⟨⟨noTransform, transformed⟩, transforms, answers⟩ := bind_eq_ok_iff.mp answers
      have kept := transformedNumber_digits digits writes transforms
      dsimp only at answers
      split at answers
      · obtain rfl := Except.ok.inj answers
        exact digits
      · split at answers
        · obtain ⟨_, _, answers⟩ := bind_eq_ok_iff.mp answers
          obtain rfl := Except.ok.inj answers
          exact kept
        · split at answers
          · obtain ⟨_, _, answers⟩ := bind_eq_ok_iff.mp answers
            obtain rfl := Except.ok.inj answers
            exact kept
          · obtain rfl := Except.ok.inj answers
            exact kept

theorem callingCodeOfLength_digits {fullNumber rest : NSString} (digits : fullNumber.all isAsciiDigit) {lengths : List Nat}
    {code : Int} (found : u.callingCodeOfLength fullNumber lengths = .ok (some (code, rest))) :
    rest.all isAsciiDigit := by
  induction lengths with
  | nil => cases found
  | cons i lengths ih =>
    unfold callingCodeOfLength at found
    split at found
    · rename_i short
      obtain ⟨start, _, found⟩ := bind_eq_ok_iff.mp found
      dsimp only at found
      split at found
      · rw [substringFromIndex_of_le short] at found
        obtain ⟨_, rfl⟩ := Prod.mk.inj (Option.some.inj (Except.ok.inj found))
        exact drop_digits digits i
      · exact ih found
    · cases found

theorem extractCountryCode_digits {fullNumber nationalNumber rest : NSString} (digits : fullNumber.all isAsciiDigit)
    (before : nationalNumber.all isAsciiDigit) {code : Int}
    (extracted : u.extractCountryCode fullNumber nationalNumber = .ok (code, rest)) : rest.all isAsciiDigit := by
  unfold extractCountryCode at extracted
  rw [u.normalizeNonBreakingSpace_of_absent (ne_of_digits digits (by decide))] at extracted
  dsimp only at extracted
  split at extracted
  · obtain ⟨_, rfl⟩ := Prod.mk.inj (Except.ok.inj extracted)
    exact before
  · obtain ⟨_, _, extracted⟩ := bind_eq_ok_iff.mp extracted
    split at extracted
    · obtain ⟨_, rfl⟩ := Prod.mk.inj (Except.ok.inj extracted)
      exact before
    · obtain ⟨found, atCode, extracted⟩ := bind_eq_ok_iff.mp extracted
      cases found with
      | none =>
        obtain ⟨_, rfl⟩ := Prod.mk.inj (Except.ok.inj extracted)
        exact before
      | some pair =>
        obtain ⟨code', rest'⟩ := pair
        obtain ⟨_, rfl⟩ := Prod.mk.inj (Except.ok.inj extracted)
        rw [List.all_append, before, callingCodeOfLength_digits digits atCode]
        rfl

/-- An extraction with a national number of digits, which wrote nothing but the
calling code. -/
def Extraction.Numbers (phoneNumber : NBPhoneNumber) (extraction : Extraction) : Prop :=
  extraction.nationalNumber.all isAsciiDigit ∧
    ∃ code, extraction.phoneNumber = { phoneNumber with countryCode := code }

theorem extractInternational_numbers {fullNumber nationalNumber : NSString} {phoneNumber : NBPhoneNumber}
    {extraction : Extraction} (digits : fullNumber.all isAsciiDigit) (before : nationalNumber.all isAsciiDigit)
    (extracted : u.extractInternational fullNumber nationalNumber phoneNumber = .ok extraction) :
    extraction.Numbers phoneNumber := by
  unfold extractInternational at extracted
  split at extracted
  · obtain rfl := Except.ok.inj extracted
    exact ⟨before, phoneNumber.countryCode, rfl⟩
  · obtain ⟨⟨code, rest⟩, found, extracted⟩ := bind_eq_ok_iff.mp extracted
    have kept := extractCountryCode_digits digits before found
    dsimp only at extracted
    split at extracted
    · obtain rfl := Except.ok.inj extracted
      exact ⟨kept, some code, rfl⟩
    · obtain rfl := Except.ok.inj extracted
      exact ⟨kept, phoneNumber.countryCode, rfl⟩

/-- The transform rule of some metadata, if any, writes digits. -/
def RuleWritesDigits (metadata : Option NBPhoneMetaData) : Prop :=
  ∀ known, metadata = some known → ∀ rule, known.nationalPrefixTransformRule = some rule → WritesDigits rule

theorem parsePrefixAsIdd_digits {iddPattern number rest : NSString} (digits : number.all isAsciiDigit) {stripped : Bool}
    (answers : u.parsePrefixAsIdd iddPattern number = .ok (stripped, rest)) : rest.all isAsciiDigit := by
  unfold parsePrefixAsIdd at answers
  split at answers
  · split at answers
    · cases answers
    · rename_i matched _ _
      obtain ⟨matchedString, _, answers⟩ := bind_eq_ok_iff.mp answers
      obtain ⟨remainString, remains, answers⟩ := bind_eq_ok_iff.mp answers
      have kept : remainString.all isAsciiDigit := by
        unfold substringFromIndex at remains
        split at remains
        · obtain rfl := Except.ok.inj remains
          exact drop_digits digits _
        · cases remains
      split at answers
      · obtain ⟨_, rfl⟩ := Prod.mk.inj (Except.ok.inj answers)
        exact kept
      · obtain ⟨digitMatched, _, answers⟩ := bind_eq_ok_iff.mp answers
        split at answers
        · obtain ⟨_, rfl⟩ := Prod.mk.inj (Except.ok.inj answers)
          exact digits
        · obtain ⟨_, rfl⟩ := Prod.mk.inj (Except.ok.inj answers)
          exact kept
  · obtain ⟨_, rfl⟩ := Prod.mk.inj (Except.ok.inj answers)
    exact digits

theorem maybeStripInternationalPrefix_digits {number idd rest : NSString} (some_units : ¬ number.isEmpty)
    {source : NBECountryCodeSource}
    (answers : u.maybeStripInternationalPrefixAndNormalize number idd = .ok (source, rest)) :
    rest.all isAsciiDigit := by
  unfold maybeStripInternationalPrefixAndNormalize at answers
  rw [if_neg some_units] at answers
  split at answers
  · obtain ⟨_, rfl⟩ := Prod.mk.inj (Except.ok.inj answers)
    exact u.normalize_digits _
  · obtain ⟨⟨stripped, number'⟩, parsed, answers⟩ := bind_eq_ok_iff.mp answers
    obtain ⟨_, rfl⟩ := Prod.mk.inj (Except.ok.inj answers)
    exact parsePrefixAsIdd_digits (u.normalize_digits number) parsed

theorem withoutDefaultCountryCode_digits {fullNumber rest : NSString} {metadata : NBPhoneMetaData}
    (digits : fullNumber.all isAsciiDigit) (writes : RuleWritesDigits (some metadata))
    (answers : u.withoutDefaultCountryCode fullNumber metadata = .ok (some rest)) : rest.all isAsciiDigit := by
  unfold withoutDefaultCountryCode at answers
  dsimp only at answers
  split at answers
  · obtain ⟨potentialNationalNumber, remains, answers⟩ := bind_eq_ok_iff.mp answers
    have kept : potentialNationalNumber.all isAsciiDigit := by
      unfold substringFromIndex at remains
      split at remains
      · obtain rfl := Except.ok.inj remains
        exact drop_digits digits _
      · cases remains
    obtain ⟨stripped, strips, answers⟩ := bind_eq_ok_iff.mp answers
    have strippedDigits := maybeStripNationalPrefix_digits kept (writes metadata rfl) strips
    obtain ⟨whole, _, answers⟩ := bind_eq_ok_iff.mp answers
    obtain ⟨part, _, answers⟩ := bind_eq_ok_iff.mp answers
    split at answers
    · obtain rfl := Option.some.inj (Except.ok.inj answers)
      exact strippedDigits
    · obtain ⟨lengths, _, answers⟩ := bind_eq_ok_iff.mp answers
      split at answers
      · obtain rfl := Option.some.inj (Except.ok.inj answers)
        exact strippedDigits
      · cases Except.ok.inj answers
  · cases Except.ok.inj answers

theorem maybeExtractCountryCode_numbers {number nationalNumber : NSString} {metadata : Option NBPhoneMetaData}
    {phoneNumber : NBPhoneNumber} {extraction : Extraction} (writes : RuleWritesDigits metadata)
    (before : nationalNumber.all isAsciiDigit)
    (extracted : u.maybeExtractCountryCode number metadata nationalNumber false phoneNumber = .ok extraction) :
    extraction.Numbers phoneNumber := by
  unfold maybeExtractCountryCode at extracted
  by_cases empty : number.isEmpty
  · rw [if_pos empty] at extracted
    obtain rfl := Except.ok.inj extracted
    exact ⟨before, phoneNumber.countryCode, rfl⟩
  · rw [if_neg empty] at extracted
    obtain ⟨⟨source, fullNumber⟩, strips, extracted⟩ := bind_eq_ok_iff.mp extracted
    have digits := maybeStripInternationalPrefix_digits empty strips
    dsimp only at extracted
    split at extracted
    · exact extractInternational_numbers digits before extracted
    · cases metadata with
      | none =>
        obtain rfl := Except.ok.inj extracted
        exact ⟨before, some 0, rfl⟩
      | some known =>
        obtain ⟨found, without, extracted⟩ := bind_eq_ok_iff.mp extracted
        cases found with
        | none =>
          obtain rfl := Except.ok.inj extracted
          exact ⟨before, some 0, rfl⟩
        | some rest =>
          obtain rfl := Except.ok.inj extracted
          refine ⟨?_, known.countryCode, rfl⟩
          rw [List.all_append, before, withoutDefaultCountryCode_digits digits writes without]
          rfl

theorem extractForParsing_numbers {number : NSString} {metadata : Option NBPhoneMetaData}
    {phoneNumber : NBPhoneNumber} {extraction : Extraction} (writes : RuleWritesDigits metadata)
    (extracted : u.extractForParsing number metadata false phoneNumber = .ok (.ok extraction)) :
    extraction.Numbers phoneNumber := by
  unfold extractForParsing at extracted
  obtain ⟨first, tried, extracted⟩ := bind_eq_ok_iff.mp extracted
  have numbers := maybeExtractCountryCode_numbers writes rfl tried
  split at extracted
  · obtain rfl := Except.ok.inj (Except.ok.inj extracted)
    exact numbers
  · dsimp only at extracted
    split at extracted
    · obtain ⟨again, retried, extracted⟩ := bind_eq_ok_iff.mp extracted
      obtain ⟨code, same⟩ := numbers.2
      obtain ⟨digits, code', same'⟩ := maybeExtractCountryCode_numbers writes numbers.1 retried
      split at extracted
      · cases extracted
      · obtain rfl := Except.ok.inj (Except.ok.inj extracted)
        refine ⟨digits, code', ?_⟩
        rw [same', same]
    · cases extracted

theorem resolveRegion_numbers (writes : u.TransformsToDigits) {nationalNumber digits : NSString}
    {defaultRegion : Option NSString} {extraction : Extraction} {phoneNumber withCode : NBPhoneNumber}
    {metadata : Option NBPhoneMetaData} (numbers : extraction.Numbers phoneNumber)
    (resolved : u.resolveRegion nationalNumber defaultRegion (u.getMetadataForRegion defaultRegion) false extraction =
      (digits, metadata, withCode)) :
    digits.all isAsciiDigit ∧ RuleWritesDigits metadata ∧ ∃ code, withCode = { phoneNumber with countryCode := code } := by
  obtain ⟨extracted, code, same⟩ := numbers
  unfold resolveRegion at resolved
  split at resolved
  · obtain ⟨rfl, later⟩ := Prod.mk.inj resolved
    obtain ⟨rfl, rfl⟩ := Prod.mk.inj later
    refine ⟨extracted, ?_, code, same⟩
    intro known found
    split at found
    · exact writes _ known found
    · unfold getMetadataForRegionOrCallingCode getMetadataForNonGeographicalRegion at found
      split at found
      · exact writes _ known found
      · exact writes _ known found
  · obtain ⟨rfl, later⟩ := Prod.mk.inj resolved
    obtain ⟨rfl, rfl⟩ := Prod.mk.inj later
    refine ⟨?_, fun known found => writes _ known found, ?_⟩
    · rw [List.all_append, extracted, u.normalize_digits]
      rfl
    · rw [same]
      split
      · exact ⟨_, rfl⟩
      · exact ⟨_, rfl⟩

theorem stripForParsing_digits {digits rest : NSString} {metadata : Option NBPhoneMetaData}
    {phoneNumber kept : NBPhoneNumber} (before : digits.all isAsciiDigit) (writes : RuleWritesDigits metadata)
    (strips : u.stripForParsing digits metadata false phoneNumber = .ok (rest, kept)) :
    rest.all isAsciiDigit ∧ kept = phoneNumber := by
  unfold stripForParsing at strips
  cases metadata with
  | none =>
    obtain ⟨rfl, rfl⟩ := Prod.mk.inj (Except.ok.inj strips)
    exact ⟨before, rfl⟩
  | some known =>
    obtain ⟨stripped, answers, strips⟩ := bind_eq_ok_iff.mp strips
    dsimp only at strips
    split at strips
    · obtain ⟨rfl, rfl⟩ := Prod.mk.inj (Except.ok.inj strips)
      exact ⟨maybeStripNationalPrefix_digits before (writes known rfl) answers, rfl⟩
    · obtain ⟨rfl, rfl⟩ := Prod.mk.inj (Except.ok.inj strips)
      exact ⟨before, rfl⟩

/-- The number of a calling code and the digits after it. -/
def numberOf (u : NBPhoneNumberUtil) (countryCode : Option Int) (digits : NSString) (extension : Option NSString) :
    NBPhoneNumber :=
  { u.setItalianLeadingZerosForPhoneNumber digits { countryCode, extension } with
    nationalNumber := some (longLongValue digits) }

theorem withExtension_eq (extension : NSString) :
    withExtension extension {} = { extension := if extension.length > 0 then some extension else none } := by
  unfold withExtension
  split <;> rfl

/-- What the parser returns is the number of some digits and of the extension it took off. -/
theorem parseViable_numberOf (writes : u.TransformsToDigits) {candidate : NSString} {defaultRegion : Option NSString}
    {phoneNumber : NBPhoneNumber} (parsed : u.parseViable candidate defaultRegion false {} = .ok (.ok phoneNumber)) :
    ∃ extension number code digits, u.maybeStripExtension candidate = .ok (extension, number) ∧
      digits.all isAsciiDigit ∧ MIN_LENGTH_FOR_NSN ≤ digits.length ∧ digits.length ≤ MAX_LENGTH_FOR_NSN ∧
      phoneNumber = u.numberOf code digits (if extension.length > 0 then some extension else none) := by
  unfold parseViable at parsed
  obtain ⟨⟨extension, number⟩, stripped, parsed⟩ := bind_eq_ok_iff.mp parsed
  obtain ⟨result, extracted, parsed⟩ := bind_eq_ok_iff.mp parsed
  cases result with
  | error anError => cases parsed
  | ok extraction =>
    have numbers := extractForParsing_numbers (fun known found => writes _ known found) extracted
    dsimp only at parsed
    cases resolved : u.resolveRegion number defaultRegion (u.getMetadataForRegion defaultRegion) false extraction with
    | mk digits rest =>
      obtain ⟨metadata, withCode⟩ := rest
      obtain ⟨before, rules, code, coded⟩ := resolveRegion_numbers writes numbers resolved
      rw [resolved] at parsed
      dsimp only at parsed
      split at parsed
      · cases parsed
      · obtain ⟨⟨rest, kept⟩, last, parsed⟩ := bind_eq_ok_iff.mp parsed
        obtain ⟨areDigits, same⟩ := stripForParsing_digits before rules last
        dsimp only at parsed
        split at parsed
        · cases parsed
        · rename_i enough
          split at parsed
          · cases parsed
          · rename_i few
            obtain rfl := Except.ok.inj (Except.ok.inj parsed)
            refine ⟨extension, number, code, rest, stripped, areDigits, Nat.not_lt.mp enough, Nat.not_lt.mp few, ?_⟩
            rw [same, coded, withExtension_eq]
            rfl

/-- Zeros, and what follows them. -/
theorem leadingZeros_split {digits : NSString} (zero : digits.head? = some 48) (long : 2 ≤ digits.length) :
    ∃ rest, digits = List.replicate (1 + ((digits.drop 1).dropLast.takeWhile (· == 48)).length) 48 ++ rest ∧
      rest ≠ [] ∧ (rest.head? ≠ some 48 ∨ rest.length = 1) := by
  cases digits with
  | nil => cases zero
  | cons c tail =>
    obtain rfl := Option.some.inj zero
    have some_units : tail ≠ [] := by
      rintro rfl
      simp at long
    have front := List.dropLast_append_getLast some_units
    have zeros : tail.dropLast.takeWhile (· == 48) =
        List.replicate (tail.dropLast.takeWhile (· == 48)).length 48 := by
      refine List.eq_replicate_of_mem fun d member => ?_
      simpa using List.mem_takeWhile_imp member
    refine ⟨tail.dropLast.dropWhile (· == 48) ++ [tail.getLast some_units], ?_, by simp, ?_⟩
    · rw [List.drop_one, List.tail_cons, Nat.add_comm, List.replicate_succ, ← zeros, List.cons_append,
        ← List.append_assoc, List.takeWhile_append_dropWhile, front]
    · cases rest : tail.dropLast.dropWhile (· == 48) with
      | nil => exact Or.inr rfl
      | cons d later =>
        left
        have first := List.head_dropWhile_not (· == 48) (l := tail.dropLast) (by rw [rest]; exact List.cons_ne_nil _ _)
        simp only [rest, List.head_cons] at first
        simpa using first

theorem hasPrefix_zero {digits : NSString} (areDigits : digits.all isAsciiDigit) :
    u.unicode.hasPrefix digits (ns "0") = decide (digits.head? = some 48) := by
  rw [u.unicode.hasPrefix_plain digits (ns "0") (all_isPlain_of_digits areDigits) (by decide)]
  cases digits with
  | nil => rfl
  | cons c rest =>
    have head : (ns "0").isPrefixOf (c :: rest) = (((48 : unichar) == c) && List.isPrefixOf [] rest) := rfl
    rw [head]
    by_cases zero : c = 48
    · simp [zero]
    · simp [zero, Ne.symm zero]

/-- The national significant number is the digits that were parsed. -/
theorem getNationalSignificantNumber_numberOf {digits : NSString} (areDigits : digits.all isAsciiDigit)
    (long : MIN_LENGTH_FOR_NSN ≤ digits.length) (short : digits.length ≤ MAX_LENGTH_FOR_NSN) (code : Option Int)
    (extension : Option NSString) : getNationalSignificantNumber (u.numberOf code digits extension) = digits := by
  unfold MIN_LENGTH_FOR_NSN at long
  unfold MAX_LENGTH_FOR_NSN at short
  have several : decide (digits.length > 1) = true := decide_eq_true (by omega)
  have value := longLongValue_digits areDigits (by omega)
  unfold getNationalSignificantNumber numberOf setItalianLeadingZerosForPhoneNumber
  rw [hasPrefix_zero areDigits, several, Bool.true_and]
  by_cases zero : digits.head? = some 48
  · obtain ⟨rest, split, some_units, leading⟩ := leadingZeros_split zero long
    have restDigits : rest.all isAsciiDigit := by
      rw [split, List.all_append, Bool.and_eq_true] at areDigits
      exact areDigits.2
    have same : digitsValue digits = digitsValue rest := by
      rw [split]
      exact digitsValue_zeros _ rest
    have spelled : stringValue (longLongValue digits) = rest := by
      rw [value, same]
      unfold stringValue
      rw [if_neg (by omega), Int.natAbs_natCast]
      exact decimalDigits_digitsValue restDigits some_units leading
    have counted (zeros : Nat) (few : zeros < 2 ^ 64) :
        nsUInteger ((if zeros ≠ 1 then some (zeros : Int) else some 1).getD 0) = zeros := by
      by_cases one : zeros = 1
      · rw [if_neg (not_not_intro one), one]
        rfl
      · rw [if_pos one]
        unfold nsUInteger
        rw [Option.getD_some]
        omega
    rw [decide_eq_true zero, if_pos rfl]
    dsimp only [formatted, Option.map_some, Option.getD_some]
    rw [if_pos rfl, spelled]
    conv_rhs => rw [split]
    congr 2
    refine counted _ ?_
    have zeros := congrArg List.length split
    rw [List.length_append, List.length_replicate] at zeros
    omega
  · rw [decide_eq_false zero, if_neg Bool.false_ne_true]
    dsimp only
    rw [if_neg Bool.false_ne_true]
    exact stringValue_longLongValue areDigits (by rintro rfl; simp at long) zero (by omega)

end NBPhoneNumberUtil

end SignalPods.PhoneNumber
