import SignalPods.PhoneNumber.DeletedDigits
import SignalPods.PhoneNumber.FormatterFrames
import SignalPods.PhoneNumber.KeptDigits
import SignalPods.PhoneNumber.TypedDigits

namespace SignalPods.PhoneNumber

open Foundation

/-- A digit as it is accrued, and any other unit as it is. -/
def inAscii (c : unichar) : unichar := (DIGIT_MAPPINGS c).getD c

theorem DIGIT_MAPPINGS_of_valid {c : unichar} (valid : isValidDigit c) : DIGIT_MAPPINGS c = some (inAscii c) := by
  have ascii : (digitInBlock 48 c).isSome ↔ 48 ≤ c.toNat ∧ c.toNat ≤ 48 + 9 := isSome_digitInBlock (by decide)
  have fullwidth : (digitInBlock 0xff10 c).isSome ↔ 0xff10 ≤ c.toNat ∧ c.toNat ≤ 0xff10 + 9 :=
    isSome_digitInBlock (by decide)
  have arabic : (digitInBlock 0x660 c).isSome ↔ 0x660 ≤ c.toNat ∧ c.toNat ≤ 0x660 + 9 := isSome_digitInBlock (by decide)
  have eastern : (digitInBlock 0x6f0 c).isSome ↔ 0x6f0 ≤ c.toNat ∧ c.toNat ≤ 0x6f0 + 9 := isSome_digitInBlock (by decide)
  have bounds := isValidDigit_bounds valid
  have listed : (DIGIT_MAPPINGS c).isSome := by
    unfold DIGIT_MAPPINGS
    rw [Option.isSome_or, Option.isSome_or, Option.isSome_or, Bool.or_eq_true, Bool.or_eq_true, Bool.or_eq_true, ascii,
      fullwidth, arabic]
    rw [Option.isSome_or, Bool.or_eq_true, eastern]
    omega
  obtain ⟨d, found⟩ := Option.isSome_iff_exists.mp listed
  unfold inAscii
  rw [found]
  rfl

theorem isAsciiDigit_inAscii {c : unichar} (valid : isValidDigit c) : isAsciiDigit (inAscii c) = true :=
  DIGIT_MAPPINGS_isAsciiDigit (DIGIT_MAPPINGS_of_valid valid)

/-- The engine finds the digits of all four scripts. -/
def NBPhoneNumberUtil.ReadsDigits (u : NBPhoneNumberUtil) : Prop :=
  ∀ c, isValidDigit c → u.regex.allMatches CAPTURING_DIGIT_PATTERN [c] ≠ []

namespace NBAsYouTypeFormatter

open NBPhoneNumberUtil

section Position

/-- The loop of `getRememberedPosition`, over what is left of the output. -/
def scanOutput (accruedInputWithoutFormatting : NSString) (positionToRemember : Nat) : Nat → Nat → NSString → Objc Nat
  | _, currentOutputIndex, [] => .ok currentOutputIndex
  | accruedInputIndex, currentOutputIndex, c :: rest =>
    if accruedInputIndex < positionToRemember then do
      let accrued ← characterAtIndex accruedInputWithoutFormatting accruedInputIndex
      scanOutput accruedInputWithoutFormatting positionToRemember
        (if accrued = c then accruedInputIndex + 1 else accruedInputIndex) (currentOutputIndex + 1) rest
    else .ok currentOutputIndex

def getRememberedPosition (self : NBAsYouTypeFormatter) : Objc Nat :=
  if !self.ableToFormat then .ok self.originalPosition
  else scanOutput self.accruedInputWithoutFormatting self.positionToRemember 0 0 self.currentOutput

variable {accrued : NSString} {position : Nat}

theorem characterAtIndex_eq {s : NSString} {index : Nat} {c : unichar} (found : s[index]? = some c) :
    characterAtIndex s index = .ok c := by
  unfold characterAtIndex
  rw [found]

/-- The scan goes on for as many units as are left to find, and to the end at most. -/
theorem scanOutput_bounds (inside : position ≤ accrued.length) (i j : Nat) (rest : NSString) :
    ∃ last, scanOutput accrued position i j rest = .ok last ∧ j + min (position - i) rest.length ≤ last ∧
      last ≤ j + rest.length := by
  induction rest generalizing i j with
  | nil => exact ⟨j, rfl, by simp, by simp⟩
  | cons c rest ih =>
    unfold scanOutput
    by_cases left : i < position
    · obtain ⟨d, atIndex, _⟩ := characterAtIndex_of_lt (show i < accrued.length by omega)
      rw [if_pos left, atIndex]
      simp only [bind, Except.bind]
      obtain ⟨last, scanned, low, high⟩ := ih (if d = c then i + 1 else i) (j + 1)
      refine ⟨last, scanned, ?_, ?_⟩
      · rw [List.length_cons]
        split at low <;> omega
      · rw [List.length_cons]
        omega
    · rw [if_neg left]
      exact ⟨j, rfl, by omega, by omega⟩

/-- Nothing is found among units that are none of those accrued. -/
theorem scanOutput_skips {start : NSString} (inside : position ≤ accrued.length) (rest : NSString) (i j : Nat)
    (left : i < position) (absent : ∀ c ∈ start, accrued[i]? ≠ some c) :
    scanOutput accrued position i j (start ++ rest) = scanOutput accrued position i (j + start.length) rest := by
  induction start generalizing j with
  | nil => rfl
  | cons c start ih =>
    obtain ⟨d, atIndex, found⟩ := characterAtIndex_of_lt (show i < accrued.length by omega)
    have different : d ≠ c := by
      rintro rfl
      exact absent d List.mem_cons_self found
    rw [List.cons_append, scanOutput, if_pos left, atIndex]
    simp only [bind, Except.bind]
    rw [if_neg different, ih (j + 1) fun c member => absent c (List.mem_cons_of_mem _ member), List.length_cons,
      Nat.add_assoc, Nat.add_comm 1]

/-- Among formatting characters the scan finds the units that were accrued. -/
theorem scanOutput_formatted (dials : ∀ c ∈ accrued, isDialled c = true) (inside : position ≤ accrued.length)
    {before after : NSString} {c : unichar} (last : accrued[position - 1]? = some c) (i j : Nat) (left : i < position)
    (same : dialled before = (accrued.take (position - 1)).drop i) :
    scanOutput accrued position i j (before ++ c :: after) = .ok (j + before.length + 1) := by
  induction before generalizing i j with
  | nil =>
    have reached : i = position - 1 := by
      have lengths := congrArg List.length same
      rw [List.length_drop, List.length_take] at lengths
      have none : (dialled []).length = 0 := rfl
      omega
    have stops (rest : NSString) : scanOutput accrued position position (j + 1) rest = .ok (j + 1) := by
      cases rest with
      | nil => rfl
      | cons c rest =>
        unfold scanOutput
        rw [if_neg (Nat.lt_irrefl _)]
    rw [List.nil_append, scanOutput, if_pos left, reached, characterAtIndex_eq last]
    simp only [bind, Except.bind]
    rw [if_pos trivial, Nat.sub_add_cancel (by omega)]
    exact stops after
  | cons b before ih =>
    obtain ⟨d, atIndex, found⟩ := characterAtIndex_of_lt (show i < accrued.length by omega)
    rw [List.cons_append, scanOutput, if_pos left, atIndex]
    simp only [bind, Except.bind]
    have final : j + (b :: before).length + 1 = j + 1 + before.length + 1 := by
      rw [List.length_cons]
      omega
    rw [final]
    by_cases shown : isDialled b
    · have split : dialled (b :: before) = b :: dialled before := List.filter_cons_of_pos shown
      rw [split] at same
      have within : i < (accrued.take (position - 1)).length := by
        by_contra beyond
        rw [List.drop_of_length_le (Nat.le_of_not_lt beyond)] at same
        cases same
      rw [List.length_take] at within
      rw [List.drop_eq_getElem_cons (by rw [List.length_take]; exact within), List.getElem_take] at same
      obtain ⟨first, rest⟩ := List.cons.inj same
      have equal : d = b := by
        rw [List.getElem?_eq_getElem (by omega), ← first] at found
        exact (Option.some.inj found).symm
      rw [if_pos equal]
      exact ih (i + 1) (j + 1) (by omega) rest
    · have split : dialled (b :: before) = dialled before := List.filter_cons_of_neg shown
      have different : d ≠ b := by
        rintro rfl
        exact shown (dials d (List.mem_of_getElem? found))
      rw [if_neg different]
      exact ih i (j + 1) left (split ▸ same)

/-- In an input as it was entered the scan stops after as many units only if they
are those accrued, or if there are no more. -/
theorem scanOutput_entered_iff (inside : position ≤ accrued.length) (i j : Nat) {rest : NSString} (less : i ≤ position)
    (enough : position - i ≤ rest.length) :
    scanOutput accrued position i j rest = .ok (j + (position - i)) ↔
      position - i = rest.length ∨ rest.take (position - i) = (accrued.take position).drop i := by
  induction rest generalizing i j with
  | nil =>
    have all : position - i = 0 := Nat.le_zero.mp enough
    rw [all]
    exact iff_of_true rfl (Or.inl rfl)
  | cons c rest ih =>
    unfold scanOutput
    by_cases left : i < position
    · obtain ⟨d, atIndex, found⟩ := characterAtIndex_of_lt (show i < accrued.length by omega)
      have one : position - i = position - (i + 1) + 1 := by omega
      have dropped : (accrued.take position).drop i = d :: (accrued.take position).drop (i + 1) := by
        have bound : i < (accrued.take position).length := by
          rw [List.length_take]
          omega
        rw [List.drop_eq_getElem_cons bound, List.getElem_take]
        rw [List.getElem?_eq_getElem (by omega)] at found
        rw [Option.some.inj found]
      rw [List.length_cons] at enough ⊢
      rw [if_pos left, atIndex, dropped]
      simp only [bind, Except.bind]
      by_cases equal : d = c
      · have step := ih (i + 1) (j + 1) left (by omega)
        rw [if_pos equal, one, List.take_succ_cons, equal, List.cons.injEq, Nat.add_right_cancel_iff]
        rw [← Nat.add_assoc, Nat.add_right_comm]
        simpa using step
      · obtain ⟨last, scanned, low, high⟩ := scanOutput_bounds inside i (j + 1) rest
        rw [if_neg equal, scanned, one, List.take_succ_cons, Except.ok.injEq]
        constructor
        · intro here
          left
          omega
        · rintro (all | same)
          · omega
          · exact absurd (List.cons.inj same).1.symm equal
    · have all : position - i = 0 := by omega
      rw [if_neg left, all]
      refine iff_of_true rfl (Or.inr ?_)
      rw [List.drop_of_length_le (by rw [List.length_take]; omega)]
      rfl

end Position

section Standing

/-- The place after the character of an output that stands for the k-th one entered.
In a formatted output the characters stand in ASCII, in order, and nothing else is
dialled. An output may also end with the input as it was entered. -/
inductive StandsFor (entered : NSString) (k : Nat) : NSString → Nat → Prop
  | formatted {before after : NSString} {c : unichar} : dialled (before ++ c :: after) = entered.map inAscii →
      isDialled c = true → (dialled before).length + 1 = k → StandsFor entered k (before ++ c :: after) (before.length + 1)
  | asEntered {start : NSString} : dialled start = [] → StandsFor entered k (start ++ entered) (start.length + k)

/-- The remembered position is in the output, after the character that stands for the k-th one entered. -/
def RemembersPosition (entered : NSString) (k : Nat) (self : NBAsYouTypeFormatter) : Prop :=
  ∃ position, self.getRememberedPosition = .ok position ∧ position ≤ self.currentOutput.length ∧
    StandsFor entered k self.currentOutput position

/-- While it formats the formatter shows the characters in ASCII, or those up to the
k-th were entered so, or no more were entered. When it does not, it shows the input
as it was entered, or its first characters are those entered. -/
def ShowsPosition (k : Nat) (self : NBAsYouTypeFormatter) : Prop :=
  if self.ableToFormat then
    dialled self.currentOutput = self.accruedInputWithoutFormatting ∨ k = self.accruedInput.length ∨
      self.accruedInput.take k = self.accruedInputWithoutFormatting.take k
  else
    self.currentOutput = self.accruedInput ∨
      self.currentOutput.take k = self.accruedInputWithoutFormatting.take k

instance (k : Nat) (self : NBAsYouTypeFormatter) : Decidable (ShowsPosition k self) := by
  unfold ShowsPosition
  infer_instance

/-- The buffers hold the characters entered, the positions are that of the k-th, and
the output shows the characters in one of the two ways. -/
structure ShowsEntered (entered : NSString) (k : Nat) (self : NBAsYouTypeFormatter) : Prop where
  input : self.accruedInput = entered
  accrued : self.accruedInputWithoutFormatting = entered.map inAscii
  original : self.originalPosition = k
  remembered : self.positionToRemember = k
  dials : ∀ c ∈ entered.map inAscii, isDialled c = true
  shown : dialled self.currentOutput = entered.map inAscii ∨
    ∃ start, self.currentOutput = start ++ entered ∧ dialled start = []

variable {entered output : NSString} {k : Nat} {self : NBAsYouTypeFormatter}

/-- The characters of a formatted output up to the k-th that is dialled. -/
theorem exists_standing (dial : dialled output = entered.map inAscii) (positive : 0 < k) (inside : k ≤ entered.length) :
    ∃ before c after, output = before ++ c :: after ∧ isDialled c = true ∧
      dialled before = (entered.map inAscii).take (k - 1) ∧ (entered.map inAscii)[k - 1]? = some c := by
  have bound : k - 1 < (entered.map inAscii).length := by
    rw [List.length_map]
    omega
  have split : (entered.map inAscii).take (k - 1) ++ (entered.map inAscii)[k - 1] :: (entered.map inAscii).drop (k - 1 + 1) =
      entered.map inAscii := by
    rw [← List.drop_eq_getElem_cons bound, List.take_append_drop]
  unfold dialled at dial
  rw [← split, List.filter_eq_append_iff] at dial
  obtain ⟨first, second, rfl, before, rest⟩ := dial
  obtain ⟨gap, after, rfl, none, shown, _⟩ := List.filter_eq_cons_iff.mp rest
  refine ⟨first ++ gap, _, after, (List.append_assoc ..).symm, shown, ?_, List.getElem?_eq_getElem bound⟩
  have skipped : dialled gap = [] := List.filter_eq_nil_iff.mpr none
  rw [dialled_append, skipped, List.append_nil]
  exact before

/-- Where the output is not formatted the place is known. -/
theorem standsFor_entered_iff {start : NSString} {position : Nat} (other : dialled (start ++ entered) ≠ entered.map inAscii)
    (none : dialled start = []) : StandsFor entered k (start ++ entered) position ↔ position = start.length + k := by
  constructor
  · generalize shape : start ++ entered = output at other
    intro stands
    cases stands with
    | formatted dial => exact absurd dial other
    | asEntered =>
      have same := congrArg List.length shape
      rw [List.length_append, List.length_append] at same
      omega
  · rintro rfl
    exact .asEntered none

/-- The position is found, and within the output. -/
theorem ShowsEntered.position_within (shows : ShowsEntered entered k self) (inside : k ≤ entered.length) :
    ∃ position, self.getRememberedPosition = .ok position ∧ position ≤ self.currentOutput.length := by
  obtain ⟨_, accrued, original, remembered, _, shown⟩ := shows
  have long : k ≤ self.currentOutput.length := by
    rcases shown with dial | ⟨start, output, _⟩
    · have lengths : (dialled self.currentOutput).length ≤ self.currentOutput.length := List.length_filter_le _ _
      rw [dial, List.length_map] at lengths
      exact inside.trans lengths
    · rw [output, List.length_append]
      omega
  unfold getRememberedPosition
  cases able : self.ableToFormat with
  | true =>
    have within : self.positionToRemember ≤ self.accruedInputWithoutFormatting.length := by
      rw [remembered, accrued, List.length_map]
      exact inside
    obtain ⟨position, scanned, _, high⟩ := scanOutput_bounds within 0 0 self.currentOutput
    rw [Nat.zero_add] at high
    exact ⟨position, scanned, high⟩
  | false => exact ⟨k, congrArg Except.ok original, long⟩

theorem remembersPosition_iff (shows : ShowsEntered entered k self) (positive : 0 < k) (inside : k ≤ entered.length) :
    RemembersPosition entered k self ↔ ShowsPosition k self := by
  obtain ⟨input, accrued, original, remembered, dials, shown⟩ := shows
  have long : k ≤ (entered.map inAscii).length := by
    rw [List.length_map]
    exact inside
  unfold RemembersPosition ShowsPosition getRememberedPosition
  rw [input, accrued, original, remembered]
  cases able : self.ableToFormat with
  | true =>
    rw [if_neg (by simp), if_pos rfl]
    by_cases dial : dialled self.currentOutput = entered.map inAscii
    · refine iff_of_true ?_ (Or.inl dial)
      obtain ⟨before, c, after, output, isDialled, front, last⟩ := exists_standing dial positive inside
      rw [output] at dial ⊢
      refine ⟨before.length + 1, ?_, by simp, .formatted dial isDialled ?_⟩
      · have scanned : scanOutput (entered.map inAscii) k 0 0 (before ++ c :: after) = .ok (0 + before.length + 1) :=
          scanOutput_formatted dials long last 0 0 positive front
        rw [Nat.zero_add] at scanned
        exact scanned
      · rw [front, List.length_take]
        omega
    · obtain ⟨start, output, none⟩ := shown.resolve_left dial
      have absent : ∀ c ∈ start, (entered.map inAscii)[0]? ≠ some c := by
        intro c member found
        have undialled := List.filter_eq_nil_iff.mp none c member
        exact undialled (dials c (List.mem_of_getElem? found))
      have scanned : scanOutput (entered.map inAscii) k 0 start.length entered = .ok (start.length + (k - 0)) ↔
          k - 0 = entered.length ∨ entered.take (k - 0) = ((entered.map inAscii).take k).drop 0 :=
        scanOutput_entered_iff long 0 start.length (Nat.zero_le k) inside
      rw [output] at dial ⊢
      rw [scanOutput_skips long entered 0 0 positive absent, Nat.zero_add]
      rw [Nat.sub_zero, List.drop_zero] at scanned
      constructor
      · rintro ⟨position, found, _, stands⟩
        obtain rfl := (standsFor_entered_iff dial none).mp stands
        exact Or.inr (scanned.mp found)
      · rintro (same | reads)
        · exact absurd same dial
        · exact ⟨start.length + k, scanned.mpr reads, by rw [List.length_append]; omega, .asEntered none⟩
  | false =>
    rw [if_pos (by simp), if_neg Bool.false_ne_true]
    constructor
    · rintro ⟨position, same, _, stands⟩
      have place : k = position := Except.ok.inj same
      generalize self.currentOutput = output at stands
      cases stands with
      | @formatted before after c dial isDialled count =>
        -- nothing but what is dialled comes before
        have all : dialled before = before :=
          List.filter_eq_self.mpr (List.length_filter_eq_length_iff.mp (by unfold dialled at count; omega))
        have split : dialled (c :: after) = c :: dialled after := List.filter_cons_of_pos isDialled
        rw [dialled_append, all, split] at dial
        rw [← dial, place]
        exact Or.inr (by simp [List.take_append])
      | @asEntered start none =>
        have empty : start = [] := List.length_eq_zero_iff.mp (by omega)
        rw [empty]
        exact Or.inl rfl
    · intro reads
      have whole (same : self.currentOutput = entered) : StandsFor entered k self.currentOutput k := by
        have stands : StandsFor entered k ([] ++ entered) (([] : NSString).length + k) := .asEntered rfl
        rw [List.nil_append, List.length_nil, Nat.zero_add] at stands
        rw [same]
        exact stands
      have stands : StandsFor entered k self.currentOutput k ∧ k ≤ self.currentOutput.length := by
        rcases reads with same | same
        · exact ⟨whole same, by rw [same]; exact inside⟩
        have enough : k ≤ self.currentOutput.length := by
          have lengths := congrArg List.length same
          rw [List.length_take, List.length_take] at lengths
          omega
        refine ⟨?_, enough⟩
        rcases shown with dial | ⟨start, output, none⟩
        · have bound : k - 1 < (entered.map inAscii).length := by omega
          have front : (entered.map inAscii).take k = (entered.map inAscii).take (k - 1) ++ [(entered.map inAscii)[k - 1]] := by
            rw [← List.take_succ_eq_append_getElem bound, Nat.sub_add_cancel positive]
          have split : self.currentOutput = (entered.map inAscii).take (k - 1) ++
              (entered.map inAscii)[k - 1] :: self.currentOutput.drop k := by
            calc self.currentOutput = self.currentOutput.take k ++ self.currentOutput.drop k := (List.take_append_drop ..).symm
              _ = _ := by rw [same, front, List.append_assoc, List.singleton_append]
          have all : dialled ((entered.map inAscii).take (k - 1)) = (entered.map inAscii).take (k - 1) :=
            List.filter_eq_self.mpr fun c member => dials c (List.mem_of_mem_take member)
          have length : ((entered.map inAscii).take (k - 1)).length + 1 = k := by
            rw [List.length_take]
            omega
          have stands : StandsFor entered k self.currentOutput (((entered.map inAscii).take (k - 1)).length + 1) := by
            rw [split] at dial ⊢
            exact .formatted dial (dials _ (List.getElem_mem bound)) (by rw [all]; exact length)
          rw [length] at stands
          exact stands
        · cases start with
          | nil => exact whole output
          | cons c start =>
            have undialled : ¬ isDialled c = true := List.filter_eq_nil_iff.mp none c List.mem_cons_self
            have first : c ∈ (entered.map inAscii).take k := by
              rw [← same, output, ← Nat.sub_add_cancel positive]
              exact List.mem_cons_self
            exact absurd (dials c (List.mem_of_mem_take first)) undialled
      exact ⟨k, rfl, stands.2, stands.1⟩

end Standing

section Run

variable {u : NBPhoneNumberUtil} {regionCode : Option NSString} {plain state : NBAsYouTypeFormatter} {frame : Frame}

/-- Digits in any of the four scripts with at most one plus sign, before them. -/
def IsEntered (entered : NSString) : Prop :=
  ∃ sign digits, entered = sign ++ digits ∧ (sign = [] ∨ sign = ns "+") ∧ digits.all isValidDigit

theorem IsEntered.isDialling {entered : NSString} (isEntered : IsEntered entered) : IsDialling (entered.map inAscii) := by
  obtain ⟨sign, digits, rfl, plus, valid⟩ := isEntered
  rw [List.all_eq_true] at valid
  refine ⟨sign, digits.map inAscii, ?_, plus, ?_⟩
  · rw [List.map_append]
    rcases plus with rfl | rfl <;> rfl
  · rw [List.all_map, List.all_eq_true]
    exact fun c member => isAsciiDigit_inAscii (valid c member)

/-- The last character entered is a digit, or a plus sign before all others. -/
theorem IsEntered.unsnoc {entered : NSString} {c : unichar} (isEntered : IsEntered (entered ++ [c])) :
    IsEntered entered ∧ (isValidDigit c = true ∨ entered = [] ∧ c = 43) := by
  obtain ⟨sign, digits, whole, plus, valid⟩ := isEntered
  rw [List.all_eq_true] at valid
  rcases List.eq_nil_or_concat digits with rfl | ⟨front, d, rfl⟩
  · rw [List.append_nil] at whole
    rcases plus with rfl | rfl
    · exact absurd whole (by simp)
    · cases entered with
      | nil => exact ⟨⟨[], [], rfl, Or.inl rfl, rfl⟩, Or.inr ⟨rfl, (List.cons.inj whole).1⟩⟩
      | cons first entered =>
        have lengths := congrArg List.length whole
        simp [ns] at lengths
  · rw [List.concat_eq_append, ← List.append_assoc] at whole
    obtain ⟨init, same⟩ := List.append_inj' whole rfl
    obtain rfl := (List.cons.inj same).1
    refine ⟨⟨sign, front, init, plus, ?_⟩, Or.inl (valid c (by simp))⟩
    exact List.all_eq_true.mpr fun c member => valid c (by simp [member])

/-- The frame after one more character. -/
def Frame.enter (frame : Frame) (c : unichar) (remember : Bool) (accrued : Nat) : Frame :=
  { frame with
    accruedInput := frame.accruedInput ++ [c]
    originalPosition := if remember then frame.accruedInput.length + 1 else frame.originalPosition
    positionToRemember := if remember then accrued + 1 else frame.positionToRemember }

theorem accrue_entered_digit (expressions : u.TypingExpressions) (reads : u.ReadsDigits) (plain : NBAsYouTypeFormatter)
    (frame : Frame) {c : unichar} (valid : isValidDigit c) (remember : Bool) :
    accrue u (framed frame plain) [c] remember = ([inAscii c],
      framed (frame.enter c remember plain.accruedInputWithoutFormatting.length)
        (accrue u plain [inAscii c] false).2) := by
  have mapped := DIGIT_MAPPINGS_of_valid valid
  have notPlus : [c] ≠ ns "+" := by
    intro same
    obtain rfl : c = 43 := (List.cons.inj same).1
    exact absurd valid (by decide)
  have some := reads c valid
  have found (state : NBAsYouTypeFormatter) : isDigitOrLeadingPlusSign u state [c] = true := by
    unfold isDigitOrLeadingPlusSign
    simp [some]
  rw [accrue_digit expressions plain (isAsciiDigit_inAscii valid)]
  unfold accrue
  dsimp only
  rw [if_pos (found _)]
  unfold normalizeAndAccrueDigitsAndPlusSign
  rw [if_neg notPlus]
  dsimp only
  rw [mapped]
  cases remember with
  | false => rfl
  | true => simp [framed, Frame.enter]

theorem accrue_entered_plus (expressions : u.TypingExpressions) (first : plain.accruedInput = [])
    (begins : frame.accruedInput = []) (remember : Bool) :
    accrue u (framed frame plain) (ns "+") remember = (ns "+",
      framed (frame.enter 43 remember plain.accruedInputWithoutFormatting.length) (accrue u plain (ns "+") false).2) := by
  have some := expressions.plus
  have found (state : NBAsYouTypeFormatter) (one : state.accruedInput = ns "+") :
      isDigitOrLeadingPlusSign u state (ns "+") = true := by
    unfold isDigitOrLeadingPlusSign
    rw [one]
    simp only [Bool.or_eq_true, Bool.and_eq_true]
    exact Or.inr ⟨rfl, by simpa using some⟩
  rw [accrue_plus expressions first]
  unfold accrue
  cases remember with
  | false =>
    dsimp only
    rw [if_neg Bool.false_ne_true, if_pos (found _ (by simp [framed, begins]))]
    simp [normalizeAndAccrueDigitsAndPlusSign, framed, Frame.enter, begins, ns]
  | true =>
    dsimp only
    rw [if_pos rfl, if_pos (found _ (by simp [framed, begins]))]
    simp [normalizeAndAccrueDigitsAndPlusSign, framed, Frame.enter, begins, ns]

/-- A character of the input is accrued as its ASCII digit is, but for the input and the positions. -/
theorem accrue_entered (expressions : u.TypingExpressions) (reads : u.ReadsDigits) {entered : NSString} {c : unichar}
    (isEntered : IsEntered (entered ++ [c])) (typing : Typing u regionCode (entered.map inAscii) plain)
    (begins : frame.accruedInput = entered) (remember : Bool) :
    (accrue u plain [inAscii c] false).1 = [inAscii c] ∧
      accrue u (framed frame plain) [c] remember = ([inAscii c],
        framed (frame.enter c remember entered.length) (accrue u plain [inAscii c] false).2) := by
  have lengths : plain.accruedInputWithoutFormatting.length = entered.length := by
    rw [typing.accrued, List.length_map]
  rcases isEntered.unsnoc.2 with valid | ⟨rfl, rfl⟩
  · rw [← lengths, accrue_entered_digit expressions reads plain frame valid remember,
      accrue_digit expressions plain (isAsciiDigit_inAscii valid)]
    exact ⟨rfl, rfl⟩
  · have first : plain.accruedInput = [] := typing.input
    have accrued : accrue u (framed frame plain) (ns "+") remember = (ns "+", framed
        (frame.enter 43 remember plain.accruedInputWithoutFormatting.length) (accrue u plain (ns "+") false).2) :=
      accrue_entered_plus expressions first begins remember
    have character : accrue u plain [inAscii 43] false = (ns "+", _) := accrue_plus expressions first
    rw [lengths] at accrued
    exact ⟨by rw [character]; rfl, accrued⟩

/-- Two formatters into which the same characters are typed, in ASCII into the first. -/
structure Mirrors (entered : NSString) (place : Nat) (plain state : NBAsYouTypeFormatter) : Prop where
  same : state = framed ⟨state.currentOutput, entered, place, place⟩ plain
  shown : ShownAlike plain.accruedInput entered plain.currentOutput state.currentOutput

/-- The slips are made in any frame or in none. -/
theorem unslipped_of_framed {self : NBAsYouTypeFormatter} (unslipped : Unslipped u (framed frame self)) :
    Unslipped u self := by
  obtain ⟨last, within, template⟩ := unslipped
  have idd : Framed self.accruedInput frame (attemptToExtractIdd u self) (attemptToExtractIdd u (framed frame self)) :=
    attemptToExtractIdd_framed rfl
  obtain ⟨_, same⟩ := idd
  rw [same] at last within
  refine ⟨last, ?_, ?_⟩
  · intro absent
    have returns := within absent
    rw [putBackNationalPrefix_framed] at returns
    exact returns
  · intro after extracts
    have again : Related (Framed self.accruedInput frame) (extractPrefixAgain u self)
        (extractPrefixAgain u (framed frame self)) := extractPrefixAgain_framed rfl
    rw [extracts] at again
    obtain ⟨_, extractsFramed, _, rfl⟩ := again.returns_of_ok
    exact template (framed frame after) extractsFramed

theorem inputUnit_mirrors (expressions : u.TypingExpressions) (reads : u.ReadsDigits) (inOrder : u.FormatsUseGroupsInOrder)
    {entered : NSString} {place : Nat} {c : unichar} {remember : Bool} (isEntered : IsEntered (entered ++ [c]))
    (typing : Typing u regionCode (entered.map inAscii) plain) (mirrors : Mirrors entered place plain state)
    (unslipped : state.ableToFormat = false → Unslipped u (accrue u state [c] remember).2) :
    ∃ plainAfter after, inputUnit u state remember c = .ok after ∧
      Typing u regionCode ((entered ++ [c]).map inAscii) plainAfter ∧
      Mirrors (entered ++ [c]) (if remember then entered.length + 1 else place) plainAfter after := by
  obtain ⟨same, _⟩ := mirrors
  generalize state.currentOutput = shown at same
  subst same
  obtain ⟨character, accrued⟩ := accrue_entered expressions reads isEntered typing
    (show Frame.accruedInput ⟨shown, entered, place, place⟩ = entered from rfl) remember
  rw [accrued] at unslipped
  have dialling : IsDialling (entered.map inAscii ++ [inAscii c]) := by
    have whole := isEntered.isDialling
    rw [List.map_append] at whole
    exact whole
  obtain ⟨plainAfter, inputs, typing'⟩ := inputDigit_typing expressions inOrder typing dialling fun unable =>
    unslipped_of_framed (unslipped unable)
  -- both have accrued the character, so they go on alike
  have plainEq : (if false then inputDigitAndRememberPosition u plain [inAscii c] else inputDigit u plain [inAscii c]) = _ :=
    input_eq plain (List.cons_ne_nil _ []) false
  have enteredEq : inputUnit u _ remember c = _ := input_eq (framed ⟨shown, entered, place, place⟩ plain) (List.cons_ne_nil c [])
    remember
  rw [if_neg Bool.false_ne_true, inputs] at plainEq
  obtain ⟨⟨output, last⟩, answered, finished⟩ := bind_eq_ok_iff.mp plainEq.symm
  obtain rfl := Except.ok.inj finished
  have redrawn := inputDigitWithOption_redrawn (List.cons_ne_nil (inAscii c) []) (List.cons_ne_nil c [])
    (Prod.ext character rfl) accrued rfl
  rw [answered] at redrawn
  obtain ⟨⟨shownAfter, _⟩, answeredEntered, kept, rfl, alike⟩ := redrawn.returns_of_ok
  rw [answeredEntered] at enteredEq
  refine ⟨{ last with currentOutput := output }, _, enteredEq, ?_, ?_, ?_⟩
  · rw [List.map_append]
    exact typing'
  · cases remember <;> rfl
  · rw [← kept] at alike
    exact alike

/-- How many keys there are up to the last one whose position is to be remembered. -/
def rememberedPlace (keys : List (Bool × unichar)) : Nat := (keys.rdropWhile fun key => !key.1).length

theorem rememberedPlace_append (keys : List (Bool × unichar)) (remember : Bool) (c : unichar) :
    rememberedPlace (keys ++ [(remember, c)]) = if remember then keys.length + 1 else rememberedPlace keys := by
  unfold rememberedPlace
  rw [List.rdropWhile_concat]
  cases remember with
  | false => rfl
  | true => exact List.length_append

/-- Characters typed one by one, the position of one of them to be remembered. -/
def remembering (before : NSString) (c : unichar) (after : NSString) : List (Bool × unichar) :=
  before.map (fun b => (false, b)) ++ (true, c) :: after.map fun a => (false, a)

theorem remembering_chars (before : NSString) (c : unichar) (after : NSString) :
    (remembering before c after).map Prod.snd = before ++ c :: after := by
  simp [remembering]

theorem rememberedPlace_remembering (before : NSString) (c : unichar) (after : NSString) :
    rememberedPlace (remembering before c after) = before.length + 1 := by
  induction after using List.reverseRecOn with
  | nil =>
    have last := rememberedPlace_append (before.map fun b => (false, b)) true c
    rw [if_pos rfl, List.length_map] at last
    exact last
  | append_singleton after a ih =>
    have split : remembering before c (after ++ [a]) = remembering before c after ++ [(false, a)] := by
      simp [remembering]
    rw [split, rememberedPlace_append]
    exact ih

/-- No key is typed into a formatter that gave up in a state where one of the slips would follow. -/
def KeysUnslipped (u : NBPhoneNumberUtil) (regionCode : Option NSString) (keys : List (Bool × unichar)) : Prop :=
  ∀ before key, before ++ [key] <+: keys → ∀ state, typeKeys u (initWithRegionCode u regionCode) before = .ok state →
    state.ableToFormat = false → Unslipped u (accrue u state [key.2] key.1).2

theorem typeKeys_mirrors (expressions : u.TypingExpressions) (reads : u.ReadsDigits) (inOrder : u.FormatsUseGroupsInOrder)
    {keys : List (Bool × unichar)} (isEntered : IsEntered (keys.map Prod.snd)) (unslipped : KeysUnslipped u regionCode keys) :
    ∃ plain state, typeKeys u (initWithRegionCode u regionCode) keys = .ok state ∧
      Typing u regionCode ((keys.map Prod.snd).map inAscii) plain ∧
      Mirrors (keys.map Prod.snd) (rememberedPlace keys) plain state := by
  induction keys using List.reverseRecOn with
  | nil =>
    have fresh : Typing u regionCode [] (initWithRegionCode u regionCode) := Or.inl ⟨by decide, false, rfl⟩
    exact ⟨initWithRegionCode u regionCode, _, rfl, fresh, rfl, Or.inl rfl⟩
  | append_singleton before key ih =>
    obtain ⟨remember, c⟩ := key
    rw [List.map_append] at isEntered ⊢
    obtain ⟨plain, state, reached, typing, mirrors⟩ := ih isEntered.unsnoc.1 fun before' key earlier =>
      unslipped before' key (earlier.trans (List.prefix_append _ _))
    obtain ⟨plainAfter, after, inputs, typing', mirrors'⟩ := inputUnit_mirrors expressions reads inOrder isEntered typing
      mirrors (unslipped before (remember, c) List.prefix_rfl state reached)
    refine ⟨plainAfter, after, ?_, typing', ?_⟩
    · rw [typeKeys_append, reached]
      exact inputs
    · rw [rememberedPlace_append]
      rw [List.length_map] at mirrors'
      exact mirrors'

/-- What mirrors a formatter that shows all that was typed shows all that was entered. -/
theorem Mirrors.showsEntered {entered : NSString} {place : Nat} (mirrors : Mirrors entered place plain state)
    (isEntered : IsEntered entered) (typing : Typing u regionCode (entered.map inAscii) plain) :
    ShowsEntered entered place state := by
  obtain ⟨same, shown⟩ := mirrors
  have dial := typing.dial isEntered.isDialling
  rw [typing.input] at shown
  generalize state.currentOutput = output at same shown
  subst same
  refine ⟨rfl, typing.accrued, rfl, rfl, List.filter_eq_self.mp isEntered.isDialling.dialled_typed, ?_⟩
  rcases shown with rfl | ⟨start, shown, rfl⟩
  · exact Or.inl dial
  · rw [shown, dialled_append, isEntered.isDialling.dialled_typed] at dial
    exact Or.inr ⟨start, rfl, List.append_left_eq_self.mp dial⟩

/-- In a run without a slip the position is always found and within the output. It
is the one after the character remembered exactly when the output shows it so that
the scan, or without formatting the position in the input, leads to it. -/
theorem rememberedPosition_iff (expressions : u.TypingExpressions) (reads : u.ReadsDigits)
    (inOrder : u.FormatsUseGroupsInOrder) {before after : NSString} {c : unichar} (isEntered : IsEntered (before ++ c :: after))
    (unslipped : KeysUnslipped u regionCode (remembering before c after)) :
    ∃ state, typeKeys u (initWithRegionCode u regionCode) (remembering before c after) = .ok state ∧
      (∃ position, state.getRememberedPosition = .ok position ∧ position ≤ state.currentOutput.length) ∧
      (RemembersPosition (before ++ c :: after) (before.length + 1) state ↔ ShowsPosition (before.length + 1) state) := by
  have chars := remembering_chars before c after
  obtain ⟨plain, state, reached, typing, mirrors⟩ := typeKeys_mirrors expressions reads inOrder
    (show IsEntered ((remembering before c after).map Prod.snd) by rw [chars]; exact isEntered) unslipped
  rw [chars] at typing mirrors
  rw [rememberedPlace_remembering] at mirrors
  have shows := mirrors.showsEntered isEntered typing
  have inside : before.length + 1 ≤ (before ++ c :: after).length := by
    rw [List.length_append, List.length_cons]
    omega
  exact ⟨state, reached, shows.position_within inside, remembersPosition_iff shows (Nat.succ_pos _) inside⟩

end Run

section Scripts

/-- The expressions of the formatter as they are on typed digits of any of the four scripts. -/
def scriptMatches (pattern s : NSString) (range : NSRange) : List NSTextCheckingResult :=
  if pattern = CAPTURING_DIGIT_PATTERN then unitMatches isValidDigit 1 s range else typingMatches pattern s range

def scriptRegions : NBPhoneNumberUtil :=
  { typingRegions with
    regex :=
      { matchesInString := scriptMatches
        firstAnchoredMatch := fun _ _ => none
        matches_inside := by
          intro pattern s range inside
          unfold scriptMatches
          split
          · exact unitMatches_inside inside
          · exact typingMatches_inside pattern s range inside
        anchored_inside := none_inside } }

theorem scriptRegions_digit (s : NSString) (range : NSRange) :
    scriptRegions.regex.matchesInString CAPTURING_DIGIT_PATTERN s range = unitMatches isValidDigit 1 s range := by
  have matched : scriptRegions.regex.matchesInString CAPTURING_DIGIT_PATTERN s range =
      scriptMatches CAPTURING_DIGIT_PATTERN s range := rfl
  rw [matched, scriptMatches, if_pos rfl]

theorem scriptRegions_other {pattern : NSString} (other : pattern ≠ CAPTURING_DIGIT_PATTERN) (s : NSString)
    (range : NSRange) :
    scriptRegions.regex.matchesInString pattern s range = typingRegions.regex.matchesInString pattern s range :=
  if_neg other

theorem scriptRegions_readsDigits : scriptRegions.ReadsDigits := by
  intro c valid
  rw [NSRegularExpressions.allMatches, scriptRegions_digit]
  simp [unitMatches, valid]

theorem scriptRegions_typingExpressions : scriptRegions.TypingExpressions where
  ordered pattern s range _ := by
    have matched : scriptRegions.regex.matchesInString pattern s range = scriptMatches pattern s range := rfl
    rw [matched]
    unfold scriptMatches
    split
    · exact unitMatches_ordered isValidDigit 1 s range
    · exact typingMatches_ordered pattern s range
  digit c isDigit := scriptRegions_readsDigits c (isValidDigit_of_isAsciiDigit isDigit)
  plus := by decide +kernel
  placeholder s range inside := by
    rw [scriptRegions_other (by decide +kernel)]
    exact typingRegions_typingExpressions.placeholder s range inside
  nine s range inside := by
    rw [scriptRegions_other (by decide +kernel)]
    exact typingRegions_typingExpressions.nine s range inside
  eligible format numbered oneLine found := by
    rw [NSRegularExpressions.allMatches, scriptRegions_other (by decide +kernel)] at found
    exact typingRegions_typingExpressions.eligible format numbered oneLine found
  international metadata served s := by
    have other : internationalPattern (metadata.internationalPrefix.getD (ns "(null)")) ≠ CAPTURING_DIGIT_PATTERN := by
      intro same
      have start : CAPTURING_DIGIT_PATTERN.head? = some 94 := by
        rw [← same]
        rfl
      exact absurd start (by decide +kernel)
    obtain ⟨result, results, found, range⟩ := typingRegions_typingExpressions.international metadata served s
    refine ⟨result, results, ?_, range⟩
    rw [NSRegularExpressions.allMatches] at found ⊢
    exact (scriptRegions_other other _ _).trans found
  search _ _ := rfl

theorem scriptRegions_inOrder : scriptRegions.FormatsUseGroupsInOrder := by
  intro metadata served format listed _
  have only : format = { pattern := some sevenDigitPattern, format := some (ns "$1-$2") } := by
    rcases typingRegions_serves served with rfl | rfl | rfl
    · cases listed
    · exact List.mem_singleton.mp listed
    · cases listed
  have tiles : scriptRegions.regex.TilesMatches sevenDigitPattern 2 := by
    intro s range inside result found
    rw [scriptRegions_other (by decide +kernel)] at found
    exact typingRegions_tiles s range inside result found
  have same : templatePattern scriptRegions sevenDigitPattern = sevenDigitPattern := by decide +kernel
  refine ⟨sevenDigitPattern, ns "$1-$2", 2, by rw [only], by decide, by rw [only], by decide, by decide, tiles, ?_⟩
  rw [same]
  exact tiles

/-- Seven digits in two scripts never reach a slip. -/
theorem sevenDigits_keysUnslipped :
    KeysUnslipped scriptRegions (some (ns "US")) (remembering [0xff12, 53, 0x663] 48 (ns "000")) := by
  have able : ∀ count < 7, ∀ state ∈ (typeKeys scriptRegions (initWithRegionCode scriptRegions (some (ns "US")))
      ((remembering [0xff12, 53, 0x663] 48 (ns "000")).take count)).toOption, state.ableToFormat = true := by decide +kernel
  intro before key earlier state reached unable
  have short : before.length < 7 := by
    have lengths := earlier.length_le
    rw [List.length_append, List.length_singleton] at lengths
    exact lengths
  have taken : before = (remembering [0xff12, 53, 0x663] 48 (ns "000")).take before.length :=
    List.prefix_iff_eq_take.mp ((List.prefix_append before [key]).trans earlier)
  have still : state.ableToFormat = true := by
    refine able before.length short state ?_
    rw [← taken, reached]
    rfl
  rw [still] at unable
  cases unable

theorem rememberedPosition_sevenDigits :
    ∃ state, typeKeys scriptRegions (initWithRegionCode scriptRegions (some (ns "US")))
        (remembering [0xff12, 53, 0x663] 48 (ns "000")) = .ok state ∧
      (∃ position, state.getRememberedPosition = .ok position ∧ position ≤ state.currentOutput.length) ∧
      (RemembersPosition ([0xff12, 53, 0x663] ++ 48 :: ns "000") 4 state ↔ ShowsPosition 4 state) :=
  rememberedPosition_iff scriptRegions_typingExpressions scriptRegions_readsDigits scriptRegions_inOrder
    ⟨[], [0xff12, 53, 0x663] ++ 48 :: ns "000", rfl, Or.inl rfl, by decide⟩ sevenDigits_keysUnslipped

/-- Two fullwidth digits, the first to be remembered, are shown as they are; the
scan looks for the ASCII digit and runs past both. -/
theorem remembered_digit_passed :
    scriptRegions.TypingExpressions ∧ scriptRegions.ReadsDigits ∧ scriptRegions.FormatsUseGroupsInOrder ∧
      IsEntered [0xff11, 0xff12] ∧
      ∃ state, typeKeys scriptRegions (initWithRegionCode scriptRegions (some (ns "US")))
          (remembering [] 0xff11 [0xff12]) = .ok state ∧
        state.getRememberedPosition = .ok 2 ∧ ¬ RemembersPosition [0xff11, 0xff12] 1 state := by
  have passed : (typeKeys scriptRegions (initWithRegionCode scriptRegions (some (ns "US")))
      (remembering [] 0xff11 [0xff12])).toOption.any fun state =>
        state.currentOutput = [0xff11, 0xff12] ∧ state.getRememberedPosition.toOption = some 2 := by decide +kernel
  obtain ⟨state, reached, found⟩ := exists_ok_of_any passed
  obtain ⟨output, position⟩ := of_decide_eq_true found
  have scanned : state.getRememberedPosition = .ok 2 := by
    cases result : state.getRememberedPosition with
    | error error =>
      rw [result] at position
      cases position
    | ok last =>
      rw [result] at position
      rw [Option.some.inj position]
  refine ⟨scriptRegions_typingExpressions, scriptRegions_readsDigits, scriptRegions_inOrder,
    ⟨[], [0xff11, 0xff12], rfl, Or.inl rfl, by decide⟩, state, reached, scanned, ?_⟩
  rintro ⟨last, same, _, stands⟩
  obtain rfl : 2 = last := Except.ok.inj (scanned.symm.trans same)
  rw [output] at stands
  have place : 2 = ([] : NSString).length + 1 :=
    (standsFor_entered_iff (show dialled ([] ++ [0xff11, 0xff12]) ≠ [0xff11, 0xff12].map inAscii by decide) rfl).mp stands
  exact absurd place (by decide)

end Scripts

end NBAsYouTypeFormatter

end SignalPods.PhoneNumber
