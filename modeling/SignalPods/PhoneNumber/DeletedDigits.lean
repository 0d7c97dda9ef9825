import SignalPods.Machine.Reach
import SignalPods.PhoneNumber.FormatterTwins
import SignalPods.PhoneNumber.TypingExpressions

namespace SignalPods.PhoneNumber

open Foundation Machine

namespace NBAsYouTypeFormatter

section Keys

variable (u : NBPhoneNumberUtil) (self : NBAsYouTypeFormatter)

/-- Some keys one by one, each with whether its position is to be remembered. -/
def typeKeys (keys : List (Bool × unichar)) : Objc NBAsYouTypeFormatter :=
  keys.foldlM (fun self key => inputUnit u self key.1 key.2) self

/-- The characters typed with one of the methods, and what is shown in the end. -/
def feed (rememberPosition : Bool) (chars : NSString) : Objc (NSString × NBAsYouTypeFormatter) := do
  let self ← typeKeys u self (chars.map fun c => (rememberPosition, c))
  return (self.currentOutput, self)

end Keys

variable {u : NBPhoneNumberUtil} {alike : Prop} {start : Origin} {self other : NBAsYouTypeFormatter}

/-- The origin with these characters accrued. -/
theorem Origin.accrue_accrue (first second : NSString) :
    (start.accrue first).accrue second = start.accrue (first ++ second) := by
  simp [Origin.accrue]

theorem Origin.accrue_nil : start.accrue [] = start := by
  simp [Origin.accrue]

/-- Twins stay twins while the same characters are typed into them, and any
character gives them one flag. -/
theorem typeKeys_same (twin : Twin alike start self other) (keys others : List (Bool × unichar))
    (chars : keys.map Prod.snd = others.map Prod.snd)
    (flag : keys = [] → self.isSuccessfulFormatting = other.isSuccessfulFormatting) :
    Related (SameFormatter (alike ∧ keys = others) (start.accrue (keys.map Prod.snd))) (typeKeys u self keys)
      (typeKeys u other others) := by
  induction keys generalizing self other others alike start with
  | nil =>
    obtain rfl : others = [] := List.map_eq_nil_iff.mp chars.symm
    refine .returns ⟨?_, flag rfl⟩
    rw [List.map_nil, Origin.accrue_nil]
    exact twin.imp And.left
  | cons key keys ih =>
    cases others with
    | nil => cases chars
    | cons otherKey others =>
      obtain ⟨remember, c⟩ := key
      obtain ⟨rememberOther, d⟩ := otherKey
      obtain ⟨rfl, rest⟩ : c = d ∧ keys.map Prod.snd = others.map Prod.snd := List.cons.inj chars
      have first := input_same (u := u) twin (List.cons_ne_nil c []) remember rememberOther
      refine first.bind fun one two same => ?_
      refine (ih same.twin others rest fun _ => same.flag).mono fun last lastOther same => ⟨?_, same.flag⟩
      have twin := same.twin
      rw [Origin.accrue_accrue] at twin
      refine twin.imp fun ⟨near, equal⟩ => ?_
      obtain ⟨rfl, rfl⟩ : remember = rememberOther ∧ keys = others := by simpa using equal
      exact ⟨⟨near, rfl⟩, rfl⟩

/-- A formatter is its own twin. -/
theorem Twin.refl (alike : Prop) (self : NBAsYouTypeFormatter) : Twin alike self.origin self self :=
  ⟨⟨⟨self.isSuccessfulFormatting, self.originalPosition, self.positionToRemember⟩, rfl⟩, rfl,
    fun _ => ⟨rfl, rfl⟩⟩

theorem typeKeys_origin {keys : List (Bool × unichar)} {after : NBAsYouTypeFormatter}
    (typed : typeKeys u self keys = .ok after) : after.origin = self.origin.accrue (keys.map Prod.snd) := by
  have same := typeKeys_same (u := u) (Twin.refl True self) keys keys rfl fun _ => rfl
  rw [typed] at same
  obtain ⟨_, _, same⟩ := same.returns_of_ok
  exact same.twin.kept

theorem typeKeys_append (before : List (Bool × unichar)) (key : Bool × unichar) :
    typeKeys u self (before ++ [key]) = typeKeys u self before >>= fun self => inputUnit u self key.1 key.2 := by
  unfold typeKeys
  rw [List.foldlM_append]
  congr 1
  funext self
  exact List.foldlM_cons.trans (bind_pure _)

/-- The loops over the units of a string feed it to the formatter. -/
theorem inputUnits_eq (rememberPosition : Bool) (self : NBAsYouTypeFormatter) (chars : NSString) :
    inputUnits u rememberPosition self self.currentOutput chars = feed u self rememberPosition chars := by
  induction chars generalizing self with
  | nil => rfl
  | cons c chars ih =>
    unfold inputUnits feed typeKeys
    rw [List.map_cons, List.foldlM_cons, bind_assoc]
    congr 1
    funext after
    exact ih after

section Clearing

variable {regionCode : Option NSString}

/-- What the formatter was made with. -/
structure Serves (u : NBPhoneNumberUtil) (regionCode : Option NSString) (origin : Origin) : Prop where
  country : origin.defaultCountry = regionCode
  metadata : origin.defaultMetaData = getMetadataForRegion u regionCode

/-- A cleared formatter is a fresh one with the flag it had. -/
theorem clear_eq (serves : Serves u regionCode self.origin) :
    clear u self =
      { initWithRegionCode u regionCode with isSuccessfulFormatting := self.isSuccessfulFormatting } := by
  obtain ⟨rfl, metadata⟩ := serves
  have current : (if self.currentMetaData ≠ self.defaultMetaData then getMetadataForRegion u self.defaultCountry
      else self.currentMetaData) = getMetadataForRegion u self.defaultCountry := by
    by_cases same : self.currentMetaData = self.defaultMetaData
    · rw [if_neg (not_not_intro same), same]
      exact metadata
    · exact if_pos same
  unfold clear
  rw [current]
  congr 1

theorem clear_eq_init_iff (serves : Serves u regionCode self.origin) :
    clear u self = initWithRegionCode u regionCode ↔ self.isSuccessfulFormatting = false := by
  rw [clear_eq serves]
  constructor
  · exact fun same => congrArg isSuccessfulFormatting same
  · intro flag
    rw [flag]
    rfl

theorem feed_cleared (serves : Serves u regionCode self.origin) (rememberPosition : Bool) {chars : NSString}
    (typed : chars ≠ []) :
    feed u (clear u self) rememberPosition chars = feed u (initWithRegionCode u regionCode) rememberPosition chars := by
  have twin : Twin True (initWithRegionCode u regionCode).origin (initWithRegionCode u regionCode) (clear u self) := by
    rw [clear_eq serves]
    exact ⟨⟨⟨self.isSuccessfulFormatting, 0, 0⟩, rfl⟩, rfl, fun _ => ⟨rfl, rfl⟩⟩
  have keys : (chars.map fun c => (rememberPosition, c)) ≠ [] := by simpa using typed
  have same := typeKeys_same (u := u) twin _ _ rfl fun none => absurd none keys
  unfold feed
  rw [same.eq fun _ _ same => same.eq ⟨trivial, rfl⟩]

theorem removeLastUnit_eq (self : NBAsYouTypeFormatter) (rememberPosition : Bool) (typed : self.accruedInput ≠ []) :
    removeLastUnit u self rememberPosition = feed u (clear u self) rememberPosition self.accruedInput.dropLast := by
  unfold removeLastUnit
  rw [if_neg (by simpa using typed), ← List.dropLast_eq_take]
  exact inputUnits_eq rememberPosition (clear u self) _

/-- A character adds one unit at most to what is accrued without formatting. -/
theorem normalizeAndAccrue_short (self : NBAsYouTypeFormatter) (c : unichar) (rememberPosition : Bool) :
    (self.normalizeAndAccrueDigitsAndPlusSign [c] rememberPosition).2.ableToFormat = self.ableToFormat ∧
      (self.normalizeAndAccrueDigitsAndPlusSign [c] rememberPosition).2.accruedInputWithoutFormatting.length ≤
        self.accruedInputWithoutFormatting.length + 1 := by
  unfold normalizeAndAccrueDigitsAndPlusSign
  by_cases plus : [c] = ns "+"
  · rw [if_pos plus]
    cases rememberPosition <;> simp
  · rw [if_neg plus]
    dsimp only
    cases DIGIT_MAPPINGS c with
    | none => simp
    | some normalizedChar => cases rememberPosition <;> simp

/-- After its first character a formatter formats one unit, or was given formatting. -/
theorem accrue_first (regionCode : Option NSString) (c : unichar) (rememberPosition : Bool) :
    let after := (accrue u (initWithRegionCode u regionCode) [c] rememberPosition).2
    (after.ableToFormat = true → after.accruedInputWithoutFormatting.length ≤ 1) ∧
      (after.ableToFormat = false → after.inputHasFormatting = true) := by
  have rest (state : NBAsYouTypeFormatter) (able : state.ableToFormat = true)
      (empty : state.accruedInputWithoutFormatting = []) :
      let after := (if isDigitOrLeadingPlusSign u state [c] then
        state.normalizeAndAccrueDigitsAndPlusSign [c] rememberPosition
        else ([c], { state with ableToFormat := false, inputHasFormatting := true })).2
      (after.ableToFormat = true → after.accruedInputWithoutFormatting.length ≤ 1) ∧
        (after.ableToFormat = false → after.inputHasFormatting = true) := by
    obtain ⟨same, short⟩ := normalizeAndAccrue_short state c rememberPosition
    rw [able] at same
    rw [empty] at short
    by_cases digit : isDigitOrLeadingPlusSign u state [c]
    · rw [if_pos digit]
      exact ⟨fun _ => short, fun unable => Bool.noConfusion (same.symm.trans unable)⟩
    · rw [if_neg digit]
      exact ⟨fun able => Bool.noConfusion able, fun _ => rfl⟩
  cases rememberPosition with
  | false => exact rest { initWithRegionCode u regionCode with accruedInput := [c] } rfl rfl
  | true => exact rest { initWithRegionCode u regionCode with accruedInput := [c], originalPosition := 1 } rfl rfl

/-- The first character is shown as it is, which counts as formatted. -/
theorem first_successful {rememberPosition : Bool} {c : unichar} {after : NBAsYouTypeFormatter}
    (typed : inputUnit u (initWithRegionCode u regionCode) rememberPosition c = .ok after) :
    after.isSuccessfulFormatting = true := by
  have first := accrue_first (u := u) regionCode c rememberPosition
  have input : inputUnit u (initWithRegionCode u regionCode) rememberPosition c = _ :=
    input_eq (initWithRegionCode u regionCode) (List.cons_ne_nil c []) rememberPosition
  rw [typed] at input
  obtain ⟨x, answers, shown⟩ := bind_eq_ok_iff.mp input.symm
  obtain rfl := Except.ok.inj shown
  change x.2.isSuccessfulFormatting = true
  revert answers first
  unfold inputDigitWithOptionToRememberPosition
  rw [if_neg (by simp)]
  generalize accrue u (initWithRegionCode u regionCode) [c] rememberPosition = accrued
  obtain ⟨nextChar, after⟩ := accrued
  dsimp only
  cases after.ableToFormat with
  | false =>
    rintro ⟨_, formatting⟩ answers
    unfold inputUnformatted at answers
    rw [if_pos (by simp), if_pos (formatting rfl)] at answers
    obtain rfl := Except.ok.inj answers
    rfl
  | true =>
    rintro ⟨short, _⟩ answers
    have most : after.accruedInputWithoutFormatting.length ≤ 2 := Nat.le_succ_of_le (short rfl)
    rw [if_neg (by simp), if_pos most] at answers
    obtain rfl := Except.ok.inj answers
    rfl

end Clearing

section Calls

variable {regionCode : Option NSString}

/-- The calls that change a formatter. -/
inductive Call
  | inputDigit (nextChar : NSString)
  | inputDigitAndRememberPosition (nextChar : NSString)
  | inputString (string : NSString)
  | inputStringAndRememberPosition (string : NSString)
  | removeLastDigit
  | removeLastDigitAndRememberPosition
  | clear

def Call.perform (u : NBPhoneNumberUtil) (self : NBAsYouTypeFormatter) : Call → Objc NBAsYouTypeFormatter
  | .inputDigit nextChar => NBAsYouTypeFormatter.inputDigit u self nextChar
  | .inputDigitAndRememberPosition nextChar => NBAsYouTypeFormatter.inputDigitAndRememberPosition u self nextChar
  | .inputString string => (NBAsYouTypeFormatter.inputString u self string).map Prod.snd
  | .inputStringAndRememberPosition string =>
    (NBAsYouTypeFormatter.inputStringAndRememberPosition u self string).map Prod.snd
  | .removeLastDigit => (NBAsYouTypeFormatter.removeLastDigit u self).map Prod.snd
  | .removeLastDigitAndRememberPosition =>
    (NBAsYouTypeFormatter.removeLastDigitAndRememberPosition u self).map Prod.snd
  | .clear => .ok (NBAsYouTypeFormatter.clear u self)

/-- A formatter for the region after some calls that raised nothing. -/
def Used (u : NBPhoneNumberUtil) (regionCode : Option NSString) (calls : List Call) (self : NBAsYouTypeFormatter) :
    Prop :=
  Reach (fun before call after => call.perform u before = .ok after) (initWithRegionCode u regionCode) calls self

theorem feed_serves {rememberPosition : Bool} {chars shown : NSString} {after : NBAsYouTypeFormatter}
    (serves : Serves u regionCode self.origin) (fed : feed u self rememberPosition chars = .ok (shown, after)) :
    Serves u regionCode after.origin := by
  obtain ⟨typed, typing, same⟩ := bind_eq_ok_iff.mp fed
  obtain ⟨rfl, rfl⟩ := Prod.mk.inj (Except.ok.inj same)
  rw [typeKeys_origin typing]
  exact ⟨serves.country, serves.metadata⟩

theorem clear_serves (serves : Serves u regionCode self.origin) : Serves u regionCode (clear u self).origin :=
  ⟨serves.country, serves.metadata⟩

theorem input_serves {nextChar : NSString} (remember : Bool) {after : NBAsYouTypeFormatter}
    (serves : Serves u regionCode self.origin)
    (answers : (if remember then inputDigitAndRememberPosition u self nextChar else inputDigit u self nextChar) =
      .ok after) : Serves u regionCode after.origin := by
  cases nextChar with
  | nil =>
    cases remember <;> (obtain rfl := Except.ok.inj answers; exact serves)
  | cons c rest =>
    have same := input_same (u := u) (Twin.refl True self) (List.cons_ne_nil c rest) remember remember
    rw [answers] at same
    obtain ⟨_, _, same⟩ := same.returns_of_ok
    rw [same.twin.kept]
    exact ⟨serves.country, serves.metadata⟩

theorem inputUnits_serves {rememberPosition : Bool} {chars : NSString} {after : NBAsYouTypeFormatter}
    (serves : Serves u regionCode self.origin)
    (answers : (inputUnits u rememberPosition (clear u self) [] chars).map Prod.snd = .ok after) :
    Serves u regionCode after.origin := by
  have fed : inputUnits u rememberPosition (clear u self) [] chars = feed u (clear u self) rememberPosition chars :=
    inputUnits_eq rememberPosition (clear u self) chars
  rw [fed] at answers
  cases typing : feed u (clear u self) rememberPosition chars with
  | error exception =>
    rw [typing] at answers
    cases answers
  | ok x =>
    rw [typing] at answers
    obtain rfl := Except.ok.inj answers
    exact feed_serves (clear_serves serves) typing

theorem removeLastUnit_serves {rememberPosition : Bool} {after : NBAsYouTypeFormatter}
    (serves : Serves u regionCode self.origin)
    (answers : (removeLastUnit u self rememberPosition).map Prod.snd = .ok after) :
    Serves u regionCode after.origin := by
  unfold removeLastUnit at answers
  dsimp only at answers
  split at answers
  · obtain rfl := Except.ok.inj answers
    exact clear_serves serves
  · exact inputUnits_serves serves answers

/-- No call changes what the formatter was made with. -/
theorem Used.serves {calls : List Call} (used : Used u regionCode calls self) : Serves u regionCode self.origin := by
  refine used.invariant (fun _ state => Serves u regionCode state.origin) ⟨rfl, rfl⟩ ?_
  intro _ before call after _ serves answers
  cases call with
  | inputDigit nextChar => exact input_serves false serves answers
  | inputDigitAndRememberPosition nextChar => exact input_serves true serves answers
  | inputString string => exact inputUnits_serves serves answers
  | inputStringAndRememberPosition string => exact inputUnits_serves serves answers
  | removeLastDigit => exact removeLastUnit_serves serves answers
  | removeLastDigitAndRememberPosition => exact removeLastUnit_serves serves answers
  | clear =>
    obtain rfl := Except.ok.inj answers
    exact clear_serves serves

/-- What a fresh formatter returns, and is left as, when it is fed some characters. -/
def Replays (u : NBPhoneNumberUtil) (regionCode : Option NSString) (rememberPosition : Bool) (chars : NSString)
    (x : Objc (NSString × NBAsYouTypeFormatter)) : Prop :=
  Returns x ∧ x = feed u (initWithRegionCode u regionCode) rememberPosition chars

/-- Whichever method typed some characters, the other one takes them too. -/
theorem feed_returns {keys : List (Bool × unichar)} {after : NBAsYouTypeFormatter}
    (typed : typeKeys u self keys = .ok after) (rememberPosition : Bool) :
    Returns (feed u self rememberPosition (keys.map Prod.snd)) := by
  have chars : keys.map Prod.snd = ((keys.map Prod.snd).map fun c => (rememberPosition, c)).map Prod.snd := by simp
  have same := typeKeys_same (u := u) (Twin.refl True self) keys _ chars fun _ => rfl
  rw [typed] at same
  obtain ⟨other, typing, _⟩ := same.returns_of_ok
  unfold feed
  rw [typing]
  exact ⟨_, rfl⟩

/-- With one character typed the flag betrays the removal. -/
theorem removeLastUnit_replays_iff {keys : List (Bool × unichar)} (some_keys : keys ≠ [])
    (typed : typeKeys u (initWithRegionCode u regionCode) keys = .ok self) (rememberPosition : Bool) :
    Replays u regionCode rememberPosition (keys.map Prod.snd).dropLast (removeLastUnit u self rememberPosition) ↔
      2 ≤ keys.length := by
  have origin := typeKeys_origin typed
  have serves : Serves u regionCode self.origin := by
    rw [origin]
    exact ⟨rfl, rfl⟩
  have accrued : self.accruedInput = keys.map Prod.snd := congrArg Origin.accruedInput origin
  have removed := removeLastUnit_eq (u := u) self rememberPosition (by simpa [accrued] using some_keys)
  rw [accrued] at removed
  rw [removed]
  obtain ⟨before, key, rfl⟩ : ∃ before key, keys = before ++ [key] :=
    ⟨_, _, (List.dropLast_append_getLast some_keys).symm⟩
  have dropped : ((before ++ [key]).map Prod.snd).dropLast = before.map Prod.snd := by simp
  rw [dropped]
  rw [typeKeys_append] at typed
  obtain ⟨middle, typedBefore, typedLast⟩ := bind_eq_ok_iff.mp typed
  cases before with
  | nil =>
    obtain rfl := Except.ok.inj typedBefore
    have flag := first_successful typedLast
    refine iff_of_false (fun ⟨_, same⟩ => ?_) (by simp)
    have fresh : clear u self = initWithRegionCode u regionCode := congrArg Prod.snd (Except.ok.inj same)
    rw [(clear_eq_init_iff serves).mp fresh] at flag
    cases flag
  | cons first rest =>
    refine iff_of_true ?_ (by simp)
    rw [feed_cleared serves rememberPosition (by simp)]
    exact ⟨feed_returns typedBefore rememberPosition, rfl⟩

/-- Removing the last of two or more characters is as if it had never been
typed. Clearing a formatter makes it fresh when its flag is not set. Putting in
a string clears the formatter and feeds it the string. -/
theorem deletion_replays_iff (u : NBPhoneNumberUtil) (regionCode : Option NSString) :
    (∀ keys self, keys ≠ [] → typeKeys u (initWithRegionCode u regionCode) keys = .ok self →
      (Replays u regionCode false (keys.map Prod.snd).dropLast (removeLastDigit u self) ↔ 2 ≤ keys.length) ∧
      (Replays u regionCode true (keys.map Prod.snd).dropLast (removeLastDigitAndRememberPosition u self) ↔
        2 ≤ keys.length)) ∧
    ∀ calls self, Used u regionCode calls self →
      (clear u self = initWithRegionCode u regionCode ↔ self.isSuccessfulFormatting = false) ∧
      ∀ string, inputString u self string = feed u (clear u self) false string ∧
        inputStringAndRememberPosition u self string = feed u (clear u self) true string := by
  refine ⟨fun keys self some_keys typed => ?_, fun calls self used => ?_⟩
  · exact ⟨removeLastUnit_replays_iff some_keys typed false, removeLastUnit_replays_iff some_keys typed true⟩
  · refine ⟨clear_eq_init_iff used.serves, fun string => ?_⟩
    exact ⟨inputUnits_eq false (clear u self) string, inputUnits_eq true (clear u self) string⟩

theorem deletion_replays_sixtyFive :
    ∃ self, typeKeys typingRegions (initWithRegionCode typingRegions (some (ns "US"))) [(false, 54), (true, 53)] =
        .ok self ∧
      Replays typingRegions (some (ns "US")) false (ns "6") (removeLastDigit typingRegions self) := by
  have typed : (typeKeys typingRegions (initWithRegionCode typingRegions (some (ns "US")))
      [(false, 54), (true, 53)]).toOption.any fun _ => true := by decide +kernel
  obtain ⟨self, typed, _⟩ := exists_ok_of_any typed
  have replays := (deletion_replays_iff typingRegions (some (ns "US"))).1 _ self (List.cons_ne_nil _ _) typed
  exact ⟨self, typed, replays.1.mpr (by decide)⟩

/-- A digit typed and removed leaves the flag set, which a fresh formatter has not. -/
theorem removed_digit_leaves_flag :
    ∃ self, typeKeys typingRegions (initWithRegionCode typingRegions (some (ns "US"))) [(false, 54)] = .ok self ∧
      Used typingRegions (some (ns "US")) [.inputDigit [54]] self ∧
      ¬ Replays typingRegions (some (ns "US")) false [] (removeLastDigit typingRegions self) ∧
      clear typingRegions self ≠ initWithRegionCode typingRegions (some (ns "US")) := by
  have checked : (inputDigit typingRegions (initWithRegionCode typingRegions (some (ns "US"))) [54]).toOption.any
      fun state => state.isSuccessfulFormatting &&
        (removeLastDigit typingRegions state).toOption.any fun x => x.2.isSuccessfulFormatting := by decide +kernel
  obtain ⟨self, typed, flags⟩ := exists_ok_of_any checked
  obtain ⟨flag, removed⟩ := Bool.and_eq_true_iff.mp flags
  refine ⟨self, ?_, Reach.start.next typed, fun ⟨_, same⟩ => ?_, fun fresh => ?_⟩
  · exact (List.foldlM_cons.trans (bind_pure _)).trans typed
  · rw [same] at removed
    cases removed
  · have cleared : (clear typingRegions self).isSuccessfulFormatting = false := congrArg isSuccessfulFormatting fresh
    exact Bool.noConfusion (flag.symm.trans cleared)

end Calls

end NBAsYouTypeFormatter

end SignalPods.PhoneNumber
