import SignalPods.PhoneNumber.PlainExpressions

namespace SignalPods.PhoneNumber

open Foundation

variable {contains : unichar → Bool}

/-- The places of the units of a class in what follows a part of a string. -/
def unitPlaces (contains : unichar → Bool) (before s : NSString) : List Nat :=
  (List.range' before.length s.length).filter fun index => (before ++ s)[index]?.any contains

theorem unitPlaces_nil (before : NSString) : unitPlaces contains before [] = [] := rfl

theorem unitPlaces_cons (before s : NSString) (c : unichar) :
    unitPlaces contains before (c :: s) =
      if contains c then before.length :: unitPlaces contains (before ++ [c]) s
      else unitPlaces contains (before ++ [c]) s := by
  have here : (before ++ c :: s)[before.length]? = some c := by simp
  have moved : before ++ c :: s = before ++ [c] ++ s := by simp
  unfold unitPlaces
  rw [List.length_cons, List.range'_succ, List.filter_cons, here, moved, List.length_append, List.length_singleton]
  rfl

theorem unitMatches_whole (captures : Nat) (s : NSString) :
    unitMatches contains captures s ⟨0, s.length⟩ =
      (unitPlaces contains [] s).map fun index =>
        { range := ⟨index, 1⟩, groups := List.replicate captures (some ⟨index, 1⟩) } := rfl

theorem head_unitPlaces (before s : NSString) :
    (unitPlaces contains before s).head? = (s.findIdx? contains).map (before.length + ·) := by
  induction s generalizing before with
  | nil => rfl
  | cons c s ih =>
    rw [unitPlaces_cons, List.findIdx?_cons]
    by_cases here : contains c
    · simp [here]
    · rw [if_neg here, if_neg here, ih, Option.map_map]
      congr 1
      funext index
      simp only [List.length_append, List.length_singleton, Function.comp_apply]
      omega

theorem mem_unitPlaces {before s : NSString} {index : Nat} (member : index ∈ unitPlaces contains before s) :
    (before ++ s)[index]?.any contains := (List.mem_filter.mp member).2

/-- Each unit of the class is replaced where it stands. -/
theorem replaceMatches_unitPlaces (captures : Nat) {template : NSString} (filled : ∀ group groups,
    expandTemplate group groups .plain template = template) (before s : NSString) (position : Nat)
    (start : position ≤ before.length) :
    replaceMatches (before ++ s) template position ((unitPlaces contains before s).map fun index =>
        { range := ⟨index, 1⟩, groups := List.replicate captures (some ⟨index, 1⟩) }) =
      before.drop position ++ s.flatMap fun c => if contains c then template else [c] := by
  induction s generalizing before position with
  | nil => simp [unitPlaces_nil, replaceMatches]
  | cons c s ih =>
    have moved : before ++ c :: s = before ++ [c] ++ s := by simp
    rw [unitPlaces_cons, moved, List.flatMap_cons]
    by_cases here : contains c
    · have untouched : slice (before ++ [c] ++ s) ⟨position, before.length - position⟩ = before.drop position := by
        unfold slice
        rw [List.append_assoc, List.drop_append_of_le_length start, List.take_append_of_le_length (by simp),
          List.take_of_length_le (by simp)]
      have later := ih (before ++ [c]) (before.length + 1) (by simp)
      rw [List.drop_of_length_le (by simp), List.nil_append] at later
      rw [if_pos here, if_pos here, List.map_cons, replaceMatches, later, untouched, replacementString, filled,
        List.append_assoc]
    · have later := ih (before ++ [c]) position (by simp; omega)
      rw [if_neg here, if_neg here, later, List.drop_append_of_le_length start, List.append_assoc]

namespace NBPhoneNumberUtil

variable {u : NBPhoneNumberUtil}

/-- A pattern that is found at each unit of a class. -/
def MatchesUnits (u : NBPhoneNumberUtil) (pattern : NSString) (contains : unichar → Bool) (captures : Nat) : Prop :=
  ∀ s range, range.Inside s → u.regex.matchesInString pattern s range = unitMatches contains captures s range

variable {pattern : NSString} {captures : Nat}

theorem allMatches_units (law : u.MatchesUnits pattern contains captures) (s : NSString) :
    u.regex.allMatches pattern s = (unitPlaces contains [] s).map fun index =>
      { range := ⟨index, 1⟩, groups := List.replicate captures (some ⟨index, 1⟩) } := by
  unfold NSRegularExpressions.allMatches
  rw [law s _ (Nat.le_of_eq (Nat.zero_add _)), unitMatches_whole]

theorem stringPositionByRegex_units (law : u.MatchesUnits pattern contains captures) (written : pattern ≠ [])
    (s : NSString) :
    u.stringPositionByRegex s pattern = match s.findIdx? contains with
      | some index => (index : Int)
      | none => -1 := by
  have head := @head_unitPlaces contains [] s
  have some' : pattern.isEmpty = false := by simpa using written
  unfold stringPositionByRegex
  cases s with
  | nil => rfl
  | cons c s =>
    rw [allMatches_units law]
    simp only [List.isEmpty_cons, some', Bool.or_false, Bool.false_eq_true, if_false]
    cases places : unitPlaces contains [] (c :: s) with
    | nil =>
      rw [places] at head
      cases found : (c :: s).findIdx? contains with
      | none => rfl
      | some index =>
        rw [found] at head
        cases head
    | cons place places' =>
      rw [places] at head
      cases found : (c :: s).findIdx? contains with
      | none =>
        rw [found] at head
        cases head
      | some index =>
        rw [found] at head
        obtain rfl := Option.some.inj head
        simp

theorem replaceStringByRegex_units (law : u.MatchesUnits pattern contains captures) {template : NSString}
    (filled : ∀ group groups, expandTemplate group groups .plain template = template) (s : NSString) :
    u.replaceStringByRegex s pattern template = s.flatMap fun c => if contains c then template else [c] := by
  have replaced := @replaceMatches_unitPlaces contains captures _ filled [] s 0 (Nat.le_refl 0)
  rw [List.nil_append, List.drop_nil, List.nil_append] at replaced
  rw [← replaced]
  unfold replaceStringByRegex NSRegularExpressions.stringByReplacingMatches
  rw [allMatches_units law]
  cases places : unitPlaces contains [] s with
  | nil => rfl
  | cons place later =>
    cases later with
    | nil =>
      -- the only unit is found again in its own range
      have member : place ∈ unitPlaces contains [] s := by rw [places]; exact List.mem_singleton_self place
      have found := mem_unitPlaces member
      rw [List.nil_append] at found
      have inside : NSRange.Inside s ⟨place, 1⟩ := by
        have listed := List.mem_range'_1.mp (List.mem_filter.mp member).1
        unfold NSRange.Inside
        simp only [List.length_nil, Nat.zero_add] at listed
        dsimp only
        omega
      have again : u.regex.matchesInString pattern s ⟨place, 1⟩ =
          [{ range := ⟨place, 1⟩, groups := List.replicate captures (some ⟨place, 1⟩) }] := by
        rw [law s _ inside]
        simp [unitMatches, found]
      simp only [List.map_cons, List.map_nil, again]
    | cons next rest =>
      have all := allMatches_units law s
      unfold NSRegularExpressions.allMatches at all
      simp only [List.map_cons]
      rw [all, places]
      rfl

end NBPhoneNumberUtil

end SignalPods.PhoneNumber
