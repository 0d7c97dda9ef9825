import SignalPods.PhoneNumber.PhoneNumberUtil

namespace SignalPods.PhoneNumber

open Foundation

variable {contains : unichar → Bool}

/-- The runs of a class in a string that starts at a position, with a run that
has started before it. -/
def runsFrom (contains : unichar → Bool) : Nat → Option Nat → NSString → List NSRange
  | _, none, [] => []
  | position, some start, [] => [⟨start, position - start⟩]
  | position, none, c :: s =>
    if contains c then runsFrom contains (position + 1) (some position) s
    else runsFrom contains (position + 1) none s
  | position, some start, c :: s =>
    if contains c then runsFrom contains (position + 1) (some start) s
    else ⟨start, position - start⟩ :: runsFrom contains (position + 1) none s

def runResult (run : NSRange) : NSTextCheckingResult := { range := run }

/-- One match for each run of a class in a range. -/
def allRuns (contains : unichar → Bool) (s : NSString) (range : NSRange) : List NSTextCheckingResult :=
  (runsFrom contains range.location none (slice s range)).map runResult

/-- A string with a text for each run of a class. `inside` tells that a run has
started before it. -/
def collapse (contains : unichar → Bool) (text : NSString) : Bool → NSString → NSString
  | _, [] => []
  | inside, c :: s =>
    if contains c then (if inside then [] else text) ++ collapse contains text true s
    else c :: collapse contains text false s

theorem filter_collapse {text : NSString} (dropped : text.all contains) (inside : Bool) (s : NSString) :
    (collapse contains text inside s).filter (fun c => !contains c) = s.filter fun c => !contains c := by
  have none : text.filter (fun c => !contains c) = [] := by
    refine List.filter_eq_nil_iff.mpr ?_
    intro c member
    rw [List.all_eq_true.mp dropped c member]
    decide
  induction s generalizing inside with
  | nil => rfl
  | cons c s ih =>
    unfold collapse
    by_cases here : contains c
    · rw [if_pos here, List.filter_append, ih true, List.filter_cons_of_neg (by simp [here])]
      cases inside with
      | false =>
        rw [if_neg Bool.false_ne_true, none]
        rfl
      | true => rfl
    · rw [if_neg here, List.filter_cons_of_pos (by simp [here]), List.filter_cons_of_pos (by simp [here]), ih false]

/-- What is collapsed consists of the text and of units outside the class. -/
theorem mem_collapse {text : NSString} {inside : Bool} {s : NSString} {c : unichar}
    (member : c ∈ collapse contains text inside s) : c ∈ text ∨ c ∈ s ∧ contains c = false := by
  induction s generalizing inside with
  | nil => cases member
  | cons d s ih =>
    unfold collapse at member
    by_cases here : contains d
    · rw [if_pos here, List.mem_append] at member
      rcases member with written | later
      · cases inside with
        | false => exact Or.inl written
        | true => cases written
      · rcases ih later with written | ⟨kept, outside⟩
        · exact Or.inl written
        · exact Or.inr ⟨List.mem_cons_of_mem _ kept, outside⟩
    · rw [if_neg here, List.mem_cons] at member
      rcases member with rfl | later
      · exact Or.inr ⟨List.mem_cons_self, Bool.eq_false_of_not_eq_true here⟩
      · rcases ih later with written | ⟨kept, outside⟩
        · exact Or.inl written
        · exact Or.inr ⟨List.mem_cons_of_mem _ kept, outside⟩

/-- A run can only come before each unit outside the class and at the end. -/
theorem length_collapse_le {c : unichar} (inside : Bool) (s : NSString) :
    (collapse contains [c] inside s).length ≤
      2 * (s.filter fun c => !contains c).length + (if inside then 0 else 1) := by
  induction s generalizing inside with
  | nil => exact Nat.zero_le _
  | cons d s ih =>
    unfold collapse
    by_cases here : contains d
    · rw [if_pos here, List.filter_cons_of_neg (by simp [here]), List.length_append]
      have later := ih true
      rw [if_pos rfl] at later
      cases inside with
      | false =>
        rw [if_neg Bool.false_ne_true, if_neg Bool.false_ne_true, List.length_singleton]
        omega
      | true =>
        rw [if_pos rfl, if_pos rfl, List.length_nil]
        omega
    · rw [if_neg here, List.filter_cons_of_pos (by simp [here]), List.length_cons, List.length_cons]
      have later := ih false
      rw [if_neg Bool.false_ne_true] at later
      omega

/-- Without a unit of the class nothing collapses. -/
theorem collapse_of_absent {text : NSString} {inside : Bool} {s : NSString} (absent : ∀ c ∈ s, contains c = false) :
    collapse contains text inside s = s := by
  induction s generalizing inside with
  | nil => rfl
  | cons c s ih =>
    unfold collapse
    rw [absent c List.mem_cons_self, if_neg Bool.false_ne_true, ih fun d member => absent d (List.mem_cons_of_mem _ member)]

theorem runsFrom_none_eq_nil {position : Nat} {s : NSString} (noRun : runsFrom contains position none s = []) :
    ∀ c ∈ s, contains c = false := by
  have started (start position : Nat) (s : NSString) : runsFrom contains position (some start) s ≠ [] := by
    induction s generalizing position with
    | nil => exact List.cons_ne_nil _ _
    | cons c s ih =>
      unfold runsFrom
      split
      · exact ih (position + 1)
      · exact List.cons_ne_nil _ _
  induction s generalizing position with
  | nil =>
    intro c member
    cases member
  | cons d s ih =>
    unfold runsFrom at noRun
    split at noRun
    · exact absurd noRun (started _ _ _)
    · rename_i here
      intro c member
      rcases List.mem_cons.mp member with rfl | later
      · exact Bool.eq_false_of_not_eq_true here
      · exact ih noRun c later

/-- Each run is replaced by the text; `before` has been read, and the result has
been written up to `position`. -/
theorem replaceMatches_runsFrom {template : NSString}
    (filled : ∀ group groups, expandTemplate group groups .plain template = template) (s : NSString) :
    (∀ before : NSString, ∀ position ≤ before.length,
      replaceMatches (before ++ s) template position ((runsFrom contains before.length none s).map runResult) =
        before.drop position ++ collapse contains template false s) ∧
    ∀ before : NSString, ∀ start ≤ before.length, ∀ position ≤ start,
      replaceMatches (before ++ s) template position ((runsFrom contains before.length (some start) s).map runResult) =
        slice before ⟨position, start - position⟩ ++ template ++ collapse contains template true s := by
  induction s with
  | nil =>
    refine ⟨fun before position _ => by simp [runsFrom, collapse, replaceMatches], ?_⟩
    intro before start within position _
    have stop : start + (before.length - start) = before.length := by omega
    simp [runsFrom, collapse, replaceMatches, runResult, replacementString, filled, stop]
  | cons c s ih =>
    obtain ⟨outside, inside⟩ := ih
    have moved (before : NSString) : before ++ c :: s = before ++ [c] ++ s := by simp
    have longer (before : NSString) : (before ++ [c]).length = before.length + 1 := by simp
    have read (before : NSString) {position : Nat} (within : position ≤ before.length) :
        (before ++ [c]).drop position = before.drop position ++ [c] := List.drop_append_of_le_length within
    have written (before : NSString) {position stop : Nat} (order : position ≤ stop) (within : stop ≤ before.length) :
        slice (before ++ [c]) ⟨position, stop - position⟩ = slice before ⟨position, stop - position⟩ := by
      unfold slice
      rw [read before (order.trans within), List.take_append_of_le_length]
      rw [List.length_drop]
      dsimp only
      omega
    constructor
    · intro before position within
      unfold runsFrom collapse
      by_cases here : contains c
      · have later := inside (before ++ [c]) before.length (by simp) position within
        have whole : slice before ⟨position, before.length - position⟩ = before.drop position := by
          unfold slice
          rw [← List.length_drop, List.take_length]
        rw [longer, ← moved, written before within le_rfl, whole] at later
        rw [if_pos here, if_pos here, later, if_neg Bool.false_ne_true, List.append_assoc]
      · have later := outside (before ++ [c]) position (by simp; omega)
        rw [longer, ← moved, read before within] at later
        rw [if_neg here, if_neg here, later, List.append_assoc]
        rfl
    · intro before start within position order
      unfold runsFrom collapse
      by_cases here : contains c
      · have later := inside (before ++ [c]) start (by simp; omega) position order
        rw [longer, ← moved, written before order within] at later
        rw [if_pos here, if_pos here, later]
        rfl
      · have later := outside (before ++ [c]) before.length (by simp)
        have stop : start + (before.length - start) = before.length := by omega
        have text : slice (before ++ c :: s) ⟨position, start - position⟩ = slice before ⟨position, start - position⟩ := by
          rw [moved]
          unfold slice
          rw [List.append_assoc, List.drop_append_of_le_length (order.trans within), List.take_append_of_le_length]
          rw [List.length_drop]
          dsimp only
          omega
        rw [longer, ← moved, read before le_rfl, List.drop_length, List.nil_append] at later
        rw [if_neg here, if_neg here, List.map_cons, replaceMatches, runResult, stop, later, text, replacementString,
          filled]
        rfl

/-- A run lies in the string and is made of the class. -/
theorem mem_runsFrom {run : NSRange} (s : NSString) :
    (∀ before : NSString, run ∈ runsFrom contains before.length none s →
      run.Inside (before ++ s) ∧ 0 < run.length ∧ (slice (before ++ s) run).all contains) ∧
    ∀ before : NSString, ∀ start < before.length, (before.drop start).all contains →
      run ∈ runsFrom contains before.length (some start) s →
      run.Inside (before ++ s) ∧ 0 < run.length ∧ (slice (before ++ s) run).all contains := by
  induction s with
  | nil =>
    refine ⟨fun before member => absurd member List.not_mem_nil, ?_⟩
    intro before start within class' member
    obtain rfl := List.mem_singleton.mp member
    have whole : slice (before ++ []) ⟨start, before.length - start⟩ = before.drop start := by
      unfold slice
      rw [List.append_nil, ← List.length_drop, List.take_length]
    refine ⟨?_, by dsimp only; omega, by rw [whole]; exact class'⟩
    unfold NSRange.Inside
    rw [List.append_nil]
    dsimp only
    omega
  | cons c s ih =>
    obtain ⟨outside, inside⟩ := ih
    have moved (before : NSString) : before ++ c :: s = before ++ [c] ++ s := by simp
    have longer (before : NSString) : (before ++ [c]).length = before.length + 1 := by simp
    constructor
    · intro before member
      unfold runsFrom at member
      rw [moved]
      by_cases here : contains c
      · rw [if_pos here, ← longer] at member
        refine inside (before ++ [c]) before.length (by simp) ?_ member
        rw [List.drop_left]
        simpa using here
      · rw [if_neg here, ← longer] at member
        exact outside (before ++ [c]) member
    · intro before start within class' member
      unfold runsFrom at member
      by_cases here : contains c
      · rw [if_pos here, ← longer] at member
        rw [moved]
        refine inside (before ++ [c]) start (by simp; omega) ?_ member
        rw [List.drop_append_of_le_length within.le, List.all_append, class']
        simpa using here
      · rw [if_neg here, ← longer, List.mem_cons] at member
        rcases member with rfl | later
        · have text : slice (before ++ c :: s) ⟨start, before.length - start⟩ = before.drop start := by
            unfold slice
            rw [List.drop_append_of_le_length within.le, ← List.length_drop, List.take_left]
          refine ⟨?_, by dsimp only; omega, by rw [text]; exact class'⟩
          unfold NSRange.Inside
          rw [List.length_append, List.length_cons]
          dsimp only
          omega
        · rw [moved]
          exact outside (before ++ [c]) later

/-- A run is the only one in its own range. -/
theorem runsFrom_all {s : NSString} (class' : s.all contains) (some_units : s ≠ []) (position : Nat) :
    runsFrom contains position none s = [⟨position, s.length⟩] := by
  have started (s : NSString) (class' : s.all contains) (start position : Nat) :
      runsFrom contains position (some start) s = [⟨start, position + s.length - start⟩] := by
    induction s generalizing position with
    | nil => rfl
    | cons c s ih =>
      rw [List.all_cons, Bool.and_eq_true] at class'
      unfold runsFrom
      rw [if_pos class'.1, ih class'.2 (position + 1), List.length_cons]
      congr 2
      omega
  cases s with
  | nil => exact absurd rfl some_units
  | cons c s =>
    rw [List.all_cons, Bool.and_eq_true] at class'
    unfold runsFrom
    rw [if_pos class'.1, started s class'.2, List.length_cons]
    congr 2
    omega

namespace NBPhoneNumberUtil

/-- A pattern that is found at each run of a class. -/
def MatchesRuns (u : NBPhoneNumberUtil) (pattern : NSString) (contains : unichar → Bool) : Prop :=
  ∀ s range, range.Inside s → u.regex.matchesInString pattern s range = allRuns contains s range

/-- A pattern that is found at the run of a class a string starts with. -/
def MatchesLeadingRun (u : NBPhoneNumberUtil) (pattern : NSString) (contains : unichar → Bool) : Prop :=
  ∀ s length, length ≤ s.length → u.regex.matchesInString pattern s ⟨0, length⟩ =
    if (s.take length).takeWhile contains = [] then []
    else [{ range := ⟨0, ((s.take length).takeWhile contains).length⟩ }]

/-- A pattern that is found at the run of a class a range ends with. -/
def MatchesFinalRun (u : NBPhoneNumberUtil) (pattern : NSString) (contains : unichar → Bool) : Prop :=
  ∀ s range, range.Inside s → u.regex.matchesInString pattern s range =
    if (slice s range).rtakeWhile contains = [] then []
    else [{ range := ⟨range.location + ((slice s range).rdropWhile contains).length,
      ((slice s range).rtakeWhile contains).length⟩ }]

variable {u : NBPhoneNumberUtil} {pattern : NSString}

theorem replaceStringByRegex_runs (law : u.MatchesRuns pattern contains) {template : NSString}
    (filled : ∀ group groups, expandTemplate group groups .plain template = template) (s : NSString) :
    u.replaceStringByRegex s pattern template = collapse contains template false s := by
  have replaced : replaceMatches ([] ++ s) template 0 ((runsFrom contains 0 none s).map runResult) =
      ([] : NSString).drop 0 ++ collapse contains template false s :=
    (replaceMatches_runsFrom filled s).1 [] 0 (Nat.le_refl 0)
  have runs : u.regex.allMatches pattern s = (runsFrom contains 0 none s).map runResult := by
    unfold NSRegularExpressions.allMatches
    rw [law s _ (Nat.le_of_eq (Nat.zero_add _)), allRuns, slice_zero, List.take_length]
  rw [List.nil_append, List.drop_nil, List.nil_append] at replaced
  unfold replaceStringByRegex NSRegularExpressions.stringByReplacingMatches
  rw [runs]
  cases found : runsFrom contains 0 none s with
  | nil => exact (collapse_of_absent (runsFrom_none_eq_nil found)).symm
  | cons run later =>
    cases later with
    | nil =>
      -- the only run is found again in its own range
      have member : run ∈ runsFrom contains 0 none s := by rw [found]; exact List.mem_singleton_self run
      obtain ⟨inside, positive, units⟩ := (mem_runsFrom s).1 [] member
      rw [List.nil_append] at inside units
      have length := length_slice_of_inside inside
      have some_units : slice s run ≠ [] := by
        intro empty
        rw [empty, List.length_nil] at length
        omega
      have again : u.regex.matchesInString pattern s run = [runResult run] := by
        rw [law s run inside, allRuns, runsFrom_all units some_units, length]
        rfl
      rw [found] at replaced
      rw [← replaced]
      exact congrArg (replaceMatches s template 0) again
    | cons next rest =>
      have all : u.regex.matchesInString pattern s ⟨0, s.length⟩ = (runsFrom contains 0 none s).map runResult := runs
      rw [← replaced, ← all]
      rfl

/-- Replacing a leading run by nothing drops it. -/
theorem replaceStringByRegex_leadingRun (law : u.MatchesLeadingRun pattern contains) (s : NSString) :
    u.replaceStringByRegex s pattern [] = s.dropWhile contains := by
  have split : s.takeWhile contains ++ s.dropWhile contains = s := List.takeWhile_append_dropWhile
  have dropped : s.drop (s.takeWhile contains).length = s.dropWhile contains := by
    calc s.drop (s.takeWhile contains).length
        = (s.takeWhile contains ++ s.dropWhile contains).drop (s.takeWhile contains).length := by rw [split]
      _ = s.dropWhile contains := List.drop_left
  have found : u.regex.allMatches pattern s =
      if s.takeWhile contains = [] then [] else [{ range := ⟨0, (s.takeWhile contains).length⟩ }] := by
    unfold NSRegularExpressions.allMatches
    rw [law s s.length le_rfl, List.take_length]
  unfold replaceStringByRegex
  rw [found]
  by_cases none : s.takeWhile contains = []
  · rw [if_pos none]
    rw [none, List.nil_append] at split
    exact split.symm
  · rw [if_neg none]
    dsimp only
    have bound : (s.takeWhile contains).length ≤ s.length := (List.takeWhile_prefix _).length_le
    have taken : s.take (s.takeWhile contains).length = s.takeWhile contains := by
      exact (List.prefix_iff_eq_take.mp (List.takeWhile_prefix _)).symm
    have again : (s.takeWhile contains).takeWhile contains = s.takeWhile contains := by
      rw [List.takeWhile_takeWhile]
      simp
    unfold NSRegularExpressions.stringByReplacingMatches
    rw [law s _ bound, taken, again, if_neg none]
    simp only [replaceMatches, replacementString, expandTemplate, slice, Nat.zero_add, Nat.sub_self, List.take_zero,
      List.nil_append]
    exact dropped

/-- Replacing a final run by nothing drops it. -/
theorem replaceStringByRegex_finalRun (law : u.MatchesFinalRun pattern contains) (s : NSString) :
    u.replaceStringByRegex s pattern [] = s.rdropWhile contains := by
  have split : s.rdropWhile contains ++ s.rtakeWhile contains = s := List.rdropWhile_append_rtakeWhile
  have found : u.regex.allMatches pattern s = if s.rtakeWhile contains = [] then []
      else [{ range := ⟨(s.rdropWhile contains).length, (s.rtakeWhile contains).length⟩ }] := by
    unfold NSRegularExpressions.allMatches
    rw [law s _ (Nat.le_of_eq (Nat.zero_add _)), slice_zero, List.take_length]
    simp only [Nat.zero_add]
  unfold replaceStringByRegex
  rw [found]
  by_cases none : s.rtakeWhile contains = []
  · rw [if_pos none]
    rw [none, List.append_nil] at split
    exact split.symm
  · rw [if_neg none]
    dsimp only
    have inside : NSRange.Inside s ⟨(s.rdropWhile contains).length, (s.rtakeWhile contains).length⟩ := by
      have lengths := congrArg List.length split
      rw [List.length_append] at lengths
      unfold NSRange.Inside
      dsimp only
      omega
    have run : slice s ⟨(s.rdropWhile contains).length, (s.rtakeWhile contains).length⟩ = s.rtakeWhile contains := by
      have back : s.drop (s.rdropWhile contains).length = s.rtakeWhile contains := by
        have right : (s.rdropWhile contains ++ s.rtakeWhile contains).drop (s.rdropWhile contains).length =
          s.rtakeWhile contains := List.drop_left
        rw [split] at right
        exact right
      unfold slice
      rw [back, List.take_length]
    have units : (s.rtakeWhile contains).rdropWhile contains = [] :=
      List.rdropWhile_eq_nil_iff.mpr fun c member => List.mem_rtakeWhile_imp member
    have front : s.take (s.rdropWhile contains).length = s.rdropWhile contains :=
      (List.prefix_iff_eq_take.mp (List.rdropWhile_prefix contains s)).symm
    have back : s.drop ((s.rdropWhile contains).length + (s.rtakeWhile contains).length) = [] :=
      List.drop_of_length_le (by rw [← List.length_append, split])
    unfold NSRegularExpressions.stringByReplacingMatches
    rw [law s _ inside, run, List.rtakeWhile_idempotent, if_neg none, units, List.length_nil, Nat.add_zero]
    simp only [replaceMatches, replacementString, expandTemplate, Nat.sub_zero, slice_zero, front, back,
      List.append_nil]

end NBPhoneNumberUtil

end SignalPods.PhoneNumber
