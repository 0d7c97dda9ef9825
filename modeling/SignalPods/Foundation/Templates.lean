import SignalPods.Foundation.RegularExpressions
import SignalPods.Foundation.Decimals

namespace SignalPods.Foundation

/-- Groups that lie side by side from one position to another; one that took
no part has no place. -/
def Tiles : Nat → Nat → List (Option NSRange) → Prop
  | start, stop, [] => start = stop
  | start, stop, none :: groups => Tiles start stop groups
  | start, stop, some range :: groups => range.location = start ∧ Tiles (start + range.length) stop groups

/-- The groups a template refers to, in order, when all else in it is literal. -/
def templateGroups (literal : unichar → Bool) : NSString → Option (List Nat)
  | [] => some []
  | 36 :: d :: template =>
    if isAsciiDigit d then (templateGroups literal template).map (digitValue d :: ·) else none
  | c :: template => if literal c then templateGroups literal template else none

def groupsText (s : NSString) (groups : List (Option NSRange)) : NSString :=
  groups.flatMap fun group => (group.map (slice s)).getD []

theorem templateGroups_mono {literal other : unichar → Bool} (wider : ∀ c, literal c = true → other c = true)
    {template : NSString} {used : List Nat} (shape : templateGroups literal template = some used) :
    templateGroups other template = some used := by
  fun_induction templateGroups literal template generalizing used with
  | case1 => exact shape
  | case2 d template isDigit ih =>
    obtain ⟨later, shaped, rfl⟩ := Option.map_eq_some_iff.mp shape
    rw [templateGroups, if_pos isDigit, ih shaped]
    rfl
  | case3 d template notDigit => cases shape
  | case4 c template notGroup isLiteral ih =>
    rw [templateGroups]
    · rw [if_pos (wider c isLiteral)]
      exact ih shape
    · exact notGroup
  | case5 c template notGroup notLiteral => cases shape

section Slices

variable {s : NSString}

theorem slice_append (start first second : Nat) :
    slice s ⟨start, first⟩ ++ slice s ⟨start + first, second⟩ = slice s ⟨start, first + second⟩ := by
  unfold slice
  rw [List.take_add, List.drop_drop]

theorem slice_append_drop {start stop : Nat} (order : start ≤ stop) :
    slice s ⟨start, stop - start⟩ ++ s.drop stop = s.drop start := by
  have split := List.take_append_drop (stop - start) (s.drop start)
  have there : start + (stop - start) = stop := by omega
  rw [List.drop_drop, there] at split
  exact split

end Slices

theorem Tiles.le {start stop : Nat} {groups : List (Option NSRange)} (tiles : Tiles start stop groups) : start ≤ stop := by
  induction groups generalizing start with
  | nil => exact Nat.le_of_eq tiles
  | cons group groups ih =>
    cases group with
    | none => exact ih tiles
    | some range =>
      have later := ih tiles.2
      omega

/-- The texts of groups side by side make up the text they lie in. -/
theorem Tiles.groupsText {s : NSString} {start stop : Nat} {groups : List (Option NSRange)}
    (tiles : Tiles start stop groups) : groupsText s groups = slice s ⟨start, stop - start⟩ := by
  induction groups generalizing start with
  | nil =>
    obtain rfl : start = stop := tiles
    simp [Foundation.groupsText, slice]
  | cons group groups ih =>
    cases group with
    | none => exact ih tiles
    | some range =>
      obtain ⟨here, rest⟩ := tiles
      obtain rfl := here
      have order := rest.le
      have lengths : range.length + (stop - (range.location + range.length)) = stop - range.location := by omega
      calc Foundation.groupsText s (some range :: groups)
          = slice s range ++ Foundation.groupsText s groups := rfl
        _ = slice s ⟨range.location, range.length⟩ ++
              slice s ⟨range.location + range.length, stop - (range.location + range.length)⟩ := by rw [ih rest]
        _ = slice s ⟨range.location, stop - range.location⟩ := by rw [slice_append, lengths]

/-- The groups of a match, by number. -/
theorem groupText_range' (s : NSString) (result : NSTextCheckingResult) :
    (List.range' 1 result.groups.length).flatMap (groupText s result) = groupsText s result.groups := by
  have numbered : result.groups = (List.range' 0 result.groups.length).map fun index => (result.groups[index]?).join := by
    refine List.ext_getElem (by simp) ?_
    intro index inside _
    simp [List.getElem?_eq_getElem inside]
  have shifted : List.range' 1 result.groups.length = (List.range' 0 result.groups.length).map (· + 1) := by
    simp [List.range'_eq_map_range, Nat.add_comm]
  conv_rhs => rw [numbered]
  rw [shifted, groupsText, List.flatMap_map, List.flatMap_map]
  rfl

section Kept

variable {literal keep : unichar → Bool} (dropped : ∀ c, literal c = true → keep c = false)

include dropped in
/-- What is kept of a filled template comes from its groups, in their order. -/
theorem filter_expandTemplate {group : Nat → NSString} {groups : Nat} {template : NSString} {used : List Nat}
    (plain : literal 92 = false) (noDigit : ∀ c, isAsciiDigit c = true → literal c = false)
    (shape : templateGroups literal template = some used) :
    (expandTemplate group groups .plain template).filter keep = used.flatMap fun number => (group number).filter keep := by
  fun_induction templateGroups literal template generalizing used with
  | case1 =>
    obtain rfl := Option.some.inj shape
    rfl
  | case2 d template isDigit ih =>
    obtain ⟨later, shaped, rfl⟩ := Option.map_eq_some_iff.mp shape
    have filled : expandTemplate group groups .plain (36 :: d :: template) =
        group (digitValue d) ++ expandTemplate group groups .plain template := by
      have started : expandTemplate group groups .plain (36 :: d :: template) =
          expandTemplate group groups (.group (digitValue d)) template := by
        simp [expandTemplate, isDigit]
      rw [started]
      cases template with
      | nil => simp [expandTemplate]
      | cons c rest =>
        -- a digit here would be read as part of the number, and no literal is one
        have noNumber : isAsciiDigit c = false := by
          by_contra digit
          rw [Bool.not_eq_false] at digit
          have notDollar : c ≠ 36 := by
            rintro rfl
            exact absurd digit (by decide)
          have unshaped : templateGroups literal (c :: rest) = none := by
            rw [templateGroups]
            · rw [noDigit c digit]
              rfl
            · intro _ _ same
              exact absurd same notDollar
          rw [unshaped] at shaped
          cases shaped
        have noEscape : c ≠ 92 := by
          rintro rfl
          have unshaped : templateGroups literal (92 :: rest) = none := by
            rw [templateGroups]
            · rw [plain]
              rfl
            · intro _ _ same
              exact absurd same (by decide)
          rw [unshaped] at shaped
          cases shaped
        simp only [expandTemplate, noNumber, Bool.false_and, if_neg noEscape]
        by_cases dollar : c = 36
        · simp [dollar]
        · simp [dollar]
    rw [filled, List.filter_append, ih shaped, List.flatMap_cons]
  | case3 d template notDigit => cases shape
  | case4 c template notGroup isLiteral ih =>
    have noEscape : c ≠ 92 := by
      rintro rfl
      rw [plain] at isLiteral
      cases isLiteral
    by_cases dollar : c = 36
    · -- a dollar sign at the end is literal
      cases template with
      | nil =>
        obtain rfl := dollar
        obtain rfl := Option.some.inj shape
        simp [expandTemplate, dropped 36 isLiteral]
      | cons d rest => exact absurd rfl (notGroup d rest dollar)
    · have filled : expandTemplate group groups .plain (c :: template) =
          c :: expandTemplate group groups .plain template := by
        simp only [expandTemplate, if_neg noEscape, if_neg dollar]
      rw [filled, List.filter_cons_of_neg (by simp [dropped c isLiteral]), ih shape]
  | case5 c template notGroup notLiteral => cases shape

namespace NSRegularExpressions

variable (regex : NSRegularExpressions)

/-- The groups of a pattern make up each of its matches. -/
def TilesMatches (pattern : NSString) (groups : Nat) : Prop :=
  ∀ s range, range.Inside s → ∀ result ∈ regex.matchesInString pattern s range, result.groups.length = groups ∧
    Tiles result.range.location (result.range.location + result.range.length) result.groups

/-- Matches are found from the left, each after the one before it. -/
def FindsInOrder : Prop :=
  ∀ pattern s range, range.Inside s → (regex.matchesInString pattern s range).Pairwise fun first second =>
    first.range.location + first.range.length ≤ second.range.location

end NSRegularExpressions

/-- Replacing matches keeps what each replacement keeps of its match. -/
theorem filter_replaceMatches {s template : NSString} {position : Nat} {results : List NSTextCheckingResult}
    (ordered : results.Pairwise fun first second =>
      first.range.location + first.range.length ≤ second.range.location)
    (after : ∀ result ∈ results, position ≤ result.range.location)
    (each : ∀ result ∈ results, (replacementString s template result).filter keep = (slice s result.range).filter keep) :
    (replaceMatches s template position results).filter keep = (s.drop position).filter keep := by
  induction results generalizing position with
  | nil => rfl
  | cons result results ih =>
    obtain ⟨first, ordered⟩ := List.pairwise_cons.mp ordered
    have start := after result List.mem_cons_self
    have rest := ih ordered (fun later member => first later member)
      (fun later member => each later (List.mem_cons_of_mem _ member))
    have here := each result List.mem_cons_self
    have untouched := slice_append_drop (s := s) start
    have matched : slice s result.range ++ s.drop (result.range.location + result.range.length) =
        s.drop result.range.location := by
      have length : result.range.location + result.range.length - result.range.location = result.range.length := by omega
      have split := slice_append_drop (s := s) (Nat.le_add_right result.range.location result.range.length)
      rw [length] at split
      exact split
    calc (replaceMatches s template position (result :: results)).filter keep
        = (slice s ⟨position, result.range.location - position⟩).filter keep ++ (slice s result.range).filter keep ++
            (s.drop (result.range.location + result.range.length)).filter keep := by
          rw [replaceMatches, List.filter_append, List.filter_append, here, rest]
      _ = (s.drop position).filter keep := by
          rw [List.append_assoc, ← List.filter_append, matched, ← List.filter_append, untouched]

include dropped in
/-- A template that uses each group once and in order keeps what the groups make up. -/
theorem filter_replacementString {s template : NSString} {result : NSTextCheckingResult} (plain : literal 92 = false)
    (noDigit : ∀ c, isAsciiDigit c = true → literal c = false)
    (tiled : Tiles result.range.location (result.range.location + result.range.length) result.groups)
    (shape : templateGroups literal template = some (List.range' 1 result.groups.length)) :
    (replacementString s template result).filter keep = (slice s result.range).filter keep := by
  have length : result.range.location + result.range.length - result.range.location = result.range.length := by omega
  have text := tiled.groupsText (s := s)
  rw [length] at text
  rw [replacementString, filter_expandTemplate dropped plain noDigit shape, ← List.filter_flatMap, groupText_range', text]

include dropped in
/-- A template that uses each group once and in order keeps what it replaces. -/
theorem filter_stringByReplacingMatches {regex : NSRegularExpressions} {pattern s template : NSString} {range : NSRange}
    {groups : Nat} (plain : literal 92 = false) (noDigit : ∀ c, isAsciiDigit c = true → literal c = false)
    (ordered : regex.FindsInOrder) (tiles : regex.TilesMatches pattern groups)
    (shape : templateGroups literal template = some (List.range' 1 groups)) (inside : range.Inside s) :
    (regex.stringByReplacingMatches pattern s range template).filter keep = s.filter keep := by
  have each : ∀ result ∈ regex.matchesInString pattern s range,
      (replacementString s template result).filter keep = (slice s result.range).filter keep := by
    intro result found
    obtain ⟨rfl, tiled⟩ := tiles s range inside result found
    exact filter_replacementString dropped plain noDigit tiled shape
  exact filter_replaceMatches (ordered pattern s range inside) (fun _ _ => Nat.zero_le _) each

end Kept

end SignalPods.Foundation
