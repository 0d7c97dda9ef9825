import SignalPods.Foundation.Strings

namespace SignalPods.Foundation

structure NSTextCheckingResult where
  range : NSRange
  groups : List (Option NSRange) := []
  deriving DecidableEq, Repr

namespace NSTextCheckingResult

variable (result : NSTextCheckingResult)

def numberOfRanges : Nat := result.groups.length + 1

/-- No range stands for a group that took no part. -/
def rangeAtIndex : Nat → Option NSRange
  | 0 => some result.range
  | index + 1 => (result.groups[index]?).join

/-- All ranges lie in the string that was searched. -/
def Inside (s : NSString) : Prop := ∀ index range, result.rangeAtIndex index = some range → range.Inside s

end NSTextCheckingResult

/-- What the regular expression engine finds in a range of a string. -/
structure NSRegularExpressions where
  matchesInString : (pattern s : NSString) → NSRange → List NSTextCheckingResult
  firstAnchoredMatch : (pattern s : NSString) → Option NSTextCheckingResult
  matches_inside : ∀ pattern s range, range.Inside s → ∀ result ∈ matchesInString pattern s range, result.Inside s
  anchored_inside : ∀ pattern s, ∀ result ∈ firstAnchoredMatch pattern s, result.Inside s

/-- How far the reading of a template has come. -/
inductive TemplateMode
  | plain
  | escaped
  | dollar
  | group (number : Nat)

/-- A template with the groups of a match filled in: a dollar sign and the digits
of a group's number stand for the group, a backslash makes the next unit plain. -/
def expandTemplate (group : Nat → NSString) (groups : Nat) : TemplateMode → NSString → NSString
  | .plain, [] => []
  | .plain, c :: template =>
    if c = 92 then expandTemplate group groups .escaped template
    else if c = 36 then expandTemplate group groups .dollar template
    else c :: expandTemplate group groups .plain template
  | .escaped, [] => []
  | .escaped, c :: template => c :: expandTemplate group groups .plain template
  | .dollar, [] => [36]
  | .dollar, c :: template =>
    if isAsciiDigit c then expandTemplate group groups (.group (digitValue c)) template
    else if c = 92 then 36 :: expandTemplate group groups .escaped template
    else if c = 36 then 36 :: expandTemplate group groups .dollar template
    else 36 :: c :: expandTemplate group groups .plain template
  | .group number, [] => group number
  | .group number, c :: template =>
    if isAsciiDigit c && 10 * number + digitValue c ≤ groups then
      expandTemplate group groups (.group (10 * number + digitValue c)) template
    else if c = 92 then group number ++ expandTemplate group groups .escaped template
    else if c = 36 then group number ++ expandTemplate group groups .dollar template
    else group number ++ c :: expandTemplate group groups .plain template

/-- The text of a group, empty for one that took no part. -/
def groupText (s : NSString) (result : NSTextCheckingResult) (index : Nat) : NSString :=
  ((result.rangeAtIndex index).map (slice s)).getD []

def replacementString (s : NSString) (template : NSString) (result : NSTextCheckingResult) : NSString :=
  expandTemplate (groupText s result) result.groups.length .plain template

/-- The string from a position on, with the matches replaced. -/
def replaceMatches (s template : NSString) : Nat → List NSTextCheckingResult → NSString
  | position, [] => s.drop position
  | position, result :: results =>
    slice s ⟨position, result.range.location - position⟩ ++ replacementString s template result ++
      replaceMatches s template (result.range.location + result.range.length) results

namespace NSRegularExpressions

variable (regex : NSRegularExpressions)

def stringByReplacingMatches (pattern s : NSString) (range : NSRange) (template : NSString) : NSString :=
  replaceMatches s template 0 (regex.matchesInString pattern s range)

/-- The matches in a whole string. -/
def allMatches (pattern s : NSString) : List NSTextCheckingResult := regex.matchesInString pattern s ⟨0, s.length⟩

variable {regex} in
theorem inside_of_mem_allMatches {pattern s : NSString} {result : NSTextCheckingResult}
    (found : result ∈ regex.allMatches pattern s) : result.Inside s :=
  regex.matches_inside pattern s ⟨0, s.length⟩ (Nat.le_of_eq (Nat.zero_add _)) result found

end NSRegularExpressions

end SignalPods.Foundation
