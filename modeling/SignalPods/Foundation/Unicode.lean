import SignalPods.Foundation.Strings
import Mathlib.Data.List.Infix

namespace SignalPods.Foundation

/-- The first place where the units of a string are found in another. -/
def literalSearch (s target : NSString) : Option Nat :=
  (List.range (s.length + 1)).find? fun index => target.isPrefixOf (s.drop index)

/-- ASCII, and the full-width, Arabic-Indic and Eastern Arabic digits: none of
them combines with its neighbours or is equivalent to another of them. -/
def isPlain (c : unichar) : Bool :=
  c < 0x80 || (0xff10 ≤ c && c ≤ 0xff19) || (0x660 ≤ c && c ≤ 0x669) || (0x6f0 ≤ c && c ≤ 0x6f9)

/-- The character that a text begins with. Two surrogates make one character. -/
def firstCharacter : NSString → Option Nat
  | [] => none
  | [c] => some c.toNat
  | high :: low :: _ =>
    if 0xd800 ≤ high && high ≤ 0xdbff && 0xdc00 ≤ low && low ≤ 0xdfff then
      some (0x10000 + (high.toNat - 0xd800) * 0x400 + (low.toNat - 0xdc00))
    else some high.toNat

/-- What the tables of Unicode decide about strings. Searches go by canonical
equivalence, which is literal among plain units. -/
structure Unicode where
  rangeOfString : (s target : NSString) → Option Nat
  hasPrefix : NSString → NSString → Bool
  uppercaseString : NSString → NSString
  hasOnlyDecimalDigits : NSString → Bool
  /-- The characters that combine with the one before them. -/
  isNonBase : Nat → Bool
  isNonBase_plain : ∀ c, isPlain c → isNonBase c.toNat = false
  rangeOfString_le : ∀ s target, ∀ index ∈ rangeOfString s target, index ≤ s.length
  rangeOfString_plain : ∀ s target, s.all isPlain → target.all isPlain →
    rangeOfString s target = literalSearch s target
  hasPrefix_plain : ∀ s start, s.all isPlain → start.all isPlain → hasPrefix s start = start.isPrefixOf s

namespace Unicode

variable (unicode : Unicode)

/-- Whether a text goes on with the character before it. -/
def combines (s : NSString) : Bool := (firstCharacter s).any unicode.isNonBase

/-- `stringByReplacingOccurrencesOfString:withString:` for one unit that is equivalent
to itself alone. It is not found where it is only a part of a character. -/
def stringByReplacingUnit (target replacement : unichar) : NSString → NSString
  | [] => []
  | c :: s =>
    (if c = target ∧ unicode.combines s = false then replacement else c) :: stringByReplacingUnit target replacement s

variable {unicode} {target replacement : unichar} {s : NSString}

theorem not_surrogate_of_isPlain {c : unichar} (plain : isPlain c) : ¬ (0xd800 ≤ c ∧ c ≤ 0xdfff) := by
  rintro ⟨low, high⟩
  simp only [isPlain, Bool.or_eq_true, Bool.and_eq_true, decide_eq_true_eq, UInt16.le_iff_toNat_le,
    UInt16.lt_iff_toNat_lt, UInt16.reduceToNat] at plain low high
  omega

/-- A plain unit is no part of a pair. -/
theorem firstCharacter_plain {c d : unichar} (plain : isPlain d) : firstCharacter (c :: d :: s) = some c.toNat := by
  refine if_neg fun pair => not_surrogate_of_isPlain plain ?_
  simp only [Bool.and_eq_true, decide_eq_true_eq] at pair
  exact ⟨UInt16.le_trans (by decide : (0xd800 : unichar) ≤ 0xdc00) pair.1.2, pair.2⟩

theorem combines_plain {c : unichar} (plain : isPlain c) : unicode.combines (c :: s) = false := by
  have first : firstCharacter (c :: s) = some c.toNat := by
    cases s with
    | nil => rfl
    | cons low s =>
      refine if_neg fun pair => not_surrogate_of_isPlain plain ?_
      simp only [Bool.and_eq_true, decide_eq_true_eq] at pair
      exact ⟨pair.1.1.1, UInt16.le_trans pair.1.1.2 (by decide : (0xdbff : unichar) ≤ 0xdfff)⟩
  rw [combines, first]
  exact unicode.isNonBase_plain c plain

theorem stringByReplacingUnit_of_absent (absent : ∀ c ∈ s, c ≠ target) :
    unicode.stringByReplacingUnit target replacement s = s := by
  induction s with
  | nil => rfl
  | cons c s ih =>
    obtain ⟨differs, rest⟩ := List.forall_mem_cons.mp absent
    rw [stringByReplacingUnit, if_neg fun found => differs found.1, ih rest]

/-- What makes nothing of the replacement that it would not make of the target does
not see it. -/
theorem filterMap_stringByReplacingUnit {f : unichar → Option unichar} (same : f target = f replacement) :
    (unicode.stringByReplacingUnit target replacement s).filterMap f = s.filterMap f := by
  induction s with
  | nil => rfl
  | cons c s ih =>
    rw [stringByReplacingUnit, List.filterMap_cons, List.filterMap_cons, ih]
    split_ifs with found
    · rw [found.1, same]
    · rfl

end Unicode

theorem literalSearch_le {s target : NSString} {index : Nat} (found : literalSearch s target = some index) :
    index ≤ s.length := by
  have listed := List.mem_of_find?_eq_some found
  rw [List.mem_range] at listed
  omega

theorem literalSearch_found {s target : NSString} {index : Nat} (found : literalSearch s target = some index) :
    target <+: s.drop index := by
  unfold literalSearch at found
  have here := List.find?_some found
  exact List.isPrefixOf_iff_prefix.mp here

/-- The tables for ASCII, with every other unit equivalent to itself alone. -/
def Unicode.ascii : Unicode where
  rangeOfString := literalSearch
  hasPrefix s start := start.isPrefixOf s
  uppercaseString s := s.map fun c => if 97 ≤ c && c ≤ 122 then c - 32 else c
  hasOnlyDecimalDigits s := s.all isAsciiDigit
  isNonBase _ := false
  isNonBase_plain _ _ := rfl
  rangeOfString_le _ _ _ found := literalSearch_le found
  rangeOfString_plain _ _ _ _ := rfl
  hasPrefix_plain _ _ _ _ := rfl

/-- What is no letter is the upper case of itself alone. -/
theorem ascii_uppercaseString_eq_iff {c d : unichar} (upper : ¬ (65 ≤ d.toNat ∧ d.toNat ≤ 90))
    (lower : ¬ (97 ≤ d.toNat ∧ d.toNat ≤ 122)) : Unicode.ascii.uppercaseString [c] = [d] ↔ c = d := by
  have text : Unicode.ascii.uppercaseString [c] = [if 97 ≤ c && c ≤ 122 then c - 32 else c] := rfl
  rw [text, List.cons.injEq, and_iff_left rfl]
  split
  · rename_i letter
    simp only [Bool.and_eq_true, decide_eq_true_eq, UInt16.le_iff_toNat_le, UInt16.reduceToNat] at letter
    have value : (c - 32).toNat = c.toNat - 32 :=
      UInt16.toNat_sub_of_le _ _ (UInt16.le_iff_toNat_le.mpr (by simp only [UInt16.reduceToNat]; omega))
    constructor
    · rintro rfl
      omega
    · rintro rfl
      exact absurd letter lower
  · exact Iff.rfl

end SignalPods.Foundation
