import Mathlib.Data.Nat.Digits.Lemmas
import Mathlib.Data.List.DropRight

namespace SignalPods.Foundation

inductive NSException
  | rangeException
  | invalidArgumentException
  deriving DecidableEq, Repr

/-- A method returns or raises. -/
abbrev Objc (Value : Type) := Except NSException Value

abbrev unichar := UInt16

abbrev NSString := List unichar

/-- The string of a literal, whose characters all lie in the basic plane. -/
def ns (literal : String) : NSString := literal.toList.map fun c => UInt16.ofNat c.toNat

structure NSRange where
  location : Nat
  length : Nat
  deriving DecidableEq, Repr

/-- The bits of an integer read as an `NSUInteger`. -/
def nsUInteger (n : Int) : Nat := (n % 2 ^ 64).toNat

section Substrings

variable (s : NSString)

def characterAtIndex (index : Nat) : Objc unichar :=
  match s[index]? with
  | some c => .ok c
  | none => .error .rangeException

def substringFromIndex (index : Nat) : Objc NSString :=
  if index ≤ s.length then .ok (s.drop index) else .error .rangeException

def substringToIndex (index : Nat) : Objc NSString :=
  if index ≤ s.length then .ok (s.take index) else .error .rangeException

/-- The units in a range. -/
def slice (range : NSRange) : NSString := (s.drop range.location).take range.length

def substringWithRange (range : NSRange) : Objc NSString :=
  if range.location + range.length ≤ s.length then .ok (slice s range) else .error .rangeException

/-- `stringByAppendingString:`, which takes no nil. -/
def stringByAppendingString (other : Option NSString) : Objc NSString :=
  match other with
  | some other => .ok (s ++ other)
  | none => .error .invalidArgumentException

def NSRange.Inside (range : NSRange) : Prop := range.location + range.length ≤ s.length

variable {s}

theorem substringFromIndex_of_le {index : Nat} (bound : index ≤ s.length) :
    substringFromIndex s index = .ok (s.drop index) := if_pos bound

theorem substringToIndex_of_le {index : Nat} (bound : index ≤ s.length) :
    substringToIndex s index = .ok (s.take index) := if_pos bound

theorem substringWithRange_of_inside {range : NSRange} (inside : range.Inside s) :
    substringWithRange s range = .ok (slice s range) := if_pos inside

theorem substringWithRange_of_outside {range : NSRange} (outside : ¬ range.Inside s) :
    substringWithRange s range = .error .rangeException := if_neg outside

@[simp] theorem slice_zero (length : Nat) : slice s ⟨0, length⟩ = s.take length := by simp [slice]

theorem length_slice_le (range : NSRange) : (slice s range).length ≤ range.length := by
  simp [slice]

theorem length_slice_of_inside {range : NSRange} (inside : range.Inside s) :
    (slice s range).length = range.length := by
  unfold NSRange.Inside at inside
  simp only [slice, List.length_take, List.length_drop]
  omega

theorem characterAtIndex_of_lt {index : Nat} (bound : index < s.length) :
    ∃ c, characterAtIndex s index = .ok c ∧ s[index]? = some c :=
  ⟨s[index], by simp [characterAtIndex, bound], by simp [bound]⟩

theorem characterAtIndex_of_le {index : Nat} (bound : s.length ≤ index) :
    characterAtIndex s index = .error .rangeException := by
  simp [characterAtIndex, bound]

end Substrings

section Numbers

def isAsciiDigit (c : unichar) : Bool := 48 ≤ c && c ≤ 57

def digitValue (c : unichar) : Nat := c.toNat - 48

def digit (d : Nat) : unichar := UInt16.ofNat (48 + d)

def decimalDigits (n : Nat) : NSString := if n = 0 then [digit 0] else (Nat.digits 10 n).reverse.map digit

/-- `stringValue` of an integral number. -/
def stringValue (n : Int) : NSString := if n < 0 then 45 :: decimalDigits n.natAbs else decimalDigits n.natAbs

/-- White space and newlines, the non-breaking space among them. -/
def isWhitespace (c : unichar) : Bool :=
  (9 ≤ c && c ≤ 13) || c == 0x20 || c == 0x85 || c == 0xa0 || c == 0x1680 || (0x2000 ≤ c && c ≤ 0x200a) ||
    c == 0x2028 || c == 0x2029 || c == 0x202f || c == 0x205f || c == 0x3000

def stringByTrimming (s : NSString) : NSString := (s.dropWhile isWhitespace).rdropWhile isWhitespace

/-- The number that the digits of a string spell. -/
def digitsValue (s : NSString) : Nat := s.foldl (fun n c => 10 * n + digitValue c) 0

/-- The number a string begins with, between the bounds of the type. -/
def longLongValue (s : NSString) : Int :=
  match s.dropWhile isWhitespace with
  | 45 :: rest => max (-2 ^ 63) (-(digitsValue (rest.takeWhile isAsciiDigit) : Int))
  | 43 :: rest => min (2 ^ 63 - 1) (digitsValue (rest.takeWhile isAsciiDigit) : Int)
  | rest => min (2 ^ 63 - 1) (digitsValue (rest.takeWhile isAsciiDigit) : Int)

/-- `integerValue` has the range of `longLongValue`. -/
abbrev integerValue := longLongValue

def unsignedIntegerValue (n : Int) : Nat := nsUInteger n

end Numbers

end SignalPods.Foundation
