import Mathlib.Algebra.BigOperators.Group.List.Basic
import Mathlib.Algebra.Ring.Nat
import SignalPods.LibSignal.FfiStrings

namespace SignalPods.LibSignal

namespace Utils

/-- `fn` fails or fills the array in. -/
def invokeFnReturningSomeBytestringArray {Element : Type} (fn : Except SignalFfiError SignalBytestringArray)
    (transform : List UInt8 → Element) : Except SignalFfiError (List Element) := do
  let array ← fn
  pure (array.views transform)

def invokeFnReturningBytestringArray (fn : Except SignalFfiError SignalBytestringArray) :
    Except SignalFfiError (List (List UInt8)) :=
  invokeFnReturningSomeBytestringArray fn id

def invokeFnReturningStringArray (repair : List UInt8 → String) (fn : Except SignalFfiError SignalBytestringArray) :
    Except SignalFfiError (List String) :=
  invokeFnReturningSomeBytestringArray fn (stringDecoding repair)

theorem invokeFnReturningBytestringArray_ok (array : SignalBytestringArray) :
    invokeFnReturningBytestringArray (.ok array) = .ok (splitByLengths array.bytes array.lengths) := by
  have cut := views_eq array id
  rw [List.map_id] at cut
  exact congrArg Except.ok cut

end Utils

theorem splitByLengths_concatenation {lengths : List Nat} {bytes : List UInt8} (total : lengths.sum = bytes.length) :
    (splitByLengths bytes lengths).flatten = bytes := by
  induction lengths generalizing bytes with
  | nil =>
    have empty : bytes.length = 0 := by simpa using total.symm
    simpa [splitByLengths] using (List.length_eq_zero_iff.mp empty).symm
  | cons length lengths ih =>
    rw [List.sum_cons] at total
    have left : lengths.sum = (bytes.drop length).length := by
      rw [List.length_drop]
      omega
    rw [splitByLengths, List.flatten_cons, ih left, List.take_append_drop]

theorem splitByLengths_lengths {lengths : List Nat} {bytes : List UInt8} (total : lengths.sum = bytes.length) :
    (splitByLengths bytes lengths).map List.length = lengths := by
  induction lengths generalizing bytes with
  | nil => rfl
  | cons length lengths ih =>
    rw [List.sum_cons] at total
    have left : lengths.sum = (bytes.drop length).length := by
      rw [List.length_drop]
      omega
    have front : (bytes.take length).length = length := by
      rw [List.length_take]
      omega
    rw [splitByLengths, List.map_cons, ih left, front]

/-- The array that native code hands back when it is given this one. -/
def SignalBorrowedBytestringArray.returned (array : SignalBorrowedBytestringArray) : SignalBytestringArray :=
  { bytes := array.bytes, lengths := array.lengths }

namespace Sequence

/-! A `Sequence` promises one traversal. -/

variable {Source : Type*} (traverse : Source → List String × Source)

def strings (self : Source) : List String := (traverse self).1

/-- What a second traversal finds. -/
def stringsAgain (self : Source) : List String := (traverse (traverse self).2).1

/-- The lengths account for every byte, and what is decoded is what the sequence
holds. -/
structure RoundTrips (source : Source) : Prop where
  total : (withUnsafeBorrowedBytestringArray traverse source).lengths.sum =
    (withUnsafeBorrowedBytestringArray traverse source).bytes.length
  decoded : Utils.invokeFnReturningBytestringArray (.ok (withUnsafeBorrowedBytestringArray traverse source).returned) =
    .ok ((strings traverse source).map utf8)

variable {traverse} {self : Source}

theorem withUnsafeBorrowedBytestringArray_lengths :
    (withUnsafeBorrowedBytestringArray traverse self).lengths =
      ((strings traverse self).map utf8).map List.length := by
  rw [List.map_map]
  rfl

theorem withUnsafeBorrowedBytestringArray_bytes :
    (withUnsafeBorrowedBytestringArray traverse self).bytes = ((stringsAgain traverse self).map utf8).flatten :=
  foldl_append_utf8 _ []

/-- UTF-8 keeps the text of a list of strings apart from other texts. -/
theorem flatten_utf8_inj {first second : List String} :
    (first.map utf8).flatten = (second.map utf8).flatten ↔ String.join first = String.join second := by
  have encoded (strings : List String) : (strings.map utf8).flatten = utf8 (String.join strings) := by
    unfold utf8
    rw [String.toList_join, List.flatMap_assoc, List.flatMap]
  rw [encoded, encoded]
  exact ⟨utf8_injective, congrArg utf8⟩

/-- The second traversal has to spell the text of the first, however it cuts that
text up. -/
theorem roundTrips_iff :
    RoundTrips traverse self ↔ String.join (stringsAgain traverse self) = String.join (strings traverse self) := by
  constructor
  · intro trip
    have decoded := trip.decoded
    rw [Utils.invokeFnReturningBytestringArray_ok] at decoded
    have contents := Except.ok.inj decoded
    have kept := splitByLengths_concatenation trip.total
    rw [← flatten_utf8_inj, ← withUnsafeBorrowedBytestringArray_bytes, ← contents]
    exact kept.symm
  · intro text
    have bytes : _ = ((stringsAgain traverse self).map utf8).flatten := withUnsafeBorrowedBytestringArray_bytes
    rw [flatten_utf8_inj.mpr text] at bytes
    constructor
    · rw [bytes, withUnsafeBorrowedBytestringArray_lengths, List.length_flatten]
    · rw [Utils.invokeFnReturningBytestringArray_ok]
      unfold SignalBorrowedBytestringArray.returned
      rw [bytes, withUnsafeBorrowedBytestringArray_lengths, splitByLengths_flatten]

/-- A collection can be traversed again and again. -/
theorem roundTrips_of_collection (again : stringsAgain traverse self = strings traverse self) :
    RoundTrips traverse self :=
  roundTrips_iff.mpr (congrArg String.join again)

/-- A sequence that its first traversal uses up loses every string but the empty
ones. -/
theorem roundTrips_iff_of_usedUp (usedUp : stringsAgain traverse self = []) :
    RoundTrips traverse self ↔ ∀ s ∈ strings traverse self, s = "" := by
  rw [roundTrips_iff, usedUp, String.join_nil]
  have spelled : String.join (strings traverse self) = "" ↔ ∀ s ∈ strings traverse self, s = "" := by
    rw [← String.toList_inj, String.toList_join, String.toList_empty, List.flatMap_eq_nil_iff]
    simp only [String.toList_eq_nil_iff]
  exact eq_comm.trans spelled

/-- What a sequence of strings holds survives the wire exactly when a second
traversal spells the same text. Lengths that account for the bytes always cut them
up without loss. -/
theorem roundTrips_iff_sameText (traverse : Source → List String × Source) (self : Source) :
    (RoundTrips traverse self ↔
      String.join (stringsAgain traverse self) = String.join (strings traverse self)) ∧
    ∀ array : SignalBytestringArray, array.lengths.sum = array.bytes.length →
      ∃ contents, Utils.invokeFnReturningBytestringArray (.ok array) = .ok contents ∧
        contents.flatten = array.bytes ∧ contents.map List.length = array.lengths := by
  refine ⟨roundTrips_iff, fun array total => ?_⟩
  exact ⟨_, Utils.invokeFnReturningBytestringArray_ok array, splitByLengths_concatenation total,
    splitByLengths_lengths total⟩

/-- A sequence that one traversal uses up. -/
def drain (left : List String) : List String × List String := (left, [])

theorem roundTrips_iff_sameText_emptyStrings :
    (RoundTrips drain ["", ""] ↔ String.join (stringsAgain drain ["", ""]) = String.join (strings drain ["", ""])) ∧
    ∃ contents, Utils.invokeFnReturningBytestringArray (.ok { bytes := [97, 98], lengths := [0, 2, 0] }) = .ok contents ∧
      contents.flatten = [97, 98] ∧ contents.map List.length = [0, 2, 0] :=
  ⟨(roundTrips_iff_sameText drain ["", ""]).1, (roundTrips_iff_sameText drain []).2 _ (by decide)⟩

/-- The second traversal finds nothing to append, so a length is left without its
byte. -/
theorem drained_sequence_loses_bytes :
    withUnsafeBorrowedBytestringArray drain ["a"] = { bytes := [], lengths := [1] } ∧ ¬ RoundTrips drain ["a"] := by
  refine ⟨by decide, fun trip => ?_⟩
  have total := trip.total
  have lengths : (withUnsafeBorrowedBytestringArray drain ["a"]).lengths.sum = 1 := by decide
  have bytes : (withUnsafeBorrowedBytestringArray drain ["a"]).bytes.length = 0 := by decide
  omega

end Sequence

end SignalPods.LibSignal
