import SignalPods.LibSignal.ChatListener
import Mathlib.Data.List.TakeWhile

namespace SignalPods.LibSignal

/-- `String.utf8`. -/
def utf8 (s : String) : List UInt8 := s.toList.flatMap String.utf8EncodeChar

/-- What native code reads through a `const char *`: it stops at the first NUL,
wherever the Swift string ends. -/
def withCString (s : String) : List UInt8 := (utf8 s).takeWhile (· ≠ 0)

/-- `String(decoding:as:)`. `repair` is what the standard library makes of
bytes that are no UTF-8. -/
def stringDecoding (repair : List UInt8 → String) (bytes : List UInt8) : String :=
  (String.fromUTF8? bytes.toByteArray).getD (repair bytes)

/-- The strings of Swift as far as this library looks at them: what decoding
makes of bytes that are no UTF-8, and the form in which `==` compares two
strings. -/
structure SwiftStrings where
  repair : List UInt8 → String
  canonical : String → String

structure SignalBorrowedBytestringArray where
  bytes : List UInt8
  lengths : List Nat
  deriving DecidableEq, Repr

/-- The method of the extension on `Sequence`. `traverse` says what a traversal yields and
what is left of the sequence after it. It goes over `self` twice, for the lengths and for
the bytes. -/
def Sequence.withUnsafeBorrowedBytestringArray {Source : Type*} (traverse : Source → List String × Source)
    (self : Source) : SignalBorrowedBytestringArray :=
  let (counted, self) := traverse self
  let lengths := counted.map fun s => (utf8 s).length
  let (appended, _) := traverse self
  { bytes := appended.foldl (fun concatenated s => concatenated ++ utf8 s) []
    lengths }

/-- An array is traversed again and again. -/
def withUnsafeBorrowedBytestringArray (strings : List String) : SignalBorrowedBytestringArray :=
  Sequence.withUnsafeBorrowedBytestringArray (fun strings => (strings, strings)) strings

/-- The strings native code finds in an array. -/
def SignalBorrowedBytestringArray.strings (array : SignalBorrowedBytestringArray) : List (List UInt8) :=
  splitByLengths array.bytes array.lengths

/-- A C string carries a string whole unless the string has a NUL inside. -/
theorem withCString_eq_iff {s : String} : withCString s = utf8 s ↔ 0 ∉ utf8 s := by
  have whole := List.takeWhile_eq_self_iff (p := fun byte : UInt8 => decide (byte ≠ 0)) (l := utf8 s)
  constructor
  · intro same inside
    have nonzero := whole.mp same 0 inside
    simp at nonzero
  · intro absent
    refine whole.mpr fun byte member => ?_
    have different : byte ≠ 0 := fun zero => absent (zero ▸ member)
    simpa using different

theorem viewLoop {Element : Type} (transform : List UInt8 → Element) (lengths : List Nat) (bytes : List UInt8)
    (result : List Element) :
    (lengths.foldl (fun (bytes, result) length => (bytes.drop length, result ++ [transform (bytes.take length)]))
      (bytes, result)).2 = result ++ (splitByLengths bytes lengths).map transform := by
  induction lengths generalizing bytes result with
  | nil => simp [splitByLengths]
  | cons length lengths ih =>
    rw [List.foldl_cons, ih]
    simp [splitByLengths]

/-- The loop cuts the bytes up by the lengths and transforms each piece. -/
theorem views_eq {Element : Type} (array : SignalBytestringArray) (transform : List UInt8 → Element) :
    array.views transform = (splitByLengths array.bytes array.lengths).map transform :=
  viewLoop transform array.lengths array.bytes []

theorem splitByLengths_flatten (views : List (List UInt8)) :
    splitByLengths views.flatten (views.map List.length) = views := by
  induction views with
  | nil => rfl
  | cons view views ih => simp [splitByLengths, ih]

theorem foldl_append_utf8 (strings : List String) (front : List UInt8) :
    strings.foldl (fun concatenated s => concatenated ++ utf8 s) front = front ++ (strings.map utf8).flatten := by
  induction strings generalizing front with
  | nil => simp
  | cons s strings ih => simp [ih, List.append_assoc]

/-- A list of strings crosses the boundary whole, NULs and all. -/
theorem withUnsafeBorrowedBytestringArray_strings (strings : List String) :
    (withUnsafeBorrowedBytestringArray strings).strings = strings.map utf8 := by
  have lengths : (strings.map fun s => (utf8 s).length) = (strings.map utf8).map List.length := by simp
  unfold withUnsafeBorrowedBytestringArray Sequence.withUnsafeBorrowedBytestringArray
    SignalBorrowedBytestringArray.strings
  dsimp only
  rw [foldl_append_utf8, List.nil_append, lengths, splitByLengths_flatten]

theorem utf8_toByteArray (s : String) : (utf8 s).toByteArray = s.toByteArray := by
  have encoded : s.toList.utf8Encode = s.toByteArray := by
    rw [← String.toByteArray_ofList, String.ofList_toList]
  exact encoded

theorem utf8_injective {s t : String} (same : utf8 s = utf8 t) : s = t := by
  have arrays := congrArg List.toByteArray same
  rw [utf8_toByteArray, utf8_toByteArray] at arrays
  exact String.toByteArray_inj.mp arrays

theorem fromUTF8?_utf8 (s : String) : String.fromUTF8? (utf8 s).toByteArray = some s := by
  unfold String.fromUTF8?
  rw [utf8_toByteArray]
  simp [s.isValidUTF8, String.fromUTF8]

/-- Decoding what a string is encoded as needs no repair. -/
theorem stringDecoding_utf8 (repair : List UInt8 → String) (s : String) : stringDecoding repair (utf8 s) = s := by
  unfold stringDecoding
  rw [fromUTF8?_utf8]
  rfl

end SignalPods.LibSignal
