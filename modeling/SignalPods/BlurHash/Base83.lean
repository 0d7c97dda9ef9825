import SignalPods.Foundation.Positional

namespace SignalPods.BlurHash

open Foundation

/-- The result of an operation on `Int`, which traps when it does not fit. -/
def int (n : Nat) : Option Nat := if n < 2 ^ 63 then some n else none

def encodeCharacters : List Char :=
  "0123456789ABCDEFGHIJKLMNOPQRSTUVWXYZabcdefghijklmnopqrstuvwxyz#$%*+,-.:;=?@[]^_\x7b|\x7d~".toList

def pow (base exponent : Nat) : Option Nat := (List.range exponent).foldlM (fun value _ => int (value * base)) 1

/-- An empty range of places, like an index out of bounds, traps. -/
def encode83 (n length : Nat) : Option (List Char) :=
  if length = 0 then none
  else (List.range' 1 length).mapM fun i => do
    let power ← pow 83 (length - i)
    encodeCharacters[n / power % 83]?

def decodeCharacters (character : Char) : Option Nat := encodeCharacters.idxOf? character

def decode83 (s : List Char) : Option Nat :=
  s.foldlM (fun value character =>
    match decodeCharacters character with
    | some digit => int (value * 83 + digit)
    | none => some value) 0

section Powers

theorem int_of_lt {n : Nat} (fits : n < 2 ^ 63) : int n = some n := if_pos fits

theorem pow_eq {base : Nat} (positive : 0 < base) (exponent : Nat) :
    pow base exponent = int (base ^ exponent) := by
  induction exponent with
  | zero => rfl
  | succ exponent ih =>
    unfold pow at ih ⊢
    rw [List.range_succ, List.foldlM_append, ih]
    by_cases fits : base ^ exponent < 2 ^ 63
    · rw [int_of_lt fits]
      simp [List.foldlM, pow_succ]
    · have grows : base ^ exponent ≤ base ^ (exponent + 1) := Nat.pow_le_pow_right positive (Nat.le_succ exponent)
      rw [int, if_neg fits, int, if_neg (by omega)]
      rfl

/-- The largest power of 83 that is an `Int` is the ninth. -/
theorem pow_83 (exponent : Nat) : pow 83 exponent = if exponent ≤ 9 then some (83 ^ exponent) else none := by
  rw [pow_eq (by decide)]
  by_cases few : exponent ≤ 9
  · have bound : 83 ^ exponent ≤ 83 ^ 9 := Nat.pow_le_pow_right (by decide) few
    have fits : 83 ^ 9 < 2 ^ 63 := by decide
    rw [int_of_lt (bound.trans_lt fits), if_pos few]
  · have bound : 83 ^ 10 ≤ 83 ^ exponent := Nat.pow_le_pow_right (by decide) (by omega)
    have large : 2 ^ 63 ≤ 83 ^ 10 := by decide
    rw [int, if_neg (by omega), if_neg few]

end Powers

section Characters

theorem decodeCharacters_of_lt : ∀ digit < 83, (encodeCharacters[digit]?).bind decodeCharacters = some digit := by
  decide +kernel

/-- The character of a digit. -/
theorem encodeCharacters_of_lt {digit : Nat} (bound : digit < 83) :
    ∃ character, encodeCharacters[digit]? = some character ∧ decodeCharacters character = some digit :=
  Option.bind_eq_some_iff.mp (decodeCharacters_of_lt digit bound)

/-- Digits of base 83 are written, each as a character. -/
theorem exists_characters {digits : List Nat} (bounds : ∀ digit ∈ digits, digit < 83) :
    ∃ characters, digits.mapM (encodeCharacters[·]?) = some characters ∧ characters.length = digits.length ∧
      characters.map decodeCharacters = digits.map some := by
  induction digits with
  | nil => exact ⟨[], rfl, rfl, rfl⟩
  | cons digit digits ih =>
    obtain ⟨characters, written, length, read⟩ := ih fun later member => bounds later (List.mem_cons_of_mem _ member)
    obtain ⟨character, here, back⟩ := encodeCharacters_of_lt (bounds digit List.mem_cons_self)
    refine ⟨character :: characters, ?_, by simp [length], by simp [back, read]⟩
    rw [List.mapM_cons, here, written]
    rfl

/-- Characters of digits are read as their number, as long as it is an `Int`. -/
theorem foldlM_characters {characters : List Char} {digits : List Nat}
    (read : characters.map decodeCharacters = digits.map some) (start : Nat)
    (fits : positionalValue 83 start digits < 2 ^ 63) :
    characters.foldlM (fun value character =>
      match decodeCharacters character with
      | some digit => int (value * 83 + digit)
      | none => some value) start = some (positionalValue 83 start digits) := by
  induction characters generalizing digits start with
  | nil =>
    obtain rfl := List.map_eq_nil_iff.mp read.symm
    rfl
  | cons character characters ih =>
    cases digits with
    | nil => cases read
    | cons digit digits =>
      obtain ⟨here, later⟩ := List.cons.inj read
      have step : positionalValue 83 start (digit :: digits) = positionalValue 83 (start * 83 + digit) digits := rfl
      have grows := le_positionalValue (show 0 < 83 by decide) (start * 83 + digit) digits
      rw [step] at fits ⊢
      rw [List.foldlM_cons, here]
      dsimp only
      rw [int_of_lt (grows.trans_lt fits)]
      exact ih later _ fits

end Characters

section Codec

variable {n length : Nat}

/-- With ten places or fewer the digits are written, the most significant first. -/
theorem encode83_of_le (some_places : 1 ≤ length) (few : length ≤ 10) :
    encode83 n length = (positional 83 length n).mapM (encodeCharacters[·]?) := by
  have each (count : Nat) (places : count ≤ length) :
      (List.range' (length - count + 1) count).mapM (fun i => do
        let power ← pow 83 (length - i)
        encodeCharacters[n / power % 83]?) = (positional 83 count n).mapM (encodeCharacters[·]?) := by
    induction count with
    | zero => rfl
    | succ count ih =>
      have place : length - (length - (count + 1) + 1) = count := by omega
      have next : length - (count + 1) + 1 + 1 = length - count + 1 := by omega
      rw [List.range'_succ, List.mapM_cons, place, next, ih (by omega), pow_83, if_pos (by omega), positional,
        List.mapM_cons]
      rfl
  have all := each length le_rfl
  rw [Nat.sub_self, Nat.zero_add] at all
  unfold encode83
  rw [if_neg (by omega), all]

theorem encode83_of_gt (many : 10 < length) : encode83 n length = none := by
  obtain ⟨places, rfl⟩ := Nat.exists_eq_add_of_lt many
  unfold encode83
  rw [if_neg (by omega), show 10 + places + 1 = (10 + places) + 1 from rfl, List.range'_succ, List.mapM_cons, pow_83,
    if_neg (by omega)]
  rfl

/-- What is written in few places is read again, as far as it has room in them. -/
theorem decode83_encode83 (some_places : 1 ≤ length) (few : length ≤ 9) :
    ∃ characters, encode83 n length = some characters ∧ characters.length = length ∧
      decode83 characters = some (n % 83 ^ length) := by
  obtain ⟨characters, written, count, read⟩ :=
    exists_characters fun digit (member : digit ∈ positional 83 length n) => positional_lt (by decide) member
  have value : positionalValue 83 0 (positional 83 length n) = 0 * 83 ^ length + n % 83 ^ length :=
    positionalValue_positional 0 length n
  rw [Nat.zero_mul, Nat.zero_add] at value
  have bound : 83 ^ length ≤ 83 ^ 9 := Nat.pow_le_pow_right (by decide) few
  have fits : 83 ^ 9 < 2 ^ 63 := by decide
  have small : n % 83 ^ length < 83 ^ length := Nat.mod_lt _ (Nat.pow_pos (by decide))
  refine ⟨characters, (encode83_of_le some_places (by omega)).trans written, by rw [count, length_positional], ?_⟩
  unfold decode83
  rw [foldlM_characters read 0 (by rw [value]; omega), value]

/-- An `Int` that fits into the places is read again exactly when there are at most ten. -/
theorem decode83_encode83_iff (some_places : 1 ≤ length) (fits : n < 83 ^ length) (isInt : n < 2 ^ 63) :
    encode83 n length >>= decode83 = some n ↔ length ≤ 10 := by
  by_cases few : length ≤ 10
  · refine iff_of_true ?_ few
    obtain ⟨characters, written, _, read⟩ :=
      exists_characters fun digit (member : digit ∈ positional 83 length n) => positional_lt (by decide) member
    have value := positionalValue_of_lt fits
    rw [encode83_of_le some_places few, written]
    exact (foldlM_characters read 0 (by rw [value]; exact isInt)).trans (congrArg some value)
  · rw [encode83_of_gt (by omega)]
    exact iff_of_false (fun none => by cases none) few

end Codec

end SignalPods.BlurHash
