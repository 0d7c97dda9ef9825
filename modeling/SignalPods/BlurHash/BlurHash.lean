import SignalPods.BlurHash.Base83

namespace SignalPods.BlurHash

/-- Red, green and blue, quantised. -/
abbrev Colour := Nat × Nat × Nat

def encodeDC (value : Colour) : Nat := (value.1 <<< 16) + (value.2.1 <<< 8) + value.2.2

def encodeAC (value : Colour) : Nat := value.1 * 19 * 19 + value.2.1 * 19 + value.2.2

/-- Without AC factors there is no maximum, and a zero is written for it. -/
def encodeMaximum (quantisedMaximumValue : Nat) (ac : List Colour) : Option (List Char) :=
  if ac.length > 0 then encode83 quantisedMaximumValue 1 else encode83 0 1

/-- The text of an image whose factors are quantised. -/
def blurHash (components : Nat × Nat) (quantisedMaximumValue : Nat) (dc : Colour) (ac : List Colour) :
    Option (List Char) := do
  let sizeFlag ← int ((components.1 - 1) + (components.2 - 1) * 9)
  let hash ← encode83 sizeFlag 1
  let maximum ← encodeMaximum quantisedMaximumValue ac
  let first ← encode83 (encodeDC dc) 4
  let others ← ac.mapM fun factor => encode83 (encodeAC factor) 2
  return hash ++ maximum ++ first ++ others.flatten

def decodeDC (value : Nat) : Colour := (value >>> 16, (value >>> 8) &&& 255, value &&& 255)

def decodeAC (value : Nat) : Colour := (value / (19 * 19), value / 19 % 19, value % 19)

/-- What is read from a text, before it is turned into light. -/
structure Decoded where
  numX : Nat
  numY : Nat
  quantisedMaximumValue : Nat
  dc : Colour
  ac : List Colour
  deriving DecidableEq, Repr

/-- The characters from one offset up to another; out of bounds it traps. -/
def substring (s : List Char) (lower upper : Nat) : Option (List Char) :=
  if upper ≤ s.length then some ((s.drop lower).take (upper - lower)) else none

/-- The colour of a component after the first. -/
def colour (blurHash : List Char) (i : Nat) : Option Colour := do
  let value ← decode83 (← substring blurHash (4 + i * 2) (4 + i * 2 + 2))
  return decodeAC value

/-- `init(blurHash:size:punch:)` up to the colours. -/
def initBlurHash (blurHash : List Char) : Option (Option Decoded) :=
  if 6 ≤ blurHash.length then do
    let sizeFlag ← decode83 (← substring blurHash 0 1)
    let numY := sizeFlag / 9 + 1
    let numX := sizeFlag % 9 + 1
    let quantisedMaximumValue ← decode83 (← substring blurHash 1 2)
    if blurHash.length = 4 + 2 * numX * numY then do
      let dc ← decode83 (← substring blurHash 2 6)
      let ac ← (List.range' 1 (numX * numY - 1)).mapM (colour blurHash)
      return some ⟨numX, numY, quantisedMaximumValue, decodeDC dc, ac⟩
    else return none
  else return none

/-- The ranges of the quantised values. -/
structure Quantised (quantisedMaximumValue : Nat) (dc : Colour) (ac : List Colour) : Prop where
  maximum : quantisedMaximumValue ≤ 82
  dc : dc.1 ≤ 255 ∧ dc.2.1 ≤ 255 ∧ dc.2.2 ≤ 255
  ac : ∀ factor ∈ ac, factor.1 ≤ 18 ∧ factor.2.1 ≤ 18 ∧ factor.2.2 ≤ 18

section Packing

theorem encodeDC_eq (value : Colour) : encodeDC value = value.1 * 65536 + value.2.1 * 256 + value.2.2 := by
  simp [encodeDC, Nat.shiftLeft_eq]

theorem encodeDC_lt {value : Colour} (bounds : value.1 ≤ 255 ∧ value.2.1 ≤ 255 ∧ value.2.2 ≤ 255) :
    encodeDC value < 83 ^ 4 := by
  rw [encodeDC_eq]
  omega

theorem decodeDC_encodeDC {value : Colour} (bounds : value.1 ≤ 255 ∧ value.2.1 ≤ 255 ∧ value.2.2 ≤ 255) :
    decodeDC (encodeDC value) = value := by
  have low (n : Nat) : n &&& 255 = n % 256 := Nat.and_two_pow_sub_one_eq_mod n 8
  rw [encodeDC_eq, decodeDC, low, low, Nat.shiftRight_eq_div_pow, Nat.shiftRight_eq_div_pow]
  refine Prod.ext ?_ (Prod.ext ?_ ?_) <;> dsimp only <;> omega

theorem encodeAC_lt {value : Colour} (bounds : value.1 ≤ 18 ∧ value.2.1 ≤ 18 ∧ value.2.2 ≤ 18) :
    encodeAC value < 83 ^ 2 := by
  unfold encodeAC
  omega

theorem decodeAC_encodeAC {value : Colour} (bounds : value.1 ≤ 18 ∧ value.2.1 ≤ 18 ∧ value.2.2 ≤ 18) :
    decodeAC (encodeAC value) = value := by
  unfold encodeAC decodeAC
  refine Prod.ext ?_ (Prod.ext ?_ ?_) <;> dsimp only <;> omega

end Packing

section Written

theorem substring_middle (before s after : List Char) {lower upper : Nat} (start : lower = before.length)
    (stop : upper = before.length + s.length) : substring (before ++ (s ++ after)) lower upper = some s := by
  have bound : upper ≤ (before ++ (s ++ after)).length := by
    rw [List.length_append, List.length_append]
    omega
  have count : upper - lower = s.length := by omega
  rw [substring, if_pos bound, count, start, List.drop_left, List.take_left]

/-- Texts of AC factors, each of two characters. -/
def WritesFactors (others : List (List Char)) (ac : List Colour) : Prop :=
  List.Forall₂ (fun characters factor => characters.length = 2 ∧ decode83 characters = some (encodeAC factor)) others ac

theorem exists_factors {ac : List Colour} (bounds : ∀ factor ∈ ac, factor.1 ≤ 18 ∧ factor.2.1 ≤ 18 ∧ factor.2.2 ≤ 18) :
    ∃ others, ac.mapM (fun factor => encode83 (encodeAC factor) 2) = some others ∧ WritesFactors others ac := by
  induction ac with
  | nil => exact ⟨[], rfl, List.Forall₂.nil⟩
  | cons factor ac ih =>
    obtain ⟨others, written, factors⟩ := ih fun later member => bounds later (List.mem_cons_of_mem _ member)
    have fits := encodeAC_lt (bounds factor List.mem_cons_self)
    obtain ⟨characters, here, length, read⟩ := @decode83_encode83 (encodeAC factor) 2 (by decide) (by decide)
    rw [Nat.mod_eq_of_lt fits] at read
    refine ⟨characters :: others, ?_, List.Forall₂.cons ⟨length, read⟩ factors⟩
    rw [List.mapM_cons, here, written]
    rfl

theorem WritesFactors.length {others : List (List Char)} {ac : List Colour} (factors : WritesFactors others ac) :
    others.length = ac.length ∧ others.flatten.length = 2 * ac.length := by
  induction factors with
  | nil => exact ⟨rfl, rfl⟩
  | @cons characters factor others ac here later ih =>
    rw [List.length_cons, List.length_cons, List.flatten_cons, List.length_append, here.1]
    omega

/-- The factors are read where they were written, from some place on. -/
theorem WritesFactors.read {others : List (List Char)} {ac : List Colour} (factors : WritesFactors others ac)
    (bounds : ∀ factor ∈ ac, factor.1 ≤ 18 ∧ factor.2.1 ≤ 18 ∧ factor.2.2 ≤ 18) (before : List Char) (i : Nat)
    (start : before.length = 4 + i * 2) :
    (List.range' i ac.length).mapM (colour (before ++ others.flatten)) = some ac := by
  induction factors generalizing before i with
  | nil => rfl
  | @cons characters factor others ac here later ih =>
    have next := ih (fun later member => bounds later (List.mem_cons_of_mem _ member)) (before ++ characters) (i + 1)
      (by rw [List.length_append, here.1]; omega)
    have text : before ++ characters ++ others.flatten = before ++ (characters ++ others.flatten) := List.append_assoc _ _ _
    have cut := substring_middle before characters others.flatten start.symm
      (show 4 + i * 2 + 2 = before.length + characters.length by rw [start, here.1])
    have first : colour (before ++ (characters ++ others.flatten)) i = some factor := by
      unfold colour
      rw [cut]
      simp [here.2, decodeAC_encodeAC (bounds factor List.mem_cons_self)]
    rw [text] at next
    rw [List.length_cons, List.range'_succ, List.mapM_cons, List.flatten_cons, first, next]
    rfl

/-- What an image is written to: the size flag, the maximum, the DC factor and the AC factors. -/
structure Writes (sizeFlag maximum : Nat) (dc : Colour) (ac : List Colour) (size limit first : List Char)
    (others : List (List Char)) : Prop where
  size : size.length = 1 ∧ decode83 size = some (sizeFlag % 83)
  limit : limit.length = 1 ∧ decode83 limit = some maximum
  first : first.length = 4 ∧ decode83 first = some (encodeDC dc)
  others : WritesFactors others ac

variable {components : Nat × Nat} {quantisedMaximumValue : Nat} {dc : Colour} {ac : List Colour}

theorem blurHash_writes (quantised : Quantised quantisedMaximumValue dc ac) {sizeFlag : Nat}
    (flag : int ((components.1 - 1) + (components.2 - 1) * 9) = some sizeFlag) :
    ∃ size limit first others, blurHash components quantisedMaximumValue dc ac =
        some (size ++ (limit ++ (first ++ others.flatten))) ∧
      Writes sizeFlag (if ac.length > 0 then quantisedMaximumValue else 0) dc ac size limit first others := by
  have few : (if ac.length > 0 then quantisedMaximumValue else 0) < 83 ^ 1 := by
    have bound := quantised.maximum
    split <;> omega
  obtain ⟨size, sizeWritten, sizeRead⟩ := @decode83_encode83 sizeFlag 1 (by decide) (by decide)
  obtain ⟨limit, limitWritten, limitRead⟩ :=
    @decode83_encode83 (if ac.length > 0 then quantisedMaximumValue else 0) 1 (by decide) (by decide)
  obtain ⟨first, firstWritten, firstRead⟩ := @decode83_encode83 (encodeDC dc) 4 (by decide) (by decide)
  obtain ⟨others, othersWritten, factors⟩ := exists_factors quantised.ac
  rw [Nat.mod_eq_of_lt few] at limitRead
  rw [Nat.mod_eq_of_lt (encodeDC_lt quantised.dc)] at firstRead
  refine ⟨size, limit, first, others, ?_, sizeRead, limitRead, firstRead, factors⟩
  have either : encodeMaximum quantisedMaximumValue ac = some limit := by
    rw [← limitWritten, encodeMaximum]
    split <;> rfl
  unfold blurHash
  rw [flag, either]
  simp [sizeWritten, firstWritten, othersWritten]

variable {sizeFlag maximum : Nat} {size limit first : List Char} {others : List (List Char)}

theorem Writes.length (writes : Writes sizeFlag maximum dc ac size limit first others) :
    (size ++ (limit ++ (first ++ others.flatten))).length = 6 + 2 * ac.length := by
  simp only [List.length_append, writes.size.1, writes.limit.1, writes.first.1, writes.others.length.2]
  omega

/-- What is written is read as far as the size flag tells the number of factors. -/
theorem Writes.read (writes : Writes sizeFlag maximum dc ac size limit first others)
    (bounds : dc.1 ≤ 255 ∧ dc.2.1 ≤ 255 ∧ dc.2.2 ≤ 255)
    (factors : ∀ factor ∈ ac, factor.1 ≤ 18 ∧ factor.2.1 ≤ 18 ∧ factor.2.2 ≤ 18) :
    initBlurHash (size ++ (limit ++ (first ++ others.flatten))) =
      if 6 + 2 * ac.length = 4 + 2 * (sizeFlag % 83 % 9 + 1) * (sizeFlag % 83 / 9 + 1) then
        some (some ⟨sizeFlag % 83 % 9 + 1, sizeFlag % 83 / 9 + 1, maximum, dc, ac⟩)
      else some none := by
  have length := writes.length
  have atSize := substring_middle [] size (limit ++ (first ++ others.flatten)) (show 0 = _ from rfl)
    (show 1 = _ by rw [writes.size.1]; rfl)
  have atLimit := substring_middle size limit (first ++ others.flatten) writes.size.1.symm
    (show 2 = size.length + limit.length by rw [writes.size.1, writes.limit.1])
  have atFirst := substring_middle (size ++ limit) first others.flatten
    (show 2 = (size ++ limit).length by rw [List.length_append, writes.size.1, writes.limit.1])
    (show 6 = (size ++ limit).length + first.length by
      rw [List.length_append, writes.size.1, writes.limit.1, writes.first.1])
  have atOthers := writes.others.read factors (size ++ (limit ++ first)) 1 (by
    simp only [List.length_append, writes.size.1, writes.limit.1, writes.first.1])
  simp only [List.append_assoc, List.nil_append] at atSize atFirst atOthers
  unfold initBlurHash
  rw [length, if_pos (by omega), atSize, atLimit]
  simp only [Option.bind_eq_bind, Option.bind_some, writes.size.2, writes.limit.2]
  split
  · rename_i fits
    have count : (sizeFlag % 83 % 9 + 1) * (sizeFlag % 83 / 9 + 1) - 1 = ac.length := by
      rw [Nat.mul_assoc] at fits
      omega
    rw [atFirst, count, atOthers]
    simp [writes.first.2, decodeDC_encodeDC bounds]
  · rfl

end Written

section RoundTrip

/-- The text of an image has the length of its components, and the decoder reads
what the encoder was given. -/
def ReadsBack (components : Nat × Nat) (quantisedMaximumValue : Nat) (dc : Colour) (ac : List Colour) : Prop :=
  ∃ hash, blurHash components quantisedMaximumValue dc ac = some hash ∧
    hash.length = 4 + 2 * components.1 * components.2 ∧
    initBlurHash hash = some (some ⟨components.1, components.2, quantisedMaximumValue, dc, ac⟩)

/-- The components fit into the size flag, and without AC factors the maximum is
the zero that is written. -/
structure Fits (components : Nat × Nat) (quantisedMaximumValue : Nat) : Prop where
  across : components.1 ≤ 9
  flag : (components.1 - 1) + (components.2 - 1) * 9 < 83
  maximum : components.1 * components.2 = 1 → quantisedMaximumValue = 0

/-- An image is read back exactly when its components fit; a number is read back
from exactly the places whose powers are integers. -/
theorem blurHash_reads_back_iff {components : Nat × Nat} {quantisedMaximumValue : Nat} {dc : Colour} {ac : List Colour}
    (wide : 1 ≤ components.1) (high : 1 ≤ components.2) (count : ac.length = components.1 * components.2 - 1)
    (quantised : Quantised quantisedMaximumValue dc ac) {n length : Nat} (positive : 1 ≤ length) (bound : n < 83 ^ length)
    (small : n < 2 ^ 63) :
    (ReadsBack components quantisedMaximumValue dc ac ↔ Fits components quantisedMaximumValue) ∧
      (encode83 n length >>= decode83 = some n ↔ length ≤ 10) := by
  refine ⟨?_, decode83_encode83_iff positive bound small⟩
  have area : 1 ≤ components.1 * components.2 := Nat.mul_pos wide high
  have alone : ac.length > 0 ↔ components.1 * components.2 ≠ 1 := by omega
  constructor
  · rintro ⟨hash, written, _, read⟩
    cases flag : int ((components.1 - 1) + (components.2 - 1) * 9) with
    | none =>
      rw [blurHash, flag] at written
      cases written
    | some sizeFlag =>
      obtain ⟨size, limit, first, others, same, writes⟩ := blurHash_writes quantised flag
      obtain rfl := Option.some.inj (written.symm.trans same)
      obtain rfl : (components.1 - 1) + (components.2 - 1) * 9 = sizeFlag := by
        unfold int at flag
        split at flag
        · exact Option.some.inj flag
        · cases flag
      rw [writes.read quantised.dc quantised.ac] at read
      split at read
      · obtain ⟨across, down, maximum, _⟩ := Decoded.mk.inj (Option.some.inj (Option.some.inj read))
        refine ⟨by omega, by omega, ?_⟩
        intro one
        rw [if_neg (by omega)] at maximum
        exact maximum.symm
      · cases read
  · intro fits
    have small := fits.flag
    have across := fits.across
    have flag : int ((components.1 - 1) + (components.2 - 1) * 9) = some ((components.1 - 1) + (components.2 - 1) * 9) :=
      int_of_lt (by omega)
    obtain ⟨size, limit, first, others, written, writes⟩ := blurHash_writes quantised flag
    have whole := Nat.mod_eq_of_lt small
    have numX : ((components.1 - 1) + (components.2 - 1) * 9) % 83 % 9 + 1 = components.1 := by
      rw [whole]
      omega
    have numY : ((components.1 - 1) + (components.2 - 1) * 9) % 83 / 9 + 1 = components.2 := by
      rw [whole]
      omega
    have total : 6 + 2 * ac.length = 4 + 2 * components.1 * components.2 := by
      rw [Nat.mul_assoc]
      omega
    have maximum : (if ac.length > 0 then quantisedMaximumValue else 0) = quantisedMaximumValue := by
      by_cases one : components.1 * components.2 = 1
      · rw [if_neg (by omega), fits.maximum one]
      · rw [if_pos (by omega)]
    refine ⟨_, written, writes.length.trans total, ?_⟩
    rw [writes.read quantised.dc quantised.ac, numX, numY, if_pos total, maximum]

theorem blurHash_reads_back_fourByThree :
    (ReadsBack (4, 3) 82 (255, 128, 0) (List.replicate 11 (9, 18, 0)) ↔ Fits (4, 3) 82) ∧
      (encode83 6888 2 >>= decode83 = some 6888 ↔ 2 ≤ 10) := by
  have quantised : Quantised 82 (255, 128, 0) (List.replicate 11 (9, 18, 0)) :=
    ⟨by decide, by decide, fun factor member => by rw [List.eq_of_mem_replicate member]; decide⟩
  exact blurHash_reads_back_iff (by decide) (by decide) rfl quantised (by decide) (by decide) (by decide)

/-- Ten components across are read as one across and two down, which is too few for the text. -/
theorem ten_across_not_read_back :
    Quantised 0 (0, 0, 0) (List.replicate 9 (9, 9, 9)) ∧ ¬ ReadsBack (10, 1) 0 (0, 0, 0) (List.replicate 9 (9, 9, 9)) := by
  refine ⟨⟨by decide, by decide, fun factor member => by rw [List.eq_of_mem_replicate member]; decide⟩, ?_⟩
  rintro ⟨hash, written, _, read⟩
  have unread : (blurHash (10, 1) 0 (0, 0, 0) (List.replicate 9 (9, 9, 9))).bind initBlurHash = some none := by
    decide +kernel
  rw [written, Option.bind_some, read] at unread
  cases unread

end RoundTrip

end SignalPods.BlurHash
