import SignalPods.WebP.BooleanReading

namespace SignalPods.WebP

open Foundation

section Variants

variable {BITS : Nat} {br : VP8BitReader}

/-- The window is below the range. While there are bits to come, the range is a
multiple of what they will make of the value. -/
structure Inside (br : VP8BitReader) : Prop where
  large : 127 ≤ br.range
  small : br.range ≤ 254
  near : -8 ≤ br.bits
  window : 0 ≤ br.bits → br.value < (br.range + 1) * 2 ^ br.bits.toNat
  coming : br.bits < 0 → ∃ parts, br.range + 1 = parts * 2 ^ (-br.bits).toNat ∧ br.value < parts
  bytes : ∀ byte ∈ br.buf, byte < 256

/-- More bits keep the window below the range. -/
theorem Inside.loaded (inside : Inside br) (behind : br.bits < 0) {m low : Nat} (positive : 0 < m)
    (below : low < 2 ^ (8 * m)) {buf : List Nat} (bytes : ∀ byte ∈ buf, byte < 256) (eof : Bool) :
    Inside { br with
        value := br.value * 2 ^ (8 * m) + low, bits := br.bits + (8 * m : Nat), buf := buf, eof := eof } ∧
      0 ≤ br.bits + (8 * m : Nat) := by
  obtain ⟨parts, range, less⟩ := inside.coming behind
  have near := inside.near
  have enough : 0 ≤ br.bits + (8 * m : Nat) := by omega
  have apart : 8 * m = (-br.bits).toNat + (br.bits + (8 * m : Nat)).toNat := by omega
  have step : (br.value + 1) * 2 ^ (8 * m) ≤ parts * 2 ^ (8 * m) := Nat.mul_le_mul_right _ less
  have same : parts * 2 ^ (8 * m) = (br.range + 1) * 2 ^ (br.bits + (8 * m : Nat)).toNat := by
    rw [range, Nat.mul_assoc, ← Nat.pow_add, ← apart]
  rw [Nat.add_mul, Nat.one_mul] at step
  refine ⟨⟨inside.large, inside.small, ?_, fun _ => ?_, fun less => absurd less (not_lt.mpr enough), bytes⟩, enough⟩
  · show -8 ≤ br.bits + (8 * m : Nat)
    omega
  · show br.value * 2 ^ (8 * m) + low < (br.range + 1) * 2 ^ (br.bits + (8 * m : Nat)).toNat
    omega

theorem Inside.value_lt (inside : Inside br) (behind : br.bits < 0) : br.value < br.range + 1 := by
  obtain ⟨parts, range, less⟩ := inside.coming behind
  have one : parts ≤ parts * 2 ^ (-br.bits).toNat := Nat.le_mul_of_pos_right _ (Nat.two_pow_pos _)
  omega

/-- Past the end of the bytes the window stays below the range too. -/
theorem Inside.loadNewBytes (inside : Inside br) (valid : ValidBITS BITS) (behind : br.bits < 0) :
    Inside (VP8LoadNewBytes BITS br) ∧ 0 ≤ (VP8LoadNewBytes BITS br).bits ∧
      (VP8LoadNewBytes BITS br).range = br.range := by
  obtain ⟨wide, room⟩ := registers_fit valid
  have small := inside.small
  have fits : br.value < 2 ^ 8 := (inside.value_lt behind).trans_le (by omega)
  obtain ⟨count, positive, most, rfl⟩ := valid
  unfold VP8LoadNewBytes
  by_cases fast : lbit_t (8 * count) ≤ br.buf.length
  · have enough : count ≤ lbit_t (8 * count) := by omega
    have word := shiftRight_take inside.bytes enough fast
    have below : positionalValue 256 0 (br.buf.take count) < 2 ^ (8 * count) := by
      have less := positionalValue_lt fun byte member => inside.bytes byte (List.mem_of_mem_take (i := count) member)
      rw [List.length_take, Nat.min_eq_left (enough.trans fast), bytes_pow] at less
      exact less
    rw [if_pos fast, word]
    dsimp only
    rw [or_shiftLeft fits room below]
    obtain ⟨kept, enough⟩ := inside.loaded behind positive below
      (fun byte member => inside.bytes byte (List.mem_of_mem_drop member)) br.eof
    exact ⟨kept, enough, rfl⟩
  · rw [if_neg fast, VP8LoadFinalBytes]
    cases first : br.buf with
    | cons byte rest =>
      have below : byte < 2 ^ 8 := inside.bytes byte (by rw [first]; exact List.mem_cons_self)
      dsimp only
      rw [or_shiftLeft fits (by omega) below]
      obtain ⟨kept, enough⟩ := inside.loaded behind Nat.one_pos below
        (fun other member => inside.bytes other (by rw [first]; exact List.mem_cons_of_mem _ member)) br.eof
      exact ⟨kept, enough, rfl⟩
    | nil =>
      have none : ∀ byte ∈ ([] : List Nat), byte < 256 := fun _ member => absurd member List.not_mem_nil
      dsimp only
      split_ifs with eof
      · refine ⟨⟨inside.large, small, ?_, fun _ => ?_, fun less => absurd less (lt_irrefl 0), none⟩, le_refl 0, rfl⟩
        · show (-8 : Int) ≤ 0
          omega
        · show br.value < (br.range + 1) * 2 ^ 0
          rw [Nat.pow_zero, Nat.mul_one]
          exact inside.value_lt behind
      · have zero : 0 ||| br.value <<< 8 % 2 ^ bit_t (8 * count) = br.value * 2 ^ 8 + 0 :=
          or_shiftLeft fits (by omega) (by decide)
        rw [Nat.zero_or] at zero
        rw [zero]
        obtain ⟨kept, enough⟩ := inside.loaded behind Nat.one_pos (Nat.two_pow_pos _) none true
        exact ⟨kept, enough, rfl⟩

theorem Inside.ahead (inside : Inside br) (valid : ValidBITS BITS) :
    Inside (withBits BITS br) ∧ 0 ≤ (withBits BITS br).bits ∧ (withBits BITS br).range = br.range := by
  unfold withBits
  by_cases behind : br.bits < 0
  · rw [if_pos behind]
    exact inside.loadNewBytes valid behind
  · rw [if_neg behind]
    exact ⟨inside, not_lt.mp behind, rfl⟩

/-- The size of the part of the range that a window is in. -/
def windowPart (range prob : Nat) (bit : Bool) : Nat :=
  if bit then range - (range * prob) >>> 8 else (range * prob) >>> 8 + 1

theorem windowPart_bounds {range prob : Nat} (bit : Bool) (large : 127 ≤ range) (small : range ≤ 254)
    (known : prob ≤ 255) : 0 < windowPart range prob bit ∧ windowPart range prob bit ≤ range := by
  have inside := splitSize_lt (by omega : 128 ≤ range + 1) (by omega) known
  unfold splitSize at inside
  rw [Nat.add_sub_cancel] at inside
  unfold windowPart
  split_ifs
  · exact ⟨by omega, by omega⟩
  · exact ⟨by omega, by omega⟩

theorem Inside.getBit (inside : Inside br) (valid : ValidBITS BITS) {prob : Nat} (known : prob ≤ 255) :
    Inside (VP8GetBit BITS br prob).2 ∧ (VP8GetBit BITS br prob).2.range ≤ 253 := by
  obtain ⟨loaded, enough, _⟩ := inside.ahead valid
  unfold VP8GetBit
  dsimp only
  generalize withBits BITS br = br' at *
  have window := loaded.window enough
  have narrow : br'.value >>> br'.bits.toNat ≤ br'.range := by
    rw [Nat.shiftRight_eq_div_pow]
    exact Nat.lt_succ_iff.mp ((Nat.div_lt_iff_lt_mul (Nat.two_pow_pos _)).mpr window)
  have small := loaded.small
  rw [Nat.mod_eq_of_lt (by omega : br'.value >>> br'.bits.toNat < 2 ^ 32)]
  generalize decided : decide ((br'.range * prob) >>> 8 < br'.value >>> br'.bits.toNat) = bit
  have part : (if bit = true then br'.range - (br'.range * prob) >>> 8 else (br'.range * prob) >>> 8 + 1) =
      windowPart br'.range prob bit := rfl
  have shift : 7 ^^^ (windowPart br'.range prob bit).log2 = normShift (windowPart br'.range prob bit) := rfl
  obtain ⟨positive, most⟩ := windowPart_bounds bit loaded.large small known
  obtain ⟨half, whole, few⟩ := shifted_bounds positive (by omega)
  have below : (if bit = true then br'.value - ((br'.range * prob) >>> 8 + 1) * 2 ^ br'.bits.toNat else br'.value) <
      windowPart br'.range prob bit * 2 ^ br'.bits.toNat := by
    rw [Nat.shiftRight_eq_div_pow br'.value] at decided
    cases bit with
    | false =>
      have notAbove := of_decide_eq_false decided
      exact (Nat.div_lt_iff_lt_mul (Nat.two_pow_pos _)).mp
        (by rw [← part]; exact Nat.lt_succ_of_le (not_lt.mp notAbove))
    | true =>
      have above := (Nat.le_div_iff_mul_le (Nat.two_pow_pos _)).mp (of_decide_eq_true decided : _ + 1 ≤ _)
      have sum : windowPart br'.range prob true + ((br'.range * prob) >>> 8 + 1) = br'.range + 1 := by
        rw [← part, if_pos rfl]
        rw [← part, if_pos rfl] at positive
        omega
      rw [if_pos rfl, Nat.sub_lt_iff_lt_add above, ← Nat.add_mul, sum]
      exact window
  have least := shifted_le positive (by omega)
  rw [part, shift, Nat.shiftLeft_eq, Nat.shiftLeft_eq]
  have near := loaded.near
  generalize windowPart br'.range prob bit = size at *
  generalize normShift size = k at *
  have range : size * 2 ^ k - 1 + 1 = size * 2 ^ k := by omega
  refine ⟨⟨?_, ?_, ?_, fun later => ?_, fun behind => ⟨size * 2 ^ br'.bits.toNat, ?_, below⟩, loaded.bytes⟩, ?_⟩
  · show 127 ≤ size * 2 ^ k - 1
    omega
  · show size * 2 ^ k - 1 ≤ 254
    omega
  · show -8 ≤ br'.bits - k
    omega
  · have apart : br'.bits.toNat = k + (br'.bits - k).toNat := by
      have later' : 0 ≤ br'.bits - k := later
      omega
    show _ < (size * 2 ^ k - 1 + 1) * 2 ^ (br'.bits - k).toNat
    rw [range, Nat.mul_assoc, ← Nat.pow_add, ← apart]
    exact below
  · have apart : k = br'.bits.toNat + (-(br'.bits - k)).toNat := by
      have behind' : br'.bits - k < 0 := behind
      omega
    show size * 2 ^ k - 1 + 1 = size * 2 ^ br'.bits.toNat * 2 ^ (-(br'.bits - k)).toNat
    rw [range, Nat.mul_assoc, ← Nat.pow_add, ← apart]
  · show size * 2 ^ k - 1 ≤ 253
    omega

/-- The tables shift as the logarithm does. -/
theorem VP8GetBitAlt_eq (inside : Inside br) (valid : ValidBITS BITS) {prob : Nat} (known : prob ≤ 255) :
    VP8GetBitAlt BITS br prob = VP8GetBit BITS br prob := by
  obtain ⟨loaded, _, _⟩ := inside.ahead valid
  unfold VP8GetBitAlt VP8GetBit
  dsimp only
  generalize withBits BITS br = br' at *
  generalize decide ((br'.range * prob) >>> 8 < br'.value >>> br'.bits.toNat % 2 ^ 32) = bit
  obtain ⟨positive, most⟩ := windowPart_bounds bit loaded.large loaded.small known
  have small := loaded.small
  have part : (if bit = true then br'.range - (br'.range * prob) >>> 8 else (br'.range * prob) >>> 8 + 1) =
      windowPart br'.range prob bit := rfl
  have less : (if bit = true then br'.range - ((br'.range * prob) >>> 8 + 1) else (br'.range * prob) >>> 8) + 1 =
      windowPart br'.range prob bit := by
    rw [← part] at positive ⊢
    cases bit with
    | false => rfl
    | true =>
      rw [if_pos rfl] at positive
      show br'.range - ((br'.range * prob) >>> 8 + 1) + 1 = br'.range - (br'.range * prob) >>> 8
      omega
  have shift : 7 ^^^ (windowPart br'.range prob bit).log2 = normShift (windowPart br'.range prob bit) := rfl
  rw [part, shift, Nat.shiftLeft_eq (windowPart br'.range prob bit)]
  generalize (if bit = true then br'.range - ((br'.range * prob) >>> 8 + 1) else (br'.range * prob) >>> 8) = range at *
  generalize windowPart br'.range prob bit = size at *
  by_cases low : range ≤ 0x7e
  · obtain ⟨norm, renewed⟩ := kNorm_eq (by omega : range < 127)
    rw [less] at norm renewed
    have shifted : size * 2 ^ normShift size - 1 = kVP8NewRange.getD range 0 := Nat.sub_eq_of_eq_add renewed.symm
    have log : kVP8Log2Range.getD range 0 = normShift size := norm
    rw [if_pos low, shifted, log]
  · have whole : normShift size = 0 := normShift_of_large (by omega) (by omega)
    have same : size * 2 ^ 0 - 1 = range := by omega
    rw [if_neg low, whole, same]
    simp

/-- A sign is read as a bit of probability one half, once the range is not the first one. -/
theorem VP8GetSigned_eq (inside : Inside br) (valid : ValidBITS BITS) (less : br.range ≤ 253) (v : Int) :
    VP8GetSigned BITS br v =
      (withMask v (VP8GetBit BITS br 0x80).1, (VP8GetBit BITS br 0x80).2) := by
  obtain ⟨loaded, enough, same⟩ := inside.ahead valid
  rw [← same] at less
  unfold VP8GetSigned VP8GetBit
  dsimp only
  generalize withBits BITS br = br' at *
  have window := loaded.window enough
  have narrow : br'.value >>> br'.bits.toNat ≤ br'.range := by
    rw [Nat.shiftRight_eq_div_pow]
    exact Nat.lt_succ_iff.mp ((Nat.div_lt_iff_lt_mul (Nat.two_pow_pos _)).mpr window)
  have half : (br'.range * 0x80) >>> 8 = br'.range >>> 1 := by
    rw [Nat.shiftRight_eq_div_pow, Nat.shiftRight_eq_div_pow]
    omega
  have halved : br'.range >>> 1 ≤ br'.range := Nat.shiftRight_le _ _
  have sign : decide (2 ^ 31 ≤ (br'.range >>> 1 + 2 ^ 32 - br'.value >>> br'.bits.toNat) % 2 ^ 32) =
      decide (br'.range >>> 1 < br'.value >>> br'.bits.toNat) := by
    rw [decide_eq_decide]
    generalize br'.range >>> 1 = split at *
    generalize br'.value >>> br'.bits.toNat = value at *
    omega
  have wide : br'.value >>> br'.bits.toNat % 2 ^ 32 = br'.value >>> br'.bits.toNat := Nat.mod_eq_of_lt (by omega)
  rw [wide, half, sign]
  generalize decide (br'.range >>> 1 < br'.value >>> br'.bits.toNat) = bit
  have part : (if bit = true then br'.range - br'.range >>> 1 else br'.range >>> 1 + 1) =
      windowPart br'.range 0x80 bit := by
    unfold windowPart
    rw [half]
  have shift : 7 ^^^ (windowPart br'.range 0x80 bit).log2 = normShift (windowPart br'.range 0x80 bit) := rfl
  have all : ∀ n < 127, ∀ bit, normShift (windowPart (127 + n) 0x80 bit) = 1 ∧
      (if bit = true then 127 + n - 1 else 127 + n) ||| 1 = windowPart (127 + n) 0x80 bit * 2 ^ 1 - 1 := by decide
  obtain ⟨one, range⟩ := all (br'.range - 127) (by omega) bit
  rw [Nat.add_sub_cancel' loaded.large] at one range
  rw [part, shift, one, Nat.shiftLeft_eq (windowPart br'.range 0x80 bit), range]
  rfl

theorem inside_init {bytes : List Nat} (valid : ValidBITS BITS) (each : ∀ byte ∈ bytes, byte < 256)
    (first : bytes.head? ≠ some 255) : Inside (VP8InitBitReader BITS bytes) := by
  obtain ⟨wide, room⟩ := registers_fit valid
  obtain ⟨count, positive, most, rfl⟩ := valid
  have zero : (0 : Nat) < 2 ^ 8 := by decide
  have known (buf : List Nat) (m value : Nat) (eof : Bool) (fits : value < 255 * 2 ^ (8 * m))
      (bytes : ∀ byte ∈ buf, byte < 256) :
      Inside { range := 254, value := value, bits := (8 * m : Nat), eof := eof, buf := buf } := by
    have bounds : 127 ≤ 254 ∧ 254 ≤ 254 := by decide
    refine ⟨bounds.1, bounds.2, ?_, fun _ => ?_, fun behind => ?_, bytes⟩
    · show (-8 : Int) ≤ (8 * m : Nat)
      omega
    · exact fits
    · have less : ((8 * m : Nat) : Int) < 0 := behind
      omega
  unfold VP8InitBitReader VP8LoadNewBytes
  dsimp only
  by_cases fast : lbit_t (8 * count) ≤ bytes.length
  · have enough : count ≤ lbit_t (8 * count) := by omega
    have word := shiftRight_take each enough fast
    have less : positionalValue 256 0 (bytes.take count) < 255 * 2 ^ (8 * (count - 1)) := by
      cases bytes with
      | nil => exact absurd (enough.trans fast) (by rw [List.length_nil]; omega)
      | cons byte rest =>
        obtain ⟨more, rfl⟩ := Nat.exists_eq_succ_of_ne_zero positive.ne'
        obtain ⟨here, later⟩ := List.forall_mem_cons.mp each
        have notFull : byte ≠ 255 := fun full => first (congrArg some full)
        have below := positionalValue_lt fun other member => later other (List.mem_of_mem_take (i := more) member)
        have length : (rest.take more).length = more := by
          rw [List.length_take]
          rw [List.length_cons] at fast
          omega
        rw [length, bytes_pow] at below
        have value : positionalValue 256 0 (List.take (more + 1) (byte :: rest)) =
            byte * 256 ^ (rest.take more).length + positionalValue 256 0 (rest.take more) := by
          rw [List.take_succ_cons, ← positionalValue_start]
          simp [positionalValue]
        have step : (byte + 1) * 2 ^ (8 * more) ≤ 255 * 2 ^ (8 * more) := Nat.mul_le_mul_right _ (by omega)
        rw [Nat.add_mul, Nat.one_mul] at step
        rw [value, length, bytes_pow, Nat.succ_sub_one]
        omega
    have below : positionalValue 256 0 (bytes.take count) < 2 ^ (8 * count) := by
      have apart : 8 * count = 8 + 8 * (count - 1) := by omega
      rw [apart, Nat.pow_add]
      exact less.trans_le (Nat.mul_le_mul_right _ (by decide))
    have bits : (-8 : Int) + (8 * count : Nat) = (8 * (count - 1) : Nat) := by omega
    rw [if_pos fast, word, or_shiftLeft zero room below, bits, Nat.zero_mul, Nat.zero_add]
    exact known _ _ _ _ less fun byte member => each byte (List.mem_of_mem_drop member)
  · rw [if_neg fast, VP8LoadFinalBytes]
    cases bytes with
    | nil => exact known [] 0 0 true (by decide) each
    | cons byte rest =>
      obtain ⟨here, later⟩ := List.forall_mem_cons.mp each
      have notFull : byte ≠ 255 := fun full => first (congrArg some full)
      dsimp only
      rw [or_shiftLeft zero (by omega) (here : byte < 2 ^ 8), Nat.zero_mul, Nat.zero_add]
      exact known rest 0 byte false (by omega) later

/-- A read by one of the three functions. -/
inductive BitRead
  | plain (prob : Nat)
  | alt (prob : Nat)
  | signed (v : Int)
  deriving DecidableEq, Repr

namespace BitRead

def perform (BITS : Nat) (br : VP8BitReader) : BitRead → VP8BitReader
  | .plain prob => (VP8GetBit BITS br prob).2
  | .alt prob => (VP8GetBitAlt BITS br prob).2
  | .signed v => (VP8GetSigned BITS br v).2

/-- The probability of a read. -/
def prob : BitRead → Nat
  | .plain prob | .alt prob => prob
  | .signed _ => 0x80

def isSigned : BitRead → Bool
  | .signed _ => true
  | _ => false

/-- A reader inside its range is left by each of the three as by the plain one. -/
theorem perform_eq (inside : Inside br) (valid : ValidBITS BITS) {read : BitRead} (known : read.prob ≤ 255)
    (later : read.isSigned = true → br.range ≤ 253) : read.perform BITS br = (VP8GetBit BITS br read.prob).2 := by
  cases read with
  | plain prob => rfl
  | alt prob => exact congrArg Prod.snd (VP8GetBitAlt_eq inside valid known)
  | signed v => exact congrArg Prod.snd (VP8GetSigned_eq inside valid (later rfl) v)

end BitRead

def getBits (BITS : Nat) (br : VP8BitReader) (reads : List BitRead) : VP8BitReader :=
  reads.foldl (BitRead.perform BITS) br

/-- Reads of any kind keep the window below the range, if no sign is read while the
range is the first one. -/
theorem Inside.getBits (inside : Inside br) (valid : ValidBITS BITS) {reads : List BitRead}
    (known : ∀ read ∈ reads, read.prob ≤ 255)
    (later : ∀ read ∈ reads.head?, read.isSigned = true → br.range ≤ 253) :
    Inside (getBits BITS br reads) ∧ (reads ≠ [] → (WebP.getBits BITS br reads).range ≤ 253) := by
  induction reads generalizing br with
  | nil => exact ⟨inside, fun none => absurd rfl none⟩
  | cons read reads ih =>
    obtain ⟨here, rest⟩ := List.forall_mem_cons.mp known
    obtain ⟨next, less⟩ := inside.getBit valid here
    rw [← BitRead.perform_eq inside valid here (later read rfl)] at next less
    obtain ⟨last, lessLast⟩ := ih next rest fun _ _ _ => less
    refine ⟨last, fun _ => ?_⟩
    cases reads with
    | nil => exact less
    | cons other reads => exact lessLast (List.cons_ne_nil other reads)

/-- After any reads from any bytes, by the three in turn and past the end of the bytes
too, the reader with tables reads what the plain one reads; and so does the one for
signs when a bit was read before. -/
theorem readers_agree (valid : ValidBITS BITS) {bytes : List Nat} (each : ∀ byte ∈ bytes, byte < 256)
    (first : bytes.head? ≠ some 255) {reads : List BitRead} (known : ∀ read ∈ reads, read.prob ≤ 255)
    (bit : ∀ read ∈ reads.head?, read.isSigned = false) (next : Nat) (nextKnown : next ≤ 255) (v : Int) :
    VP8GetBitAlt BITS (getBits BITS (VP8InitBitReader BITS bytes) reads) next =
        VP8GetBit BITS (getBits BITS (VP8InitBitReader BITS bytes) reads) next ∧
      (reads ≠ [] →
        VP8GetSigned BITS (getBits BITS (VP8InitBitReader BITS bytes) reads) v =
          (withMask v (VP8GetBit BITS (getBits BITS (VP8InitBitReader BITS bytes) reads) 0x80).1,
            (VP8GetBit BITS (getBits BITS (VP8InitBitReader BITS bytes) reads) 0x80).2)) := by
  have later : ∀ read ∈ reads.head?, read.isSigned = true → (VP8InitBitReader BITS bytes).range ≤ 253 := by
    intro read member sign
    rw [bit read member] at sign
    cases sign
  obtain ⟨inside, less⟩ := (inside_init valid each first).getBits valid known later
  exact ⟨VP8GetBitAlt_eq inside valid nextKnown, fun some => VP8GetSigned_eq inside valid (less some) v⟩

theorem readers_agree_twoBytes :
    VP8GetBitAlt 56 (getBits 56 (VP8InitBitReader 56 [200, 17]) [.plain 128, .signed 5, .alt 3]) 77 =
        VP8GetBit 56 (getBits 56 (VP8InitBitReader 56 [200, 17]) [.plain 128, .signed 5, .alt 3]) 77 ∧
      VP8GetSigned 56 (getBits 56 (VP8InitBitReader 56 [200, 17]) [.plain 128, .signed 5, .alt 3]) 1 =
        (withMask 1 (VP8GetBit 56 (getBits 56 (VP8InitBitReader 56 [200, 17]) [.plain 128, .signed 5, .alt 3]) 0x80).1,
          (VP8GetBit 56 (getBits 56 (VP8InitBitReader 56 [200, 17]) [.plain 128, .signed 5, .alt 3]) 0x80).2) := by
  have each : ∀ byte ∈ [200, 17], byte < 256 := by decide
  have known : ∀ read ∈ [BitRead.plain 128, .signed 5, .alt 3], read.prob ≤ 255 := by decide
  obtain ⟨alt, signed⟩ := readers_agree (⟨7, by decide, by decide, rfl⟩ : ValidBITS 56) each (by decide) known
    (by decide) 77 (by decide) 1
  exact ⟨alt, signed (List.cons_ne_nil _ _)⟩

end Variants

end SignalPods.WebP
