import Mathlib.Data.Nat.Bitwise
import SignalPods.Foundation.IntervalCoding
import SignalPods.WebP.BooleanCoder

namespace SignalPods.WebP

open Foundation

/-- The size of the part of the range for a bit that is not set. -/
def splitSize (size prob : Nat) : Nat := ((size - 1) * prob) >>> 8 + 1

/-- How far a part is shifted to have its highest bit where that of the range is. -/
def normShift (size : Nat) : Nat := 7 ^^^ size.log2

section Sizes

theorem splitSize_pos (size prob : Nat) : 0 < splitSize size prob := Nat.succ_pos _

theorem splitSize_lt {size prob : Nat} (large : 128 ≤ size) (small : size ≤ 255) (known : prob ≤ 255) :
    splitSize size prob < size := by
  have most : (size - 1) * prob ≤ (size - 1) * 255 := Nat.mul_le_mul_left _ known
  unfold splitSize
  rw [Nat.shiftRight_eq_div_pow]
  omega

theorem log2_le {size : Nat} (positive : 0 < size) (small : size ≤ 255) : size.log2 ≤ 7 := by
  have less : size.log2 < 8 := (Nat.log2_lt (by omega)).mpr (by omega)
  omega

theorem normShift_eq {size : Nat} (positive : 0 < size) (small : size ≤ 255) : normShift size = 7 - size.log2 := by
  have least := log2_le positive small
  unfold normShift
  generalize size.log2 = log at least
  revert least
  revert log
  decide

/-- A part is shifted until it is at least half of the range there is. -/
theorem shifted_bounds {size : Nat} (positive : 0 < size) (small : size ≤ 255) :
    128 ≤ size * 2 ^ normShift size ∧ size * 2 ^ normShift size ≤ 255 ∧ normShift size ≤ 7 := by
  have least := log2_le positive small
  have lower := Nat.log2_self_le (by omega : size ≠ 0)
  have upper : size < 2 ^ (size.log2 + 1) := (Nat.log2_lt (by omega)).mp (Nat.lt_succ_self _)
  have whole : 2 ^ size.log2 * 2 ^ (7 - size.log2) = 128 := by
    rw [← Nat.pow_add, Nat.add_sub_cancel' least]
  rw [normShift_eq positive small]
  refine ⟨?_, ?_, by omega⟩
  · rw [← whole]
    exact Nat.mul_le_mul_right _ lower
  · have less : size + 1 ≤ 2 ^ size.log2 * 2 := by
      rw [← Nat.pow_succ]
      exact upper
    have scaled := Nat.mul_le_mul_right (2 ^ (7 - size.log2)) less
    have one := Nat.one_le_two_pow (n := 7 - size.log2)
    rw [Nat.add_mul, Nat.one_mul, Nat.mul_right_comm, whole] at scaled
    omega

/-- A part that is not the whole range does not become it. -/
theorem shifted_le {size : Nat} (positive : 0 < size) (small : size ≤ 254) : size * 2 ^ normShift size ≤ 254 := by
  obtain ⟨_, most, _⟩ := shifted_bounds positive (by omega)
  cases shift : normShift size with
  | zero =>
    rw [Nat.pow_zero, Nat.mul_one]
    exact small
  | succ shift' =>
    rw [shift, Nat.pow_succ, ← Nat.mul_assoc] at most
    rw [Nat.pow_succ, ← Nat.mul_assoc]
    omega

theorem normShift_of_large {size : Nat} (large : 128 ≤ size) (small : size ≤ 255) : normShift size = 0 := by
  obtain ⟨_, most, _⟩ := shifted_bounds (by omega) small
  by_contra some
  have twice : 2 ^ 1 ≤ 2 ^ normShift size := Nat.pow_le_pow_right (by omega) (by omega)
  have more := Nat.mul_le_mul_left size twice
  omega

/-- The tables shift as far as the logarithm says. -/
theorem kNorm_eq {range : Nat} (small : range < 127) :
    kNorm.getD range 0 = normShift (range + 1) ∧
      kNewRange.getD range 0 + 1 = (range + 1) * 2 ^ normShift (range + 1) := by
  have all : ∀ range < 127, kNorm.getD range 0 = normShift (range + 1) ∧
      kNewRange.getD range 0 + 1 = (range + 1) * 2 ^ normShift (range + 1) := by decide +kernel
  exact all range small

end Sizes

section Writing

variable {grants : Nat → Bool} {t : Nat} {i : CodeInterval} {bw : VP8BitWriter}

/-- What was written, with the bytes that are held back. -/
def written (bw : VP8BitWriter) : Nat := positionalValue 256 0 (bw.buf ++ List.replicate bw.run 255)

/-- The bytes and the value make up the lower end of an interval. A carry can still
come, but only one, and it does not go past the first byte. -/
structure Writes (t : Nat) (i : CodeInterval) (bw : VP8BitWriter) : Prop where
  nb_bits : bw.nb_bits = t - 8
  low : i.low = written bw * 2 ^ (t + 8) + bw.value
  size : i.size = bw.range + 1
  depth : i.depth = 8 * (bw.buf.length + bw.run) + t + 8
  bounded : bw.value + bw.range + 1 ≤ 511 * 2 ^ t
  inside : i.low + i.size ≤ 2 ^ i.depth
  last : bw.buf.getLast? ≠ some 255
  bytes : ∀ byte ∈ bw.buf, byte < 256

theorem Writes.taken (writes : Writes t i bw) {split : Nat} (inside : split < bw.range) (bit : Bool) :
    Writes t (i.narrow (split + 1) bit) (takePart bw bit split) := by
  obtain ⟨nb_bits, low, size, depth, bounded, within, last, bytes⟩ := writes
  cases bit with
  | false =>
    refine ⟨nb_bits, low, rfl, depth, ?_, ?_, last, bytes⟩
    · show bw.value + split + 1 ≤ 511 * 2 ^ t
      omega
    · show i.low + (split + 1) ≤ 2 ^ i.depth
      omega
  | true =>
    refine ⟨nb_bits, ?_, ?_, depth, ?_, ?_, last, bytes⟩
    · show i.low + (split + 1) = written bw * 2 ^ (t + 8) + (bw.value + (split + 1))
      omega
    · show i.size - (split + 1) = bw.range - (split + 1) + 1
      omega
    · show bw.value + (split + 1) + (bw.range - (split + 1)) + 1 ≤ 511 * 2 ^ t
      omega
    · show i.low + (split + 1) + (i.size - (split + 1)) ≤ 2 ^ i.depth
      omega

theorem Writes.scale (writes : Writes t i bw) {shift range : Nat} (scaled : range + 1 = (bw.range + 1) * 2 ^ shift) :
    Writes (t + shift) (i.scale shift)
      { bw with range := range, value := bw.value <<< shift, nb_bits := bw.nb_bits + shift } := by
  obtain ⟨nb_bits, low, size, depth, bounded, within, last, bytes⟩ := writes
  refine ⟨?_, ?_, ?_, ?_, ?_, ?_, last, bytes⟩
  · show bw.nb_bits + shift = (t + shift : Nat) - 8
    omega
  · show i.low * 2 ^ shift = written bw * 2 ^ (t + shift + 8) + bw.value <<< shift
    rw [low, Nat.shiftLeft_eq, Nat.add_mul, Nat.mul_assoc, ← Nat.pow_add, Nat.add_right_comm]
  · show i.size * 2 ^ shift = range + 1
    rw [scaled, size]
  · show i.depth + shift = 8 * (bw.buf.length + bw.run) + (t + shift) + 8
    omega
  · show bw.value <<< shift + range + 1 ≤ 511 * 2 ^ (t + shift)
    rw [Nat.shiftLeft_eq, Nat.add_assoc, scaled, ← Nat.add_mul, Nat.pow_add, ← Nat.mul_assoc]
    exact Nat.mul_le_mul_right _ bounded
  · show i.low * 2 ^ shift + i.size * 2 ^ shift ≤ 2 ^ (i.depth + shift)
    rw [← Nat.add_mul, Nat.pow_add]
    exact Nat.mul_le_mul_right _ within

theorem and_carry {bits : Nat} (small : bits < 512) : bits &&& 0x100 ≠ 0 ↔ 256 ≤ bits := by
  have bit : 2 ^ 8 &&& bits = 2 ^ 8 * (bits.testBit 8).toNat := Nat.two_pow_and bits 8
  have high : bits.testBit 8 = decide (bits / 2 ^ 8 % 2 = 1) := Nat.testBit_eq_decide_div_mod_eq
  show bits &&& 2 ^ 8 ≠ 0 ↔ 256 ≤ bits
  rw [Nat.and_comm, bit, high]
  by_cases carry : bits / 2 ^ 8 % 2 = 1
  · rw [decide_eq_true carry]
    exact iff_of_true (by decide) (by omega)
  · rw [decide_eq_false carry]
    exact iff_of_false (by decide) (by omega)

/-- What a flush does: a byte of ones is held back, the memory for the bytes is
refused, or they are written with the carry. -/
theorem Flush_cases (grants : Nat → Bool) {bits rest : Nat} (shifted : bw.nb_bits = t - 8)
    (value : bw.value = bits * 2 ^ t + rest)
    (less : rest < 2 ^ t) (small : bits < 512) :
    (bits % 256 = 255 ∧ Flush grants bw = { bw with value := rest, nb_bits := bw.nb_bits - 8, run := bw.run + 1 }) ∨
      bits % 256 ≠ 255 ∧
        ((∃ asked, grants asked = false) ∧ (Flush grants bw).error = true ∨
          ∃ max_pos asked, Flush grants bw = { bw with
            value := rest, nb_bits := bw.nb_bits - 8, run := 0, max_pos := max_pos, asked := asked,
            buf := (if 256 ≤ bits then bw.buf.modify (bw.buf.length - 1) fun byte => (byte + 1) % 256 else bw.buf) ++
              List.replicate bw.run (if 256 ≤ bits then 0x00 else 0xff) ++ [bits % 256] }) := by
  have s : (8 + bw.nb_bits).toNat = t := by omega
  have top : bw.value >>> t = bits := by
    rw [Nat.shiftRight_eq_div_pow, value, Nat.add_comm, Nat.add_mul_div_right _ _ (Nat.two_pow_pos t),
      Nat.div_eq_of_lt less, Nat.zero_add]
  have bottom : bw.value - bits <<< t = rest := by
    rw [Nat.shiftLeft_eq, value, Nat.add_sub_cancel_left]
  have low : bits &&& 0xff = bits % 256 := Nat.and_two_pow_sub_one_eq_mod bits 8
  unfold Flush
  simp only [s, top, bottom, low, and_carry small]
  by_cases pending : bits % 256 = 255
  · exact Or.inl ⟨pending, if_pos pending⟩
  · rw [if_neg pending]
    refine Or.inr ⟨pending, ?_⟩
    unfold BitWriterResize
    dsimp only
    by_cases enough : bw.buf.length + (bw.run + 1) ≤ bw.max_pos
    · rw [if_pos enough]
      exact Or.inr ⟨bw.max_pos, bw.asked, rfl⟩
    · rw [if_neg enough]
      cases granted : grants bw.asked with
      | false => exact Or.inl ⟨⟨bw.asked, granted⟩, rfl⟩
      | true => exact Or.inr ⟨_, _, rfl⟩

theorem written_eq (bw : VP8BitWriter) :
    written bw + 1 = positionalValue 256 0 bw.buf * 256 ^ bw.run + 256 ^ bw.run := by
  have highest : positionalValue 256 0 (List.replicate bw.run 255) + 1 = 256 ^ bw.run := positionalValue_highest bw.run
  unfold written
  rw [positionalValue_append, positionalValue_start, List.length_replicate, Nat.add_assoc, highest]

theorem modify_last (front : List Nat) (byte : Nat) (f : Nat → Nat) :
    (front ++ [byte]).modify front.length f = front ++ [f byte] := by
  induction front with
  | nil => rfl
  | cons first front ih => rw [List.cons_append, List.length_cons, List.modify_succ_cons, ih, List.cons_append]

/-- A carry makes the last byte one more and the bytes that were held back zero. -/
theorem carried_value {buf : List Nat} (nonempty : buf ≠ []) (last : buf.getLast? ≠ some 255)
    (bytes : ∀ byte ∈ buf, byte < 256) :
    positionalValue 256 0 (buf.modify (buf.length - 1) fun byte => (byte + 1) % 256) =
      positionalValue 256 0 buf + 1 := by
  obtain ⟨front, byte, rfl⟩ := (List.eq_nil_or_concat buf).resolve_left nonempty
  rw [List.concat_eq_append] at last bytes ⊢
  have below : byte < 256 := bytes byte (by simp)
  have notFull : byte ≠ 255 := by simpa using last
  have modified : (front ++ [byte]).modify ((front ++ [byte]).length - 1) (fun byte => (byte + 1) % 256) =
      front ++ [byte + 1] := by
    rw [List.length_append, List.length_singleton, Nat.add_sub_cancel, modify_last,
      Nat.mod_eq_of_lt (by omega : byte + 1 < 256)]
  rw [modified, positionalValue_append, positionalValue_append]
  simp only [positionalValue, List.foldl_cons, List.foldl_nil]
  omega

theorem mem_modify {buf : List Nat} {n byte : Nat} {f : Nat → Nat} (member : byte ∈ buf.modify n f) :
    byte ∈ buf ∨ ∃ before, byte = f before := by
  induction buf generalizing n with
  | nil => simp at member
  | cons first buf ih =>
    cases n with
    | zero =>
      rcases List.mem_cons.mp member with here | later
      · exact Or.inr ⟨first, here⟩
      · exact Or.inl (List.mem_cons_of_mem _ later)
    | succ n =>
      rcases List.mem_cons.mp member with here | later
      · exact Or.inl (List.mem_cons.mpr (Or.inl here))
      · exact (ih later).imp_left (List.mem_cons_of_mem _)

/-- The bytes of a flush, with its carry, make one byte more of what was written. -/
theorem written_carried {bits : Nat} (small : bits < 512) (carries : 256 ≤ bits → bw.buf ≠ [])
    (last : bw.buf.getLast? ≠ some 255) (bytes : ∀ byte ∈ bw.buf, byte < 256) :
    positionalValue 256 0
        ((if 256 ≤ bits then bw.buf.modify (bw.buf.length - 1) fun byte => (byte + 1) % 256 else bw.buf) ++
          List.replicate bw.run (if 256 ≤ bits then 0x00 else 0xff) ++ [bits % 256]) = written bw * 256 + bits := by
  have whole := written_eq bw
  rw [positionalValue_append]
  by_cases carry : 256 ≤ bits
  · rw [if_pos carry, if_pos carry, positionalValue_append, carried_value (carries carry) last bytes,
      positionalValue_zeros, Nat.add_mul, Nat.one_mul, ← whole]
    simp only [positionalValue, List.foldl_cons, List.foldl_nil]
    omega
  · rw [if_neg carry, if_neg carry]
    have same : positionalValue 256 0 (bw.buf ++ List.replicate bw.run 0xff) = written bw := rfl
    rw [same, Nat.mod_eq_of_lt (by omega)]
    rfl

/-- A carry has a byte to go to, as the interval does not reach past one. -/
theorem Writes.carries (writes : Writes t i bw) {bits rest : Nat} (value : bw.value = bits * 2 ^ t + rest)
    (carry : 256 ≤ bits) : bw.buf ≠ [] := by
  obtain ⟨_, low, size, depth, _, within, _, _⟩ := writes
  intro empty
  have whole := written_eq bw
  have most : 256 * 2 ^ t ≤ bits * 2 ^ t := Nat.mul_le_mul_right _ carry
  have nothing : positionalValue 256 0 ([] : List Nat) = 0 := rfl
  have byte : (256 : Nat) = 2 ^ 8 := rfl
  rw [empty, nothing, Nat.zero_mul, Nat.zero_add] at whole
  have full : 2 ^ i.depth = (written bw + 1) * 2 ^ (t + 8) := by
    rw [whole, depth, empty, List.length_nil, Nat.zero_add, byte, ← Nat.pow_mul, ← Nat.pow_add, Nat.add_assoc]
  have tail : 2 ^ (t + 8) = 256 * 2 ^ t := by rw [Nat.pow_add, Nat.mul_comm]
  rw [full, Nat.add_mul, tail] at within
  rw [tail] at low
  omega

theorem Writes.flush (writes : Writes t i bw) (ready : 8 < t) (small : bw.range ≤ 254)
    (done : (Flush grants bw).error = false) :
    bw.error = false ∧ Writes (t - 8) i (Flush grants bw) ∧ (Flush grants bw).range = bw.range ∧
      (Flush grants bw).value < 2 ^ t := by
  have positive := Nat.two_pow_pos t
  have less : bw.value % 2 ^ t < 2 ^ t := Nat.mod_lt _ positive
  have split : bw.value = bw.value / 2 ^ t * 2 ^ t + bw.value % 2 ^ t := by
    rw [Nat.mul_comm]
    exact (Nat.div_add_mod _ _).symm
  have bits : bw.value / 2 ^ t < 511 := by
    have bounded := writes.bounded
    exact (Nat.div_lt_iff_lt_mul positive).mpr (by omega)
  obtain ⟨back, rest⟩ : ∃ back, t = back + 8 := ⟨t - 8, by omega⟩
  have carries := fun carry => writes.carries split carry
  obtain ⟨nb_bits, low, size, depth, bounded, within, last, bytes⟩ := writes
  have lower : i.low = (written bw * 256 + bw.value / 2 ^ t) * 2 ^ t + bw.value % 2 ^ t := by
    rw [low, Nat.pow_add, Nat.add_mul, Nat.add_assoc, ← split]
    ring
  have remains : bw.value % 2 ^ t + bw.range + 1 ≤ 511 * 2 ^ (t - 8) := by
    have one := Nat.one_le_two_pow (n := back)
    have whole : 2 ^ t = 256 * 2 ^ back := by rw [rest, Nat.pow_add, Nat.mul_comm]
    have before : t - 8 = back := by omega
    rw [before]
    omega
  have again : t - 8 + 8 = t := by omega
  generalize bw.value / 2 ^ t = bits' at *
  generalize bw.value % 2 ^ t = rest' at *
  rcases Flush_cases grants nb_bits split less (by omega) with ⟨pending, flushed⟩ | ⟨notFull, refused | flushed⟩
  · have all : bits' = 255 := by omega
    rw [flushed] at done ⊢
    refine ⟨done, ⟨?_, ?_, size, ?_, remains, within, last, bytes⟩, rfl, less⟩
    · show bw.nb_bits - 8 = (t - 8 : Nat) - 8
      omega
    · have more : positionalValue 256 0 (bw.buf ++ List.replicate (bw.run + 1) 255) = written bw * 256 + 255 := by
        rw [List.replicate_succ', ← List.append_assoc, positionalValue_append]
        rfl
      show i.low = positionalValue 256 0 (bw.buf ++ List.replicate (bw.run + 1) 255) * 2 ^ (t - 8 + 8) + rest'
      rw [again, lower, more, all]
    · show i.depth = 8 * (bw.buf.length + (bw.run + 1)) + (t - 8) + 8
      omega
  · exact absurd (refused.2.symm.trans done) (by decide)
  · obtain ⟨max_pos, asked, flushed⟩ := flushed
    have value := written_carried (by omega : bits' < 512) carries last bytes
    rw [flushed] at done ⊢
    refine ⟨done, ⟨?_, ?_, size, ?_, remains, within, ?_, ?_⟩, rfl, less⟩
    · show bw.nb_bits - 8 = (t - 8 : Nat) - 8
      omega
    · rw [again, lower, ← value]
      unfold written
      rw [List.replicate_zero, List.append_nil]
    · simp only [List.length_append, List.length_replicate, List.length_singleton, apply_ite List.length,
        List.length_modify, ite_self]
      omega
    · rw [List.getLast?_concat]
      exact fun full => notFull (Option.some.inj full)
    · intro byte member
      rcases List.mem_append.mp member with before | here
      · rcases List.mem_append.mp before with old | held
        · by_cases carry : 256 ≤ bits'
          · rw [if_pos carry] at old
            rcases mem_modify old with kept | ⟨before, changed⟩
            · exact bytes byte kept
            · rw [changed]
              exact Nat.mod_lt _ (by decide)
          · rw [if_neg carry] at old
            exact bytes byte old
        · rw [List.eq_of_mem_replicate held]
          split_ifs <;> decide
      · rw [List.mem_singleton.mp here]
        exact Nat.mod_lt _ (by decide)

/-- The interval for a bit of so much probability. -/
def codeBit : CodeInterval → Nat × Bool → CodeInterval := CodeInterval.code splitSize normShift

/-- The size of the part that a bit takes. -/
def partSize (size : Nat) (entry : Nat × Bool) : Nat :=
  if entry.2 then size - splitSize size entry.1 else splitSize size entry.1

theorem codeBit_eq (i : CodeInterval) (entry : Nat × Bool) :
    codeBit i entry = (i.narrow (splitSize i.size entry.1) entry.2).scale (normShift (partSize i.size entry)) := by
  obtain ⟨prob, bit⟩ := entry
  cases bit <;> rfl

theorem partSize_bounds {size : Nat} (entry : Nat × Bool) (large : 128 ≤ size) (small : size ≤ 255)
    (known : entry.1 ≤ 255) : 0 < partSize size entry ∧ partSize size entry < size := by
  have least := splitSize_pos size entry.1
  have most := splitSize_lt large small known
  unfold partSize
  split_ifs
  · exact ⟨by omega, by omega⟩
  · exact ⟨least, most⟩

/-- After a bit the range is never again what it was at first. -/
theorem codeBit_size (i : CodeInterval) (entry : Nat × Bool) (large : 128 ≤ i.size) (small : i.size ≤ 255)
    (known : entry.1 ≤ 255) : 128 ≤ (codeBit i entry).size ∧ (codeBit i entry).size ≤ 254 := by
  obtain ⟨positive, less⟩ := partSize_bounds entry large small known
  obtain ⟨least, _, _⟩ := shifted_bounds positive (by omega)
  have size : (codeBit i entry).size = partSize i.size entry * 2 ^ normShift (partSize i.size entry) := by
    obtain ⟨prob, bit⟩ := entry
    cases bit <;> rfl
  rw [size]
  exact ⟨least, shifted_le positive (by omega)⟩

theorem Writes.put (writes : Writes t i bw) (fresh : t ≤ 8) (large : 127 ≤ bw.range) (small : bw.range ≤ 254)
    (bit : Bool) {prob : Nat} (known : prob ≤ 255) (done : (VP8PutBit grants bw bit prob).error = false) :
    bw.error = false ∧ ∃ t' ≤ 8, Writes t' (codeBit i (prob, bit)) (VP8PutBit grants bw bit prob) ∧
      (t' = t + normShift (partSize i.size (prob, bit)) ∧
          (bit = false → (VP8PutBit grants bw bit prob).value = bw.value * 2 ^ normShift
            (partSize i.size (prob, bit))) ∨
        0 < t' ∧ t' + 8 = t + normShift (partSize i.size (prob, bit)) ∧
          (VP8PutBit grants bw bit prob).value < 2 ^ (t' + 8)) := by
  have size := writes.size
  obtain ⟨positive, less⟩ := partSize_bounds (prob, bit) (by omega : 128 ≤ i.size) (by omega) known
  have split : splitSize i.size prob = (bw.range * prob) >>> 8 + 1 := by rw [size]; rfl
  have inside : (bw.range * prob) >>> 8 < bw.range := by
    have most := splitSize_lt (by omega : 128 ≤ i.size) (by omega) known
    omega
  have part := writes.taken inside bit
  have range : (takePart bw bit ((bw.range * prob) >>> 8)).range + 1 = partSize i.size (prob, bit) := by
    have taken := part.size
    rw [← taken]
    unfold partSize
    rw [split]
    cases bit <;> rfl
  have error : (takePart bw bit ((bw.range * prob) >>> 8)).error = bw.error := by cases bit <;> rfl
  have value : bit = false → (takePart bw bit ((bw.range * prob) >>> 8)).value = bw.value := by
    intro zero
    rw [zero]
    rfl
  rw [codeBit_eq, split]
  unfold VP8PutBit at done ⊢
  dsimp only at done ⊢
  generalize takePart bw bit ((bw.range * prob) >>> 8) = bw' at *
  by_cases low : bw'.range < 127
  · obtain ⟨norm, renewed⟩ := kNorm_eq low
    rw [range] at norm renewed
    have scaledBy : kNewRange.getD bw'.range 0 + 1 =
        (bw'.range + 1) * 2 ^ normShift (partSize i.size (prob, bit)) := by rw [renewed, range]
    have scaled := part.scale scaledBy
    obtain ⟨_, most, few⟩ := shifted_bounds positive (by omega)
    rw [if_pos low, norm] at done ⊢
    have bits := scaled.nb_bits
    dsimp only at bits
    generalize normShift (partSize i.size (prob, bit)) = shift at *
    by_cases full : 0 < bw'.nb_bits + shift
    · rw [if_pos full] at done ⊢
      obtain ⟨ok, flushed, _, rest⟩ := scaled.flush (by omega) (by dsimp only; omega) done
      have back : t + shift - 8 + 8 = t + shift := by omega
      exact ⟨error.symm.trans ok, t + shift - 8, by omega, flushed,
        Or.inr ⟨by omega, back, by rw [back]; exact rest⟩⟩
    · rw [if_neg full] at done ⊢
      refine ⟨error.symm.trans done, t + shift, by omega, scaled, Or.inl ⟨rfl, fun zero => ?_⟩⟩
      rw [← value zero]
      exact Nat.shiftLeft_eq _ _
  · have whole : normShift (partSize i.size (prob, bit)) = 0 := normShift_of_large (by omega) (by omega)
    rw [if_neg low] at done ⊢
    rw [whole, CodeInterval.scale_zero, Nat.pow_zero, Nat.mul_one]
    exact ⟨error.symm.trans done, t, fresh, part, Or.inl ⟨rfl, value⟩⟩

theorem BitWriterResize_kept (grants : Nat → Bool) (bw : VP8BitWriter) (extra_size : Nat) :
    (BitWriterResize grants bw extra_size).2.range = bw.range ∧
      (bw.error = true → (BitWriterResize grants bw extra_size).2.error = true) ∧
      ((∀ n, grants n = true) → (BitWriterResize grants bw extra_size).2.error = bw.error) := by
  unfold BitWriterResize
  dsimp only
  split_ifs with enough granted
  · exact ⟨rfl, id, fun _ => rfl⟩
  · exact ⟨rfl, id, fun _ => rfl⟩
  · exact ⟨rfl, fun _ => rfl, fun all => absurd (all bw.asked) granted⟩

theorem Flush_kept (grants : Nat → Bool) (bw : VP8BitWriter) :
    (Flush grants bw).range = bw.range ∧ (bw.error = true → (Flush grants bw).error = true) ∧
      ((∀ n, grants n = true) → (Flush grants bw).error = bw.error) := by
  unfold Flush
  dsimp only
  split_ifs with pending
  · exact ⟨rfl, id, fun _ => rfl⟩
  all_goals
    have kept := BitWriterResize_kept grants
      { bw with value := bw.value - bw.value >>> (8 + bw.nb_bits).toNat <<< (8 + bw.nb_bits).toNat,
                nb_bits := bw.nb_bits - 8 } (bw.run + 1)
    split
    all_goals
      rename_i resized
      rw [resized] at kept
      exact kept

/-- The range stays within its bounds whatever the allocator answers; an error stays. -/
theorem VP8PutBit_kept (bw : VP8BitWriter) (grants : Nat → Bool) (bit : Bool) {prob : Nat} (known : prob ≤ 255)
    (large : 127 ≤ bw.range)
    (small : bw.range ≤ 254) :
    (127 ≤ (VP8PutBit grants bw bit prob).range ∧ (VP8PutBit grants bw bit prob).range ≤ 253) ∧
      (bw.error = true → (VP8PutBit grants bw bit prob).error = true) ∧
      ((∀ n, grants n = true) → (VP8PutBit grants bw bit prob).error = bw.error) := by
  have inside : (bw.range * prob) >>> 8 < bw.range := by
    have most := splitSize_lt (by omega : 128 ≤ bw.range + 1) (by omega) known
    unfold splitSize at most
    rw [Nat.add_sub_cancel] at most
    omega
  have part : (takePart bw bit ((bw.range * prob) >>> 8)).range < bw.range ∧
      (takePart bw bit ((bw.range * prob) >>> 8)).error = bw.error := by
    cases bit with
    | false => exact ⟨inside, rfl⟩
    | true => exact ⟨Nat.sub_lt (by omega) (Nat.succ_pos _), rfl⟩
  unfold VP8PutBit
  dsimp only
  generalize takePart bw bit ((bw.range * prob) >>> 8) = bw' at *
  by_cases low : bw'.range < 127
  · have renewed : 127 ≤ kNewRange.getD bw'.range 0 ∧ kNewRange.getD bw'.range 0 ≤ 253 := by
      have all : ∀ range < 127, 127 ≤ kNewRange.getD range 0 ∧ kNewRange.getD range 0 ≤ 253 := by decide +kernel
      exact all bw'.range low
    rw [if_pos low, ← part.2]
    split_ifs with full
    · obtain ⟨range, failed, ok⟩ := Flush_kept grants { bw' with
        range := kNewRange.getD bw'.range 0, value := bw'.value <<< kNorm.getD bw'.range 0,
        nb_bits := bw'.nb_bits + kNorm.getD bw'.range 0 }
      rw [range]
      exact ⟨renewed, failed, ok⟩
    · exact ⟨renewed, id, fun _ => rfl⟩
  · rw [if_neg low, ← part.2]
    exact ⟨⟨by omega, by omega⟩, id, fun _ => rfl⟩

/-- The plain bit writer does what the one for a probability of one half does. -/
theorem VP8PutBitUniform_eq (grants : Nat → Bool) (bit : Bool) (large : 127 ≤ bw.range) (small : bw.range ≤ 254) :
    VP8PutBitUniform grants bw bit = VP8PutBit grants bw bit 0x80 := by
  have half : (bw.range * 0x80) >>> 8 = bw.range >>> 1 := by
    rw [Nat.shiftRight_eq_div_pow, Nat.shiftRight_eq_div_pow]
    omega
  have least : 63 ≤ (takePart bw bit (bw.range >>> 1)).range := by
    have shifted : bw.range >>> 1 = bw.range / 2 := Nat.shiftRight_eq_div_pow _ _
    cases bit with
    | false =>
      show 63 ≤ bw.range >>> 1
      omega
    | true =>
      show 63 ≤ bw.range - (bw.range >>> 1 + 1)
      omega
  have one : ∀ range < 127, 63 ≤ range → kNorm.getD range 0 = 1 := by decide +kernel
  unfold VP8PutBitUniform VP8PutBit
  rw [half]
  dsimp only
  by_cases low : (takePart bw bit (bw.range >>> 1)).range < 127
  · rw [if_pos low, if_pos low, one _ low least]
    rfl
  · rw [if_neg low, if_neg low]

def putEntries (grants : Nat → Bool) (bw : VP8BitWriter) (entries : List (Nat × Bool)) : VP8BitWriter :=
  entries.foldl (fun bw entry => VP8PutBit grants bw entry.2 entry.1) bw

theorem putEntries_kept (bw : VP8BitWriter) (grants : Nat → Bool) {entries : List (Nat × Bool)}
    (known : ∀ entry ∈ entries, entry.1 ≤ 255)
    (large : 127 ≤ bw.range) (small : bw.range ≤ 254) :
    127 ≤ (putEntries grants bw entries).range ∧ (putEntries grants bw entries).range ≤ 254 ∧
      (entries ≠ [] → (putEntries grants bw entries).range ≤ 253) ∧
      (bw.error = true → (putEntries grants bw entries).error = true) ∧
      ((∀ n, grants n = true) → (putEntries grants bw entries).error = bw.error) := by
  induction entries generalizing bw with
  | nil => exact ⟨large, small, fun none => absurd rfl none, id, fun _ => rfl⟩
  | cons entry entries ih =>
    obtain ⟨here, later⟩ := List.forall_mem_cons.mp known
    obtain ⟨⟨least, most⟩, failed, ok⟩ := VP8PutBit_kept _ grants entry.2 here large small
    obtain ⟨large', small', less, failed', ok'⟩ := ih _ later least (by omega)
    refine ⟨large', small', fun _ => ?_, fun error => failed' (failed error), fun all => (ok' all).trans (ok all)⟩
    cases entries with
    | nil => exact most
    | cons next entries => exact less (List.cons_ne_nil next entries)

theorem Writes.puts (writes : Writes t i bw) (fresh : t ≤ 8) (large : 127 ≤ bw.range) (small : bw.range ≤ 254)
    {entries : List (Nat × Bool)} (known : ∀ entry ∈ entries, entry.1 ≤ 255)
    (done : (putEntries grants bw entries).error = false) :
    ∃ t' ≤ 8, Writes t' (entries.foldl codeBit i) (putEntries grants bw entries) := by
  induction entries generalizing t i bw with
  | nil => exact ⟨t, fresh, writes⟩
  | cons entry entries ih =>
    obtain ⟨here, later⟩ := List.forall_mem_cons.mp known
    obtain ⟨⟨least, most⟩, _, _⟩ := VP8PutBit_kept _ grants entry.2 here large small
    obtain ⟨_, _, _, failed, _⟩ := putEntries_kept _ grants later least (by omega)
    have ok : (VP8PutBit grants bw entry.2 entry.1).error = false :=
      Bool.eq_false_of_not_eq_true fun error => Bool.false_ne_true (done.symm.trans (failed error))
    obtain ⟨_, t', fresh', step, _⟩ := writes.put fresh large small entry.2 here ok
    exact ih step fresh' least (most.trans (by decide)) later done

/-- The bits of a value that are written for it. -/
def bitEntries (value : Nat) : Nat → List (Nat × Bool)
  | 0 => []
  | nb_bits + 1 => (0x80, value.testBit nb_bits) :: bitEntries value nb_bits

theorem mem_bitEntries {value nb_bits : Nat} {entry : Nat × Bool} (member : entry ∈ bitEntries value nb_bits) :
    entry.1 ≤ 255 := by
  induction nb_bits with
  | zero => cases member
  | succ nb_bits ih =>
    rcases List.mem_cons.mp member with rfl | later
    · exact (by decide : 0x80 ≤ 255)
    · exact ih later

theorem testBit_mask (value n : Nat) : decide (value &&& 1 <<< n ≠ 0) = value.testBit n := by
  have bit : 2 ^ n &&& value = 2 ^ n * (value.testBit n).toNat := Nat.two_pow_and value n
  have positive := Nat.two_pow_pos n
  rw [Nat.one_shiftLeft, Nat.and_comm, bit]
  cases value.testBit n <;> simp

theorem VP8PutBits_eq (grants : Nat → Bool) (value nb_bits : Nat) (large : 127 ≤ bw.range) (small : bw.range ≤ 254) :
    VP8PutBits grants bw value nb_bits = putEntries grants bw (bitEntries value nb_bits) := by
  induction nb_bits generalizing bw with
  | zero => rfl
  | succ nb_bits ih =>
    have known : (0x80 : Nat) ≤ 255 := by decide
    obtain ⟨⟨least, most⟩, _, _⟩ := VP8PutBit_kept _ grants (value.testBit nb_bits) known large small
    rw [VP8PutBits, testBit_mask, VP8PutBitUniform_eq grants _ large small, ih least (by omega)]
    rfl

theorem zero_shift {size : Nat} (large : 128 ≤ size) (small : size ≤ 254) :
    normShift (partSize size (0x80, false)) = 1 := by
  have all : ∀ n < 127, normShift (partSize (128 + n) (0x80, false)) = 1 := by decide +kernel
  have one := all (size - 128) (by omega)
  rw [Nat.add_sub_cancel' large] at one
  exact one

/-- What zeros put after the bits make of an interval, and that nothing is carried
once they have filled a byte. -/
theorem Writes.zeros (writes : Writes t i bw) (fresh : t ≤ 8) (large : 127 ≤ bw.range)
    (small : bw.range ≤ 253) {n : Nat}
    (done : (putEntries grants bw (List.replicate n (0x80, false))).error = false) :
    ∃ t' ≤ 8, ∃ j, Writes t' j (putEntries grants bw (List.replicate n (0x80, false))) ∧
      j.low = i.low * 2 ^ n ∧ j.depth = i.depth + n ∧
      (t' = t + n ∨ 0 < t' ∧ (∃ bytes, t' + 8 * bytes = t + n) ∧
        (putEntries grants bw (List.replicate n (0x80, false))).value < 2 ^ (t' + 8)) := by
  induction n with
  | zero => exact ⟨t, fresh, i, writes, by rw [Nat.pow_zero, Nat.mul_one], rfl, Or.inl rfl⟩
  | succ n ih =>
    have half : (0x80 : Nat) ≤ 255 := by decide
    have known : ∀ entry ∈ List.replicate n ((0x80 : Nat), false), entry.1 ≤ 255 := by
      intro entry member
      rw [List.eq_of_mem_replicate member]
      exact half
    have split : putEntries grants bw (List.replicate (n + 1) (0x80, false)) =
        VP8PutBit grants (putEntries grants bw (List.replicate n (0x80, false))) false 0x80 := by
      unfold putEntries
      rw [List.replicate_succ', List.foldl_concat]
    obtain ⟨least, most, less, _, _⟩ := putEntries_kept _ grants known large (by omega)
    have below : (putEntries grants bw (List.replicate n (0x80, false))).range ≤ 253 := by
      cases n with
      | zero => exact small
      | succ n => exact less (List.cons_ne_nil _ _)
    rw [split] at done ⊢
    generalize putEntries grants bw (List.replicate n (0x80, false)) = bw' at *
    obtain ⟨_, failed, _⟩ := VP8PutBit_kept _ grants false half least most
    have before : bw'.error = false :=
      Bool.eq_false_of_not_eq_true fun error => Bool.false_ne_true (done.symm.trans (failed error))
    obtain ⟨t', fresh', j, writes', low, depth, filled⟩ := ih before
    obtain ⟨_, t'', fresh'', step, shifted⟩ := writes'.put fresh' least most false half done
    have size := writes'.size
    have one := zero_shift (by omega : 128 ≤ j.size) (by omega)
    have next : (codeBit j (0x80, false)).low = j.low * 2 ^ 1 ∧ (codeBit j (0x80, false)).depth = j.depth + 1 := by
      rw [codeBit_eq, one]
      exact ⟨rfl, rfl⟩
    rw [one] at shifted
    refine ⟨t'', fresh'', codeBit j (0x80, false), step, ?_, ?_, ?_⟩
    · rw [next.1, low, Nat.mul_assoc, ← Nat.pow_add]
    · rw [next.2, depth, Nat.add_assoc]
    · rcases shifted with ⟨moved, value⟩ | ⟨positive, moved, value⟩
      · rcases filled with start | ⟨positive, ⟨bytes, count⟩, small⟩
        · exact Or.inl (by omega)
        · refine Or.inr ⟨by omega, ⟨bytes, by omega⟩, ?_⟩
          rw [value rfl, moved, Nat.add_right_comm, Nat.pow_add]
          exact Nat.mul_lt_mul_of_pos_right small (by decide)
      · refine Or.inr ⟨positive, ?_, value⟩
        rcases filled with start | ⟨_, ⟨bytes, count⟩, _⟩
        · exact ⟨1, by omega⟩
        · exact ⟨bytes + 1, by omega⟩

theorem bitEntries_zero (n : Nat) : bitEntries 0 n = List.replicate n (0x80, false) := by
  induction n with
  | zero => rfl
  | succ n ih => rw [bitEntries, ih, Nat.zero_testBit, List.replicate_succ]

/-- The bytes that are left are the lower end of the interval, and are as deep as it. -/
theorem Writes.finish (writes : Writes t i bw) (fresh : t ≤ 8) (large : 127 ≤ bw.range) (small : bw.range ≤ 253)
    (done : (VP8BitWriterFinish grants bw).error = false) :
    i.Contains (positionalValue 256 0 (VP8BitWriterFinish grants bw).buf)
      (8 * (VP8BitWriterFinish grants bw).buf.length) ∧
      i.depth ≤ 8 * (VP8BitWriterFinish grants bw).buf.length ∧
      (∀ byte ∈ (VP8BitWriterFinish grants bw).buf, byte < 256) := by
  have count : (9 - bw.nb_bits).toNat = 17 - t := by
    have nb_bits := writes.nb_bits
    omega
  have size := writes.size
  have byteMore : 17 - t = 8 - t + 9 := by omega
  unfold VP8BitWriterFinish at done ⊢
  dsimp only at done ⊢
  rw [count, VP8PutBits_eq grants 0 _ large (by omega), bitEntries_zero] at done ⊢
  generalize zeroed : putEntries grants bw (List.replicate (17 - t) (0x80, false)) = bw' at *
  obtain ⟨_, failed, _⟩ := Flush_kept grants { bw' with nb_bits := 0 }
  have before : bw'.error = false :=
    Bool.eq_false_of_not_eq_true fun error => Bool.false_ne_true (done.symm.trans (failed error))
  rw [← zeroed] at before
  obtain ⟨t', fresh', j, writes', low, depth, filled⟩ := writes.zeros fresh large small before
  rw [zeroed] at writes' filled
  have one : t' = 1 := by
    rcases filled with start | ⟨positive, ⟨bytes, total⟩, _⟩
    · omega
    · omega
  have value : bw'.value < 2 ^ 9 := by
    rcases filled with start | ⟨_, _, value⟩
    · omega
    · rw [one] at value
      exact value
  clear filled
  have exact' : i.low * 2 ^ (17 - t) = written bw' * 2 ^ 9 + bw'.value := by
    rw [← low, writes'.low, one]
  have deep : i.low * 2 ^ (17 - t) = i.low * 2 ^ (8 - t) * 2 ^ 9 := by
    rw [byteMore, Nat.pow_add, Nat.mul_assoc]
  rw [deep] at exact'
  have rest : bw'.value = 0 := by omega
  have whole : written bw' = i.low * 2 ^ (8 - t) := by omega
  have zero : bw'.value = 0 * 2 ^ 8 + 0 := by omega
  have total := writes'.depth
  have last := writes'.last
  have bytes := writes'.bytes
  have eight : ({ bw' with nb_bits := 0 } : VP8BitWriter).nb_bits = (8 : Nat) - 8 := rfl
  rcases Flush_cases grants eight zero (by decide) (by decide) with ⟨pending, _⟩ | ⟨_, refused | flushed⟩
  · exact absurd pending (by decide)
  · exact absurd (refused.2.symm.trans done) (by decide)
  · obtain ⟨max_pos, asked, flushed⟩ := flushed
    have bits : ¬ 256 ≤ 0 := by decide
    simp only [flushed, if_neg bits, Nat.zero_mod]
    have length : 8 * (bw'.buf ++ List.replicate bw'.run 255 ++ [0]).length = i.depth + (16 - t) := by
      rw [List.length_append, List.length_append, List.length_replicate, List.length_singleton]
      omega
    have number : positionalValue 256 0 (bw'.buf ++ List.replicate bw'.run 255 ++ [0]) = i.low * 2 ^ (16 - t) := by
      have more : 16 - t = 8 - t + 8 := by omega
      rw [positionalValue_append, more, Nat.pow_add, ← Nat.mul_assoc, ← whole]
      exact positionalValue_zeros (written bw') 1
    have same : CodeInterval.digits (i.low * 2 ^ (16 - t)) (i.depth + (16 - t)) i.depth = i.low := by
      unfold CodeInterval.digits
      rw [Nat.mul_assoc, ← Nat.pow_add, Nat.add_comm (16 - t), Nat.mul_div_cancel _ (Nat.two_pow_pos _)]
    rw [length, number]
    refine ⟨⟨same.ge, ?_⟩, Nat.le_add_right _ _, fun byte member => ?_⟩
    · rw [same]
      omega
    · rcases List.mem_append.mp member with before | here
      · rcases List.mem_append.mp before with old | held
        · exact bytes byte old
        · rw [List.eq_of_mem_replicate held]
          decide
      · rw [List.mem_singleton.mp here]
        decide

end Writing

end SignalPods.WebP
