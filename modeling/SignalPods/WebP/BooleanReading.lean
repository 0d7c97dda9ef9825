import SignalPods.WebP.BooleanWriting

namespace SignalPods.WebP

open Foundation

section Reading

variable {BITS c : Nat} {bytes : List Nat} {i : CodeInterval} {br : VP8BitReader}

/-- So many bytes were read, and the value is how far they are above the lower end. -/
structure Reads (bytes : List Nat) (c : Nat) (i : CodeInterval) (br : VP8BitReader) : Prop where
  read : c ≤ bytes.length
  buf : br.buf = bytes.drop c
  bits : br.bits = 8 * c - i.depth
  value : br.value * 2 ^ i.depth + i.low * 2 ^ (8 * c) = positionalValue 256 0 (bytes.take c) * 2 ^ i.depth
  size : i.size = br.range + 1
  eof : br.eof = false

/-- The code number of a file, and as many digits as its bytes have. -/
def InFile (bytes : List Nat) (i : CodeInterval) : Prop :=
  i.Contains (positionalValue 256 0 bytes) (8 * bytes.length) ∧ i.depth ≤ 8 * bytes.length

theorem bytes_pow (length : Nat) : 256 ^ length = 2 ^ (8 * length) := by
  have byte : 256 = 2 ^ 8 := rfl
  rw [byte, ← Nat.pow_mul]

/-- The bytes that were read are the first digits of the file. -/
theorem digits_take (each : ∀ byte ∈ bytes, byte < 256) (read : c ≤ bytes.length) :
    CodeInterval.digits (positionalValue 256 0 bytes) (8 * bytes.length) (8 * c) =
      positionalValue 256 0 (bytes.take c) := by
  have split : positionalValue 256 0 bytes =
      positionalValue 256 0 (bytes.take c) * 256 ^ (bytes.length - c) + positionalValue 256 0 (bytes.drop c) := by
    rw [← List.length_drop, ← positionalValue_start, ← positionalValue_append, List.take_append_drop]
  have rest : positionalValue 256 0 (bytes.drop c) < 256 ^ (bytes.length - c) := by
    rw [← List.length_drop]
    exact positionalValue_lt fun byte member => each byte (List.mem_of_mem_drop member)
  have length : 2 ^ (8 * bytes.length) = 256 ^ (bytes.length - c) * 2 ^ (8 * c) := by
    rw [bytes_pow, ← Nat.pow_add, ← Nat.mul_add, Nat.sub_add_cancel read]
  have positive : 0 < 256 ^ (bytes.length - c) := Nat.pow_pos (by decide)
  unfold CodeInterval.digits
  rw [length, Nat.mul_div_mul_right _ _ (Nat.two_pow_pos _), split, Nat.mul_comm, Nat.mul_add_div positive,
    Nat.div_eq_of_lt rest, Nat.add_zero]

theorem Reads.value_lt (reads : Reads bytes c i br) (each : ∀ byte ∈ bytes, byte < 256) (inFile : InFile bytes i)
    (small : i.size ≤ 256) (behind : 8 * c ≤ i.depth) : br.value < 256 := by
  obtain ⟨⟨_, below⟩, _⟩ := inFile
  obtain ⟨more, depth⟩ : ∃ more, i.depth = 8 * c + more := ⟨i.depth - 8 * c, by omega⟩
  have first := digits_take each reads.read
  rw [CodeInterval.digits_add _ _ _ more, ← depth] at first
  have value := reads.value
  rw [depth, Nat.pow_add, Nat.mul_comm (2 ^ (8 * c)), ← Nat.mul_assoc, ← Nat.mul_assoc, ← Nat.add_mul] at value
  have exactly := Nat.eq_of_mul_eq_mul_right (Nat.two_pow_pos _) value
  have least : positionalValue 256 0 (bytes.take c) * 2 ^ more ≤
      CodeInterval.digits (positionalValue 256 0 bytes) (8 * bytes.length) i.depth := by
    rw [← first]
    exact Nat.div_mul_le_self _ _
  have one := Nat.le_mul_of_pos_right br.value (Nat.two_pow_pos more)
  omega

theorem Reads.more (reads : Reads bytes c i br) {m : Nat} (there : m ≤ br.buf.length) :
    Reads bytes (c + m) i { br with
      value := br.value * 2 ^ (8 * m) + positionalValue 256 0 (br.buf.take m), bits := br.bits + (8 * m : Nat),
      buf := br.buf.drop m } := by
  obtain ⟨read, buf, bits, value, size, eof⟩ := reads
  rw [buf, List.length_drop] at there
  have length : (br.buf.take m).length = m := by
    rw [buf, List.length_take, List.length_drop]
    omega
  refine ⟨by omega, ?_, ?_, ?_, size, eof⟩
  · show br.buf.drop m = bytes.drop (c + m)
    rw [buf, List.drop_drop]
  · show br.bits + (8 * m : Nat) = 8 * (c + m : Nat) - i.depth
    omega
  · show (br.value * 2 ^ (8 * m) + positionalValue 256 0 (br.buf.take m)) * 2 ^ i.depth + i.low * 2 ^ (8 * (c + m)) =
      positionalValue 256 0 (bytes.take (c + m)) * 2 ^ i.depth
    have further : positionalValue 256 0 (bytes.take (c + m)) =
        positionalValue 256 0 (bytes.take c) * 2 ^ (8 * m) + positionalValue 256 0 (br.buf.take m) := by
      rw [List.take_add, positionalValue_append, positionalValue_start, ← buf, length, bytes_pow]
    calc (br.value * 2 ^ (8 * m) + positionalValue 256 0 (br.buf.take m)) * 2 ^ i.depth + i.low * 2 ^ (8 * (c + m))
        = (br.value * 2 ^ i.depth + i.low * 2 ^ (8 * c)) * 2 ^ (8 * m) +
            positionalValue 256 0 (br.buf.take m) * 2 ^ i.depth := by rw [Nat.mul_add, Nat.pow_add]; ring
      _ = positionalValue 256 0 (bytes.take (c + m)) * 2 ^ i.depth := by rw [value, further]; ring

/-- Any multiple of eight bits that, with eight more, fits a register of 64. -/
def ValidBITS (BITS : Nat) : Prop := ∃ count, 0 < count ∧ count ≤ 7 ∧ BITS = 8 * count

theorem registers_fit (valid : ValidBITS BITS) : BITS ≤ 8 * lbit_t BITS ∧ BITS + 8 ≤ bit_t BITS := by
  obtain ⟨count, positive, most, rfl⟩ := valid
  unfold lbit_t bit_t
  constructor <;> split_ifs <;> omega

theorem or_shiftLeft {v low shift width : Nat} (fits : v < 2 ^ 8) (room : shift + 8 ≤ width) (below : low < 2 ^ shift) :
    low ||| v <<< shift % 2 ^ width = v * 2 ^ shift + low := by
  have most : v * 2 ^ shift < 2 ^ 8 * 2 ^ shift := Nat.mul_lt_mul_of_pos_right fits (Nat.two_pow_pos shift)
  have whole : v <<< shift % 2 ^ width = v <<< shift := by
    refine Nat.mod_eq_of_lt ?_
    rw [Nat.shiftLeft_eq]
    refine most.trans_le ?_
    rw [← Nat.pow_add, Nat.add_comm]
    exact Nat.pow_le_pow_right (by decide) room
  rw [whole, Nat.or_comm, ← Nat.shiftLeft_add_eq_or_of_lt below, Nat.shiftLeft_eq]

/-- The first bytes of a word are what is left of it when its others are shifted out. -/
theorem shiftRight_take (each : ∀ byte ∈ bytes, byte < 256) {count m : Nat} (fewer : count ≤ m)
    (there : m ≤ bytes.length) :
    positionalValue 256 0 (bytes.take m) >>> (8 * m - 8 * count) = positionalValue 256 0 (bytes.take count) := by
  have known : ∀ byte ∈ bytes.take m, byte < 256 := fun byte member => each byte (List.mem_of_mem_take member)
  have length : (bytes.take m).length = m := by
    rw [List.length_take]
    omega
  have digits := digits_take known (by omega : count ≤ (bytes.take m).length)
  have apart : 8 * m = 8 * count + (8 * m - 8 * count) := by omega
  rw [length, List.take_take, Nat.min_eq_left fewer] at digits
  rw [← digits, Nat.shiftRight_eq_div_pow, CodeInterval.digits]
  have split : 2 ^ (8 * m) = 2 ^ (8 * m - 8 * count) * 2 ^ (8 * count) := by
    rw [← Nat.pow_add, Nat.add_comm, ← apart]
  rw [split, Nat.mul_div_mul_right _ _ (Nat.two_pow_pos _)]

theorem Reads.load (reads : Reads bytes c i br) (each : ∀ byte ∈ bytes, byte < 256) (valid : ValidBITS BITS)
    (inFile : InFile bytes i) (small : i.size ≤ 256) (behind : 8 * c < i.depth) :
    ∃ c', c < c' ∧ Reads bytes c' i (VP8LoadNewBytes BITS br) := by
  have fits := reads.value_lt each inFile small behind.le
  have buf := reads.buf
  have known : ∀ byte ∈ br.buf, byte < 256 := by
    rw [buf]
    exact fun byte member => each byte (List.mem_of_mem_drop member)
  obtain ⟨wide, room⟩ := registers_fit valid
  obtain ⟨count, positive, most, rfl⟩ := valid
  unfold VP8LoadNewBytes
  by_cases fast : lbit_t (8 * count) ≤ br.buf.length
  · have enough : count ≤ lbit_t (8 * count) := by omega
    have word := shiftRight_take known enough fast
    have below : positionalValue 256 0 (br.buf.take count) < 2 ^ (8 * count) := by
      have less := positionalValue_lt fun byte member => known byte (List.mem_of_mem_take (i := count) member)
      rw [List.length_take, Nat.min_eq_left (enough.trans fast), bytes_pow] at less
      exact less
    have step : (8 * count) >>> 3 = count := by
      rw [Nat.shiftRight_eq_div_pow]
      omega
    rw [if_pos fast, word]
    dsimp only
    rw [or_shiftLeft fits room below, step]
    exact ⟨c + count, by omega, reads.more (enough.trans fast)⟩
  · have left : br.buf ≠ [] := by
      intro none
      have all := inFile.2
      have unread : bytes.length ≤ c := List.drop_eq_nil_iff.mp (buf.symm.trans none)
      omega
    obtain ⟨byte, rest, first⟩ := List.exists_cons_of_ne_nil left
    have one := reads.more (m := 1) (by rw [first]; exact Nat.succ_pos _)
    have below : byte < 2 ^ 8 := known byte (by rw [first]; exact List.mem_cons_self)
    rw [if_neg fast, VP8LoadFinalBytes, first]
    dsimp only
    rw [or_shiftLeft fits (by omega) below]
    rw [first] at one
    have single : positionalValue 256 0 (List.take 1 (byte :: rest)) = byte := by simp [positionalValue]
    rw [single] at one
    exact ⟨c + 1, Nat.lt_succ_self c, one⟩

/-- Enough is read for the next bit, and no more than there is. -/
theorem Reads.ahead (reads : Reads bytes c i br) (each : ∀ byte ∈ bytes, byte < 256) (valid : ValidBITS BITS)
    (inFile : InFile bytes i) (small : i.size ≤ 256) (near : -8 ≤ br.bits) :
    ∃ c', Reads bytes c' i (withBits BITS br) ∧ i.depth ≤ 8 * c' := by
  have bits := reads.bits
  unfold withBits
  by_cases none : br.bits < 0
  · obtain ⟨c', further, loaded⟩ := reads.load each valid inFile small (by omega)
    rw [if_pos none]
    exact ⟨c', loaded, by omega⟩
  · rw [if_neg none]
    exact ⟨c, reads, by omega⟩

/-- What is above the lower end of the interval is at the front of the value. -/
theorem Reads.window (reads : Reads bytes c i br) (each : ∀ byte ∈ bytes, byte < 256)
    (enough : i.depth ≤ 8 * c) :
    br.value >>> br.bits.toNat + i.low =
        CodeInterval.digits (positionalValue 256 0 bytes) (8 * bytes.length) i.depth ∧
      br.value + i.low * 2 ^ br.bits.toNat = positionalValue 256 0 (bytes.take c) := by
  have bits := reads.bits
  obtain ⟨pos, depth⟩ : ∃ pos, 8 * c = i.depth + pos := ⟨8 * c - i.depth, by omega⟩
  have place : br.bits.toNat = pos := by omega
  have value := reads.value
  rw [depth, Nat.pow_add, Nat.mul_comm (2 ^ i.depth), ← Nat.mul_assoc, ← Nat.add_mul] at value
  have exactly := Nat.eq_of_mul_eq_mul_right (Nat.two_pow_pos _) value
  have first := digits_take each reads.read
  rw [place]
  refine ⟨?_, exactly⟩
  rw [CodeInterval.digits_add _ _ _ pos, ← depth, first, ← exactly, Nat.add_mul_div_right _ _ (Nat.two_pow_pos pos),
    Nat.shiftRight_eq_div_pow]

/-- The bit that was written is read, and the reader follows its interval. -/
theorem Reads.getBit (reads : Reads bytes c i br) (each : ∀ byte ∈ bytes, byte < 256) (valid : ValidBITS BITS)
    (large : 128 ≤ i.size) (small : i.size ≤ 255) (near : -8 ≤ br.bits) {prob : Nat} {bit : Bool} (known : prob ≤ 255)
    (inFile : InFile bytes i) (next : InFile bytes (codeBit i (prob, bit))) :
    ∃ c' after, VP8GetBit BITS br prob = (bit, after) ∧ Reads bytes c' (codeBit i (prob, bit)) after ∧
      -8 ≤ after.bits := by
  obtain ⟨c', loaded, enough⟩ := reads.ahead each valid inFile (by omega) near
  obtain ⟨front, exactly⟩ := loaded.window each enough
  have inside : splitSize i.size prob ≤ i.size := (splitSize_lt large small known).le
  have told : bit = decide (i.low + splitSize i.size prob ≤ CodeInterval.digits _ _ i.depth) :=
    (next.1.of_code inside).2
  obtain ⟨positive, less⟩ := partSize_bounds (prob, bit) large small known
  obtain ⟨_, _, few⟩ := shifted_bounds positive (by omega)
  obtain ⟨above, below⟩ := inFile.1
  have size := loaded.size
  have split : splitSize i.size prob = ((withBits BITS br).range * prob) >>> 8 + 1 := by
    unfold splitSize
    rw [size, Nat.add_sub_cancel]
  unfold VP8GetBit
  dsimp only
  generalize withBits BITS br = br' at *
  have narrow : br'.value >>> br'.bits.toNat % 2 ^ 32 = br'.value >>> br'.bits.toNat := by
    refine Nat.mod_eq_of_lt ?_
    omega
  rw [split] at told
  have decided : decide ((br'.range * prob) >>> 8 < br'.value >>> br'.bits.toNat) = bit := by
    rw [told, decide_eq_decide]
    omega
  rw [narrow, decided]
  have part : (if bit = true then br'.range - (br'.range * prob) >>> 8 else (br'.range * prob) >>> 8 + 1) =
      partSize i.size (prob, bit) := by
    unfold partSize
    rw [split, size]
    cases bit with
    | false => rfl
    | true => exact (Nat.add_sub_add_right _ 1 _).symm
  have shift : 7 ^^^ (partSize i.size (prob, bit)).log2 = normShift (partSize i.size (prob, bit)) := rfl
  obtain ⟨read, buf, bits, value, _, eof⟩ := loaded
  rw [part, shift, codeBit_eq, split, Nat.shiftLeft_eq, Nat.shiftLeft_eq]
  generalize (br'.range * prob) >>> 8 = S at *
  generalize normShift (partSize i.size (prob, bit)) = k at *
  have scaled : (if bit = true then br'.value - (S + 1) * 2 ^ br'.bits.toNat else br'.value) +
      (i.narrow (S + 1) bit).low * 2 ^ br'.bits.toNat = positionalValue 256 0 (bytes.take c') := by
    cases bit with
    | false => exact exactly
    | true =>
      have top : (S + 1) * 2 ^ br'.bits.toNat ≤ br'.value := by
        have shifted : S + 1 ≤ br'.value >>> br'.bits.toNat := of_decide_eq_true decided
        rw [Nat.shiftRight_eq_div_pow] at shifted
        exact (Nat.le_div_iff_mul_le (Nat.two_pow_pos _)).mp shifted
      show br'.value - (S + 1) * 2 ^ br'.bits.toNat + (i.low + (S + 1)) * 2 ^ br'.bits.toNat = _
      rw [Nat.add_mul i.low, ← exactly]
      omega
  have narrowed : (i.narrow (S + 1) bit).depth = i.depth ∧
    (i.narrow (S + 1) bit).size = partSize i.size (prob, bit) := by
    rw [← part]
    cases bit with
    | false => exact ⟨rfl, rfl⟩
    | true =>
      refine ⟨rfl, ?_⟩
      show i.size - (S + 1) = br'.range - S
      omega
  refine ⟨c', _, rfl, ⟨read, buf, ?_, ?_, ?_, eof⟩, ?_⟩
  · show br'.bits - k = 8 * c' - ((i.narrow (S + 1) bit).depth + k : Nat)
    rw [narrowed.1]
    omega
  · show (if bit = true then br'.value - (S + 1) * 2 ^ br'.bits.toNat else br'.value) *
        2 ^ ((i.narrow (S + 1) bit).depth + k) + (i.narrow (S + 1) bit).low * 2 ^ k * 2 ^ (8 * c') =
      positionalValue 256 0 (bytes.take c') * 2 ^ ((i.narrow (S + 1) bit).depth + k)
    have apart : 8 * c' = i.depth + br'.bits.toNat := by omega
    rw [narrowed.1, apart, ← scaled]
    ring
  · show (i.narrow (S + 1) bit).size * 2 ^ k = partSize i.size (prob, bit) * 2 ^ k - 1 + 1
    rw [narrowed.2]
    omega
  · show -8 ≤ br'.bits - k
    omega

end Reading

section Coding

/-- What the callers of the coder write and read back. -/
inductive Coded
  | bit (bit : Bool) (prob : Nat)
  | uniform (bit : Bool)
  | bits (value nb_bits : Nat)
  | signedBits (value : Int) (nb_bits : Nat)

namespace Coded

def put (grants : Nat → Bool) (bw : VP8BitWriter) : Coded → VP8BitWriter
  | bit b prob => VP8PutBit grants bw b prob
  | uniform b => VP8PutBitUniform grants bw b
  | bits value nb_bits => VP8PutBits grants bw value nb_bits
  | signedBits value nb_bits => VP8PutSignedBits grants bw value nb_bits

/-- Only the kind of what is expected is known to the reader. -/
def get (BITS : Nat) (br : VP8BitReader) : Coded → Coded × VP8BitReader
  | bit _ prob =>
    let (b, br) := VP8GetBit BITS br prob
    (bit b prob, br)
  | uniform _ =>
    let (value, br) := VP8GetValue BITS br 1
    (uniform (decide (value ≠ 0)), br)
  | bits _ nb_bits =>
    let (value, br) := VP8GetValue BITS br nb_bits
    (bits value nb_bits, br)
  | signedBits _ nb_bits =>
    let (coded, br) := VP8GetValue BITS br 1
    if coded = 0 then (signedBits 0 nb_bits, br)
    else
      let (value, br) := VP8GetSignedValue BITS br nb_bits
      (signedBits value nb_bits, br)

def getAll (BITS : Nat) : VP8BitReader → List Coded → List Coded × VP8BitReader
  | br, [] => ([], br)
  | br, coded :: rest =>
    let (first, br) := coded.get BITS br
    let (rest, br) := getAll BITS br rest
    (first :: rest, br)

/-- What the assertions of the coder ask for, and that a value has no more bits than are written. -/
def Valid : Coded → Prop
  | bit _ prob => prob ≤ 255
  | uniform _ => True
  | bits value nb_bits => 0 < nb_bits ∧ nb_bits < 32 ∧ value < 2 ^ nb_bits
  | signedBits value nb_bits => nb_bits + 1 < 32 ∧ value.natAbs < 2 ^ nb_bits

/-- The bits that are written, each with its probability. -/
def entries : Coded → List (Nat × Bool)
  | bit b prob => [(prob, b)]
  | uniform b => [(0x80, b)]
  | bits value nb_bits => bitEntries value nb_bits
  | signedBits value nb_bits =>
    (0x80, decide (value ≠ 0)) ::
      if value = 0 then [] else bitEntries (2 * value.natAbs + (decide (value < 0)).toNat) (nb_bits + 1)

theorem Valid.entries {coded : Coded} (valid : coded.Valid) : ∀ entry ∈ coded.entries, entry.1 ≤ 255 := by
  have half : (0x80 : Nat) ≤ 255 := by decide
  cases coded with
  | bit b prob => exact List.forall_mem_singleton.mpr valid
  | uniform b => exact List.forall_mem_singleton.mpr half
  | bits value nb_bits => exact fun entry => mem_bitEntries
  | signedBits value nb_bits =>
    refine List.forall_mem_cons.mpr ⟨half, fun entry member => ?_⟩
    split_ifs at member with zero
    · cases member
    · exact mem_bitEntries member

theorem Valid.entries_ne_nil {coded : Coded} (valid : coded.Valid) : coded.entries ≠ [] := by
  cases coded with
  | bits value nb_bits =>
    obtain ⟨more, rfl⟩ := Nat.exists_eq_succ_of_ne_zero valid.1.ne'
    exact List.cons_ne_nil _ _
  | _ => exact List.cons_ne_nil _ _

theorem put_eq (grants : Nat → Bool) {bw : VP8BitWriter} (large : 127 ≤ bw.range) (small : bw.range ≤ 254)
    (coded : Coded) :
    coded.put grants bw = putEntries grants bw coded.entries := by
  cases coded with
  | bit b prob => rfl
  | uniform b => exact VP8PutBitUniform_eq grants b large small
  | bits value nb_bits => exact VP8PutBits_eq grants value nb_bits large small
  | signedBits value nb_bits =>
    have half : (0x80 : Nat) ≤ 255 := by decide
    obtain ⟨⟨least, most⟩, _, _⟩ := VP8PutBit_kept bw grants (decide (value ≠ 0)) half large small
    have flag := VP8PutBitUniform_eq grants (decide (value ≠ 0)) large small
    show VP8PutSignedBits grants bw value nb_bits = _
    unfold VP8PutSignedBits
    rw [flag]
    dsimp only
    by_cases zero : value = 0
    · rw [if_pos zero, entries, if_pos zero]
      rfl
    · rw [if_neg zero, entries, if_neg zero]
      by_cases negative : value < 0
      · have magnitude : (-value).toNat <<< 1 ||| 1 = 2 * value.natAbs + 1 := by
          rw [← Nat.shiftLeft_add_eq_or_of_lt (by decide), Nat.shiftLeft_eq]
          omega
        rw [if_pos negative, VP8PutBits_eq grants _ _ least (by omega), magnitude, decide_eq_true negative]
        rfl
      · have magnitude : value.toNat <<< 1 = 2 * value.natAbs + 0 := by
          rw [Nat.shiftLeft_eq]
          omega
        rw [if_neg negative, VP8PutBits_eq grants _ _ least (by omega), magnitude, decide_eq_false negative]
        rfl

end Coded

theorem InFile.of_entries {bytes : List Nat} {i : CodeInterval} {entries : List (Nat × Bool)}
    (known : ∀ entry ∈ entries, entry.1 ≤ 255) (large : 128 ≤ i.size) (small : i.size ≤ 255)
    (last : InFile bytes (entries.foldl codeBit i)) : InFile bytes i := by
  induction entries generalizing i with
  | nil => exact last
  | cons entry entries ih =>
    obtain ⟨here, later⟩ := List.forall_mem_cons.mp known
    obtain ⟨least, most⟩ := codeBit_size i entry large small here
    obtain ⟨contains, enough⟩ := ih later least (most.trans (by decide)) last
    have inside : splitSize i.size entry.1 ≤ i.size := (splitSize_lt large small here).le
    have depth : (codeBit i entry).depth = i.depth + normShift (partSize i.size entry) := by
      obtain ⟨prob, bit⟩ := entry
      cases bit <;> rfl
    exact ⟨(contains.of_code inside).1, by omega⟩

theorem codeBits_size {i : CodeInterval} {entries : List (Nat × Bool)} (known : ∀ entry ∈ entries, entry.1 ≤ 255)
    (large : 128 ≤ i.size) (small : i.size ≤ 255) :
    128 ≤ (entries.foldl codeBit i).size ∧ (entries.foldl codeBit i).size ≤ 255 := by
  induction entries generalizing i with
  | nil => exact ⟨large, small⟩
  | cons entry entries ih =>
    obtain ⟨here, later⟩ := List.forall_mem_cons.mp known
    obtain ⟨least, most⟩ := codeBit_size i entry large small here
    exact ih later least (most.trans (by decide))

/-- A reader whose interval is the one a writer had. -/
structure Along (BITS : Nat) (bytes : List Nat) (i : CodeInterval) (br : VP8BitReader) : Prop where
  valid : ValidBITS BITS
  each : ∀ byte ∈ bytes, byte < 256
  reads : ∃ c, Reads bytes c i br
  near : -8 ≤ br.bits
  large : 128 ≤ i.size
  small : i.size ≤ 255

variable {BITS : Nat} {bytes : List Nat} {i : CodeInterval} {br : VP8BitReader}

theorem Along.getBit (along : Along BITS bytes i br) {prob : Nat} {bit : Bool} (known : prob ≤ 255)
    (next : InFile bytes (codeBit i (prob, bit))) :
    ∃ after, VP8GetBit BITS br prob = (bit, after) ∧ Along BITS bytes (codeBit i (prob, bit)) after := by
  obtain ⟨valid, each, ⟨c, reads⟩, near, large, small⟩ := along
  have inFile : InFile bytes i :=
    InFile.of_entries (List.forall_mem_singleton.mpr known : ∀ entry ∈ [(prob, bit)], entry.1 ≤ 255) large small next
  obtain ⟨least, most⟩ := codeBit_size i (prob, bit) large small known
  obtain ⟨c', after, got, reads', near'⟩ := reads.getBit each valid large small near known inFile next
  exact ⟨after, got, valid, each, ⟨c', reads'⟩, near', least, most.trans (by decide)⟩

theorem or_bits (value nb_bits : Nat) :
    (value.testBit nb_bits).toNat <<< nb_bits ||| value % 2 ^ nb_bits = value % 2 ^ (nb_bits + 1) := by
  have bit : (value.testBit nb_bits).toNat = value / 2 ^ nb_bits % 2 := by
    rw [Nat.testBit_eq_decide_div_mod_eq]
    rcases Nat.mod_two_eq_zero_or_one (value / 2 ^ nb_bits) with zero | one
    · rw [zero]
      rfl
    · rw [one]
      rfl
  rw [← Nat.shiftLeft_add_eq_or_of_lt (Nat.mod_lt _ (Nat.two_pow_pos _)), Nat.shiftLeft_eq, bit, Nat.pow_succ,
    Nat.mod_mul]
  ring

theorem Along.getValueFrom (along : Along BITS bytes i br) (v value : Nat) {nb_bits : Nat}
    (last : InFile bytes ((bitEntries value nb_bits).foldl codeBit i)) :
    ∃ after, getValueFrom BITS br v nb_bits = (v ||| value % 2 ^ nb_bits, after) ∧
      Along BITS bytes ((bitEntries value nb_bits).foldl codeBit i) after := by
  induction nb_bits generalizing i br v with
  | zero =>
    refine ⟨br, ?_, along⟩
    rw [Nat.pow_zero, Nat.mod_one, Nat.or_zero]
    rfl
  | succ nb_bits ih =>
    have half : (0x80 : Nat) ≤ 255 := by decide
    obtain ⟨least, most⟩ := codeBit_size i (0x80, value.testBit nb_bits) along.large along.small half
    have next : InFile bytes (codeBit i (0x80, value.testBit nb_bits)) :=
      InFile.of_entries (fun entry => mem_bitEntries) least (most.trans (by decide)) last
    obtain ⟨middle, got, along'⟩ := along.getBit half next
    obtain ⟨after, rest, along''⟩ := ih along' (v ||| (value.testBit nb_bits).toNat <<< nb_bits) last
    refine ⟨after, ?_, along''⟩
    rw [WebP.getValueFrom, got]
    dsimp only
    rw [rest, Nat.or_assoc, or_bits]

theorem Along.getValue (along : Along BITS bytes i br) {value nb_bits : Nat} (fits : value < 2 ^ nb_bits)
    (last : InFile bytes ((bitEntries value nb_bits).foldl codeBit i)) :
    ∃ after, VP8GetValue BITS br nb_bits = (value, after) ∧
      Along BITS bytes ((bitEntries value nb_bits).foldl codeBit i) after := by
  obtain ⟨after, got, along'⟩ := along.getValueFrom 0 value last
  rw [Nat.zero_or, Nat.mod_eq_of_lt fits] at got
  exact ⟨after, got, along'⟩

theorem Along.getOne (along : Along BITS bytes i br) {bit : Bool} (next : InFile bytes (codeBit i (0x80, bit))) :
    ∃ after, VP8GetValue BITS br 1 = (bit.toNat, after) ∧ Along BITS bytes (codeBit i (0x80, bit)) after := by
  have one : bitEntries bit.toNat 1 = [(0x80, bit)] := by cases bit <;> rfl
  have fits : bit.toNat < 2 ^ 1 := Bool.toNat_lt bit
  have last : InFile bytes ((bitEntries bit.toNat 1).foldl codeBit i) := by
    rw [one]
    exact next
  have got := along.getValue fits last
  rw [one] at got
  exact got

/-- The bits of a magnitude and then its sign. -/
theorem bitEntries_signed (magnitude nb_bits : Nat) (sign : Bool) :
    bitEntries (2 * magnitude + sign.toNat) (nb_bits + 1) = bitEntries magnitude nb_bits ++ [(0x80, sign)] := by
  induction nb_bits with
  | zero => cases sign <;> simp [bitEntries]
  | succ nb_bits ih =>
    have shifted : (2 * magnitude + sign.toNat).testBit (nb_bits + 1) = magnitude.testBit nb_bits := by
      have half : (2 * magnitude + sign.toNat) / 2 = magnitude := by
        have bound := Bool.toNat_lt sign
        omega
      rw [Nat.testBit_succ, half]
    rw [bitEntries, ih, shifted, bitEntries, List.cons_append]

theorem Along.getSignedValue (along : Along BITS bytes i br) {value : Int} {nb_bits : Nat}
    (fits : value.natAbs < 2 ^ nb_bits)
    (last : InFile bytes
      ((bitEntries (2 * value.natAbs + (decide (value < 0)).toNat) (nb_bits + 1)).foldl codeBit i)) :
    ∃ after, VP8GetSignedValue BITS br nb_bits = (value, after) ∧
      Along BITS bytes
        ((bitEntries (2 * value.natAbs + (decide (value < 0)).toNat) (nb_bits + 1)).foldl codeBit i) after := by
  rw [bitEntries_signed, List.foldl_concat] at last ⊢
  have half : (0x80 : Nat) ≤ 255 := by decide
  have sized : 128 ≤ ((bitEntries value.natAbs nb_bits).foldl codeBit i).size ∧
      ((bitEntries value.natAbs nb_bits).foldl codeBit i).size ≤ 255 :=
    codeBits_size (fun entry => mem_bitEntries) along.large along.small
  have before : InFile bytes ((bitEntries value.natAbs nb_bits).foldl codeBit i) :=
    InFile.of_entries (List.forall_mem_singleton.mpr half : ∀ entry ∈ [((0x80 : Nat), decide (value < 0))],
      entry.1 ≤ 255)
      sized.1 sized.2 last
  obtain ⟨middle, magnitude, along'⟩ := along.getValue fits before
  obtain ⟨after, sign, along''⟩ := along'.getOne last
  refine ⟨after, ?_, along''⟩
  unfold VP8GetSignedValue
  rw [magnitude]
  dsimp only
  rw [sign]
  by_cases negative : value < 0
  · rw [decide_eq_true negative]
    have same : -(value.natAbs : Int) = value := by omega
    exact congrArg (·, after) same
  · rw [decide_eq_false negative]
    have same : (value.natAbs : Int) = value := by omega
    exact congrArg (·, after) same

/-- Whatever was written is read as it was. -/
theorem Along.get (along : Along BITS bytes i br) {coded : Coded} (valid : coded.Valid)
    (last : InFile bytes (coded.entries.foldl codeBit i)) :
    ∃ after, coded.get BITS br = (coded, after) ∧ Along BITS bytes (coded.entries.foldl codeBit i) after := by
  cases coded with
  | bit b prob =>
    obtain ⟨after, got, along'⟩ := along.getBit valid last
    refine ⟨after, ?_, along'⟩
    rw [Coded.get, got]
  | uniform b =>
    obtain ⟨after, got, along'⟩ := along.getOne last
    refine ⟨after, ?_, along'⟩
    rw [Coded.get, got]
    cases b <;> rfl
  | bits value nb_bits =>
    obtain ⟨after, got, along'⟩ := along.getValue valid.2.2 last
    refine ⟨after, ?_, along'⟩
    rw [Coded.get, got]
  | signedBits value nb_bits =>
    by_cases zero : value = 0
    · rw [Coded.entries, if_pos zero, decide_eq_false (not_not_intro zero)] at last ⊢
      obtain ⟨after, got, along'⟩ := along.getOne last
      refine ⟨after, ?_, along'⟩
      rw [Coded.get, got, zero]
      rfl
    · rw [Coded.entries, if_neg zero, decide_eq_true zero, List.foldl_cons] at last ⊢
      have half : (0x80 : Nat) ≤ 255 := by decide
      obtain ⟨least, most⟩ := codeBit_size i (0x80, true) along.large along.small half
      have next : InFile bytes (codeBit i (0x80, true)) :=
        InFile.of_entries (fun entry => mem_bitEntries) least (most.trans (by decide)) last
      obtain ⟨middle, flag, along'⟩ := along.getOne next
      obtain ⟨after, got, along''⟩ := along'.getSignedValue valid.2 last
      refine ⟨after, ?_, along''⟩
      rw [Coded.get, flag]
      dsimp only
      rw [if_neg (by decide : ¬ Bool.toNat true = 0), got]

theorem Along.getAll (along : Along BITS bytes i br) {coded : List Coded} (valid : ∀ one ∈ coded, one.Valid)
    (last : InFile bytes ((coded.flatMap Coded.entries).foldl codeBit i)) :
    ∃ after, Coded.getAll BITS br coded = (coded, after) ∧
      Along BITS bytes ((coded.flatMap Coded.entries).foldl codeBit i) after := by
  induction coded generalizing i br with
  | nil => exact ⟨br, rfl, along⟩
  | cons first coded ih =>
    obtain ⟨here, later⟩ := List.forall_mem_cons.mp valid
    rw [List.flatMap_cons, List.foldl_append] at last ⊢
    have sized := codeBits_size here.entries along.large along.small
    have known : ∀ entry ∈ coded.flatMap Coded.entries, entry.1 ≤ 255 := by
      intro entry member
      obtain ⟨one, among, inOne⟩ := List.mem_flatMap.mp member
      exact (later one among).entries entry inOne
    obtain ⟨middle, got, along'⟩ := along.get here (InFile.of_entries known sized.1 sized.2 last)
    obtain ⟨after, rest, along''⟩ := ih along' later last
    refine ⟨after, ?_, along''⟩
    rw [Coded.getAll, got]
    dsimp only
    rw [rest]

theorem putAll_eq (grants : Nat → Bool) {bw : VP8BitWriter} (large : 127 ≤ bw.range) (small : bw.range ≤ 254)
    {coded : List Coded} (valid : ∀ one ∈ coded, one.Valid) :
    coded.foldl (Coded.put grants) bw = putEntries grants bw (coded.flatMap Coded.entries) := by
  induction coded generalizing bw with
  | nil => rfl
  | cons first coded ih =>
    obtain ⟨here, later⟩ := List.forall_mem_cons.mp valid
    obtain ⟨least, most, _⟩ := putEntries_kept _ grants here.entries large small
    rw [List.foldl_cons, Coded.put_eq grants large small, ih least most later, List.flatMap_cons]
    exact List.foldl_append.symm

/-- All fractions there are room for when nothing was written. -/
def wholeInterval : CodeInterval := { low := 0, size := 255, depth := 8 }

theorem init_writes (grants : Nat → Bool) (expected_size : Nat) :
    Writes 0 wholeInterval (VP8BitWriterInit grants expected_size) ∧
      (VP8BitWriterInit grants expected_size).range = 254 ∧
      ((∀ n, grants n = true) → (VP8BitWriterInit grants expected_size).error = false) := by
  have start (max_pos asked : Nat) (error : Bool) : Writes 0 wholeInterval
      { range := 254, value := 0, run := 0, nb_bits := -8, buf := [], max_pos := max_pos, error := error,
        asked := asked } := by
    have bounded : 0 + 254 + 1 ≤ 511 * 2 ^ 0 := by decide
    refine ⟨rfl, ?_, rfl, rfl, bounded, by decide, by simp, fun byte member => ?_⟩
    · simp [wholeInterval, written, positionalValue]
    · cases member
  unfold VP8BitWriterInit BitWriterResize
  dsimp only
  split_ifs with expected enough granted
  · exact ⟨start _ _ _, rfl, fun _ => rfl⟩
  · exact ⟨start _ _ _, rfl, fun _ => rfl⟩
  · exact ⟨start _ _ _, rfl, fun all => absurd (all 0) granted⟩
  · exact ⟨start _ _ _, rfl, fun _ => rfl⟩

theorem VP8BitWriterFinish_kept (grants : Nat → Bool) {bw : VP8BitWriter} (large : 127 ≤ bw.range)
    (small : bw.range ≤ 254) :
    (bw.error = true → (VP8BitWriterFinish grants bw).error = true) ∧
      ((∀ n, grants n = true) → (VP8BitWriterFinish grants bw).error = bw.error) := by
  unfold VP8BitWriterFinish
  rw [VP8PutBits_eq grants 0 _ large small]
  obtain ⟨_, _, _, failed, ok⟩ := putEntries_kept bw grants
    (fun entry => mem_bitEntries : ∀ entry ∈ bitEntries 0 (9 - bw.nb_bits).toNat, entry.1 ≤ 255) large small
  obtain ⟨_, failed', ok'⟩ := Flush_kept grants
    { putEntries grants bw (bitEntries 0 (9 - bw.nb_bits).toNat) with nb_bits := 0 }
  exact ⟨fun error => failed' (failed error), fun all => (ok' all).trans (ok all)⟩

/-- Whatever is written with whatever probabilities, with every carry and every byte
that was held back: the reader gets it back from the bytes of the writer, however many
bits it reads ahead, and does not come to their end, unless the writer reports that it
was refused memory. -/
theorem boolean_coder_round_trip (grants : Nat → Bool) (expected_size : Nat) {BITS : Nat} (width : ValidBITS BITS)
    {coded : List Coded} (valid : ∀ one ∈ coded, one.Valid) {bw : VP8BitWriter}
    (finished : bw = VP8BitWriterFinish grants
      (coded.foldl (Coded.put grants) (VP8BitWriterInit grants expected_size))) :
    ((∀ n, grants n = true) → bw.error = false) ∧
      (bw.error = false → (Coded.getAll BITS (VP8InitBitReader BITS bw.buf) coded).1 = coded ∧
        (coded ≠ [] → (Coded.getAll BITS (VP8InitBitReader BITS bw.buf) coded).2.eof = false)) := by
  obtain ⟨init, range, granted⟩ := init_writes grants expected_size
  have known : ∀ entry ∈ coded.flatMap Coded.entries, entry.1 ≤ 255 := by
    intro entry member
    obtain ⟨one, among, inOne⟩ := List.mem_flatMap.mp member
    exact (valid one among).entries entry inOne
  rw [putAll_eq grants (by omega) range.le valid] at finished
  obtain ⟨least, most, less, _, ok⟩ := putEntries_kept _ grants known (by omega) range.le
  obtain ⟨failed, kept⟩ := VP8BitWriterFinish_kept grants least most
  rw [← finished] at failed kept
  refine ⟨fun all => (kept all).trans ((ok all).trans (granted all)), fun done => ?_⟩
  cases coded with
  | nil => exact ⟨rfl, fun none => absurd rfl none⟩
  | cons first coded =>
    have nonempty : (first :: coded).flatMap Coded.entries ≠ [] := by
      rw [List.flatMap_cons]
      exact List.append_ne_nil_of_left_ne_nil (valid first List.mem_cons_self).entries_ne_nil _
    have before : (putEntries grants (VP8BitWriterInit grants expected_size)
        ((first :: coded).flatMap Coded.entries)).error = false :=
      Bool.eq_false_of_not_eq_true fun error => Bool.false_ne_true (done.symm.trans (failed error))
    obtain ⟨t, fresh, writes⟩ := init.puts (by decide) (by omega) range.le known before
    rw [finished] at done
    obtain ⟨contains, deep, bytes⟩ := writes.finish fresh least (less nonempty) done
    rw [← finished] at contains deep bytes
    have last : InFile bw.buf (((first :: coded).flatMap Coded.entries).foldl codeBit wholeInterval) := ⟨contains, deep⟩
    have start : InFile bw.buf wholeInterval := InFile.of_entries known (by decide) (by decide) last
    have unread : Reads bw.buf 0 wholeInterval
        { range := 255 - 1, value := 0, bits := -8, eof := false, buf := bw.buf } :=
      ⟨Nat.zero_le _, rfl, rfl, by simp [wholeInterval, positionalValue], rfl, rfl⟩
    obtain ⟨c, further, loaded⟩ := unread.load bytes width start (by decide) (by decide)
    have near : -8 ≤ (VP8InitBitReader BITS bw.buf).bits := by
      have bits := loaded.bits
      have depth : wholeInterval.depth = 8 := rfl
      unfold VP8InitBitReader
      omega
    have along : Along BITS bw.buf wholeInterval (VP8InitBitReader BITS bw.buf) :=
      ⟨width, bytes, ⟨c, loaded⟩, near, by decide, by decide⟩
    obtain ⟨after, got, ⟨_, _, ⟨_, reads⟩, _, _, _⟩⟩ := along.getAll valid last
    rw [got]
    exact ⟨rfl, fun _ => reads.eof⟩

theorem boolean_coder_round_trip_signed :
    (Coded.getAll 24 (VP8InitBitReader 24
        (VP8BitWriterFinish (fun _ => true)
          ([.bit true 200, .uniform false, .signedBits (-2) 4].foldl (Coded.put fun _ => true)
            (VP8BitWriterInit (fun _ => true) 0))).buf) [.bit true 200, .uniform false, .signedBits (-2) 4]).1 =
      [.bit true 200, .uniform false, .signedBits (-2) 4] := by
  have valid : ∀ one ∈ [Coded.bit true 200, .uniform false, .signedBits (-2) 4], one.Valid :=
    List.forall_mem_cons.mpr ⟨(by decide : 200 ≤ 255), List.forall_mem_cons.mpr ⟨trivial,
      List.forall_mem_singleton.mpr (by decide : 4 + 1 < 32 ∧ Int.natAbs (-2) < 2 ^ 4)⟩⟩
  obtain ⟨granted, reads⟩ := boolean_coder_round_trip (fun _ => true) 0 ⟨3, by decide, by decide, rfl⟩ valid rfl
  exact (reads (granted fun _ => rfl)).1

end Coding

end SignalPods.WebP
