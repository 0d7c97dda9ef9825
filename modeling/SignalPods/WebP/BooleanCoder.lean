import SignalPods.Foundation.Positional

namespace SignalPods.WebP

open Foundation

section Writer

/-- The bytes before the write position, and how many answers the allocator has given. -/
structure VP8BitWriter where
  range : Nat
  value : Nat
  run : Nat
  nb_bits : Int
  buf : List Nat
  max_pos : Nat
  error : Bool
  asked : Nat

variable (grants : Nat → Bool)

def BitWriterResize (bw : VP8BitWriter) (extra_size : Nat) : Bool × VP8BitWriter :=
  let needed_size := bw.buf.length + extra_size
  if needed_size ≤ bw.max_pos then (true, bw)
  else if grants bw.asked then
    (true, { bw with max_pos := max (max (2 * bw.max_pos) needed_size) 1024, asked := bw.asked + 1 })
  else (false, { bw with error := true, asked := bw.asked + 1 })

/-- Eight bits are written. The carry goes to the last byte before the bytes that
were held back because it might come. -/
def Flush (bw : VP8BitWriter) : VP8BitWriter :=
  let s := (8 + bw.nb_bits).toNat
  let bits := bw.value >>> s
  let bw := { bw with value := bw.value - bits <<< s, nb_bits := bw.nb_bits - 8 }
  if bits &&& 0xff = 0xff then { bw with run := bw.run + 1 }
  else
    match BitWriterResize grants bw (bw.run + 1) with
    | (false, bw) => bw
    | (true, bw) =>
      let carried :=
        if bits &&& 0x100 ≠ 0 then bw.buf.modify (bw.buf.length - 1) fun byte => (byte + 1) % 256 else bw.buf
      let pending := List.replicate bw.run (if bits &&& 0x100 ≠ 0 then 0x00 else 0xff)
      { bw with buf := carried ++ pending ++ [bits &&& 0xff], run := 0 }

def kNorm : List Nat :=
  [7, 6, 6, 5, 5, 5, 5, 4, 4, 4, 4, 4, 4, 4, 4,
   3, 3, 3, 3, 3, 3, 3, 3, 3, 3, 3, 3, 3, 3, 3, 3,
   2, 2, 2, 2, 2, 2, 2, 2, 2, 2, 2, 2, 2, 2, 2, 2,
   2, 2, 2, 2, 2, 2, 2, 2, 2, 2, 2, 2, 2, 2, 2, 2,
   1, 1, 1, 1, 1, 1, 1, 1, 1, 1, 1, 1, 1, 1, 1, 1,
   1, 1, 1, 1, 1, 1, 1, 1, 1, 1, 1, 1, 1, 1, 1, 1,
   1, 1, 1, 1, 1, 1, 1, 1, 1, 1, 1, 1, 1, 1, 1, 1,
   1, 1, 1, 1, 1, 1, 1, 1, 1, 1, 1, 1, 1, 1, 1, 1,
   0]

def kNewRange : List Nat :=
  [127, 127, 191, 127, 159, 191, 223, 127, 143, 159, 175, 191, 207, 223, 239,
   127, 135, 143, 151, 159, 167, 175, 183, 191, 199, 207, 215, 223, 231, 239,
   247, 127, 131, 135, 139, 143, 147, 151, 155, 159, 163, 167, 171, 175, 179,
   183, 187, 191, 195, 199, 203, 207, 211, 215, 219, 223, 227, 231, 235, 239,
   243, 247, 251, 127, 129, 131, 133, 135, 137, 139, 141, 143, 145, 147, 149,
   151, 153, 155, 157, 159, 161, 163, 165, 167, 169, 171, 173, 175, 177, 179,
   181, 183, 185, 187, 189, 191, 193, 195, 197, 199, 201, 203, 205, 207, 209,
   211, 213, 215, 217, 219, 221, 223, 225, 227, 229, 231, 233, 235, 237, 239,
   241, 243, 245, 247, 249, 251, 253, 127]

/-- The part of the range for a bit is taken. -/
def takePart (bw : VP8BitWriter) (bit : Bool) (split : Nat) : VP8BitWriter :=
  if bit then { bw with value := bw.value + (split + 1), range := bw.range - (split + 1) }
  else { bw with range := split }

def VP8PutBit (bw : VP8BitWriter) (bit : Bool) (prob : Nat) : VP8BitWriter :=
  let bw := takePart bw bit ((bw.range * prob) >>> 8)
  if bw.range < 127 then
    let shift := kNorm.getD bw.range 0
    let bw := { bw with range := kNewRange.getD bw.range 0, value := bw.value <<< shift, nb_bits := bw.nb_bits + shift }
    if 0 < bw.nb_bits then Flush grants bw else bw
  else bw

def VP8PutBitUniform (bw : VP8BitWriter) (bit : Bool) : VP8BitWriter :=
  let bw := takePart bw bit (bw.range >>> 1)
  if bw.range < 127 then
    let bw := { bw with range := kNewRange.getD bw.range 0, value := bw.value <<< 1, nb_bits := bw.nb_bits + 1 }
    if 0 < bw.nb_bits then Flush grants bw else bw
  else bw

/-- The bits of a value from the highest of so many on. -/
def VP8PutBits (bw : VP8BitWriter) (value : Nat) : Nat → VP8BitWriter
  | 0 => bw
  | nb_bits + 1 => VP8PutBits (VP8PutBitUniform grants bw (decide (value &&& 1 <<< nb_bits ≠ 0))) value nb_bits

def VP8PutSignedBits (bw : VP8BitWriter) (value : Int) (nb_bits : Nat) : VP8BitWriter :=
  let bw := VP8PutBitUniform grants bw (decide (value ≠ 0))
  if value = 0 then bw
  else if value < 0 then VP8PutBits grants bw ((-value).toNat <<< 1 ||| 1) (nb_bits + 1)
  else VP8PutBits grants bw (value.toNat <<< 1) (nb_bits + 1)

def VP8BitWriterInit (expected_size : Nat) : VP8BitWriter :=
  let bw : VP8BitWriter :=
    { range := 255 - 1, value := 0, run := 0, nb_bits := -8, buf := [], max_pos := 0, error := false, asked := 0 }
  if 0 < expected_size then (BitWriterResize grants bw expected_size).2 else bw

def VP8BitWriterFinish (bw : VP8BitWriter) : VP8BitWriter :=
  let bw := VP8PutBits grants bw 0 (9 - bw.nb_bits).toNat
  Flush grants { bw with nb_bits := 0 }

end Writer

section Reader

def kVP8Log2Range : List Nat := kNorm

def kVP8NewRange : List Nat := kNewRange

/-- The bytes that were not read yet. -/
structure VP8BitReader where
  value : Nat
  range : Nat
  bits : Int
  buf : List Nat
  eof : Bool

-- `BITS` are read ahead at once: 24 or 56, and any multiple of 8 between 8 and 56 will do
variable (BITS : Nat)

/-- The width of the register for the value. -/
def bit_t : Nat := if 24 < BITS then 64 else 32

/-- The bytes of a read from memory. -/
def lbit_t : Nat := if 32 < BITS then 8 else if 16 < BITS then 4 else if 8 < BITS then 2 else 1

def VP8LoadFinalBytes (br : VP8BitReader) : VP8BitReader :=
  match br.buf with
  | byte :: buf => { br with bits := br.bits + 8, value := byte ||| br.value <<< 8 % 2 ^ bit_t BITS, buf := buf }
  | [] =>
    if br.eof then { br with bits := 0 }
    else { br with value := br.value <<< 8 % 2 ^ bit_t BITS, bits := br.bits + 8, eof := true }

def VP8LoadNewBytes (br : VP8BitReader) : VP8BitReader :=
  if lbit_t BITS ≤ br.buf.length then
    let bits := positionalValue 256 0 (br.buf.take (lbit_t BITS)) >>> (8 * lbit_t BITS - BITS)
    { br with
      value := bits ||| br.value <<< BITS % 2 ^ bit_t BITS, bits := br.bits + BITS, buf := br.buf.drop (BITS >>> 3) }
  else VP8LoadFinalBytes BITS br

def VP8InitBitReader (start : List Nat) : VP8BitReader :=
  VP8LoadNewBytes BITS { range := 255 - 1, value := 0, bits := -8, eof := false, buf := start }

/-- Bytes are read ahead if there is no bit left. -/
def withBits (br : VP8BitReader) : VP8BitReader := if br.bits < 0 then VP8LoadNewBytes BITS br else br

def VP8GetBit (br : VP8BitReader) (prob : Nat) : Bool × VP8BitReader :=
  let br := withBits BITS br
  let pos := br.bits.toNat
  let split := (br.range * prob) >>> 8
  let bit := decide (split < br.value >>> pos % 2 ^ 32)
  let value := if bit then br.value - (split + 1) <<< pos else br.value
  let range := if bit then br.range - split else split + 1
  let shift := 7 ^^^ range.log2
  (bit, { br with value := value, range := range <<< shift - 1, bits := br.bits - shift })

def VP8GetBitAlt (br : VP8BitReader) (prob : Nat) : Bool × VP8BitReader :=
  let br := withBits BITS br
  let pos := br.bits.toNat
  let split := (br.range * prob) >>> 8
  let bit := decide (split < br.value >>> pos % 2 ^ 32)
  let value := if bit then br.value - (split + 1) <<< pos else br.value
  let range := if bit then br.range - (split + 1) else split
  if range ≤ 0x7e then
    (bit, { br with value := value, range := kVP8NewRange.getD range 0, bits := br.bits - kVP8Log2Range.getD range 0 })
  else (bit, { br with value := value, range := range })

/-- A mask of ones makes a value negative. -/
def withMask (v : Int) (mask : Bool) : Int := if mask then -v else v

/-- The mask is the sign of a difference of 32 bits. -/
def VP8GetSigned (br : VP8BitReader) (v : Int) : Int × VP8BitReader :=
  let br := withBits BITS br
  let pos := br.bits.toNat
  let split := br.range >>> 1
  let value := br.value >>> pos % 2 ^ 32
  let mask := decide (2 ^ 31 ≤ (split + 2 ^ 32 - value) % 2 ^ 32)
  let range := (if mask then br.range - 1 else br.range) ||| 1
  (withMask v mask,
    { br with value := if mask then br.value - (split + 1) <<< pos else br.value, range := range, bits := br.bits - 1 })

def getValueFrom (br : VP8BitReader) (v : Nat) : Nat → Nat × VP8BitReader
  | 0 => (v, br)
  | bits + 1 =>
    let (bit, br) := VP8GetBit BITS br 0x80
    getValueFrom br (v ||| bit.toNat <<< bits) bits

def VP8GetValue (br : VP8BitReader) (bits : Nat) : Nat × VP8BitReader := getValueFrom BITS br 0 bits

def VP8GetSignedValue (br : VP8BitReader) (bits : Nat) : Int × VP8BitReader :=
  let (value, br) := VP8GetValue BITS br bits
  let (negative, br) := VP8GetValue BITS br 1
  (if negative ≠ 0 then -value else value, br)

end Reader

end SignalPods.WebP
