import Mathlib.Algebra.BigOperators.Group.List.Basic
import Mathlib.Algebra.Ring.Nat
import SignalPods.Machine.Calls

namespace SignalPods.LibSignal

/-- `Int.max`, which neither the count of a collection nor the size of a file
exceeds. -/
def intMax : Nat := 2 ^ 63 - 1

/-- What a collection of bytes or a file can hold. -/
structure ByteString where
  bytes : List UInt8
  count_le : bytes.length ≤ intMax

inductive SignalInputStreamError
  | unexpectedEof
  deriving DecidableEq, Repr

inductive StreamRequest
  /-- `read(into:)` with a buffer of this size. -/
  | read (count : Nat)
  | skip (amount : UInt64)
  deriving DecidableEq, Repr

/-- A read returns how many bytes it put at the start of the buffer. -/
inductive StreamAnswer
  | read (bytes : List UInt8)
  | skipped
  | threw (error : SignalInputStreamError)
  deriving DecidableEq, Repr

structure SignalInputStreamAdapter where
  inner : List UInt8
  deriving DecidableEq, Repr

namespace SignalInputStreamAdapter

def init (inner : ByteString) : SignalInputStreamAdapter := { inner := inner.bytes }

def read (stream : SignalInputStreamAdapter) (count : Nat) : List UInt8 × SignalInputStreamAdapter :=
  let amount := min count stream.inner.length
  (stream.inner.take amount, { inner := stream.inner.drop amount })

def skip (stream : SignalInputStreamAdapter) (amount : UInt64) :
    Except SignalInputStreamError Unit × SignalInputStreamAdapter :=
  if stream.inner.length < amount.toNat then (.error .unexpectedEof, stream)
  else (.ok (), { inner := stream.inner.drop amount.toNat })

def perform (stream : SignalInputStreamAdapter) : StreamRequest → Option (StreamAnswer × SignalInputStreamAdapter)
  | .read count => some (.read (stream.read count).1, (stream.read count).2)
  | .skip amount =>
    match stream.skip amount with
    | (.ok (), after) => some (.skipped, after)
    | (.error error, after) => some (.threw error, after)

end SignalInputStreamAdapter

/-- A `FileHandle` open on a file that nobody writes to. -/
structure FileHandle where
  file : List UInt8
  offsetInFile : Nat := 0
  deriving DecidableEq, Repr

namespace FileHandle

def openOn (file : ByteString) : FileHandle := { file := file.bytes }

/-- `readData(ofLength:)` reads what there is from the offset on, up to the
length: nothing at the end of the file or behind it. -/
def readData (handle : FileHandle) (length : Nat) : List UInt8 × FileHandle :=
  let data := (handle.file.drop handle.offsetInFile).take length
  (data, { handle with offsetInFile := handle.offsetInFile + data.length })

/-- `seek(toFileOffset:)` may go behind the end of the file. An offset that
`lseek` cannot take raises an exception that Swift does not catch. -/
def seek (handle : FileHandle) (offset : Nat) : Option FileHandle :=
  if offset ≤ intMax then some { handle with offsetInFile := offset } else none

def read (handle : FileHandle) (count : Nat) : List UInt8 × FileHandle :=
  let (data, after) := handle.readData count
  (data.take count, after)

/-- The sum of two `UInt64` traps when it is none. -/
def skip (handle : FileHandle) (amount : UInt64) : Option FileHandle :=
  if handle.offsetInFile + amount.toNat < 2 ^ 64 then handle.seek (handle.offsetInFile + amount.toNat) else none

def perform (handle : FileHandle) : StreamRequest → Option (StreamAnswer × FileHandle)
  | .read count => some (.read (handle.read count).1, (handle.read count).2)
  | .skip amount => (handle.skip amount).map fun after => (.skipped, after)

end FileHandle

end SignalPods.LibSignal
