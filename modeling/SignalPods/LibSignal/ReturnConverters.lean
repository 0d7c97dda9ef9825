import SignalPods.LibSignal.ChatListener
import SignalPods.LibSignal.ColdAsyncStream

namespace SignalPods.LibSignal

/-- Native memory behind the pointers of a return value: what `String(cString:)`
reads there, the form in which `==` compares what was read, and what an error
there says. -/
structure NativeMemory where
  cString : Int → String
  canonical : String → String
  error : Int → SignalFfiError

/-- What a return value owns. A spine is the buffer of an array. -/
inductive Resource
  | buffer (base : Int)
  | string (pointer : Int)
  | handle (pointer : Int)
  | error (pointer : Int)
  | listOfStrings (base : Int)
  | spine (base : Int)
  deriving DecidableEq, Repr

/-- What becomes of a resource: it is given back to native code, or a Swift
object is its new owner. -/
inductive Consumption
  | freed (resource : Resource)
  | takenOver (resource : Resource)
  deriving DecidableEq, Repr

def Consumption.resource : Consumption → Resource
  | .freed resource => resource
  | .takenOver resource => resource

inductive ConversionError
  | invalidArgument (message : String)
  | internalError (message : String)
  | invalidServiceId
  deriving DecidableEq, Repr

/-- One call of `convertReturn(consuming:)`. -/
structure Conversion (Nice : Type) where
  consumed : List Consumption := []
  result : Except ConversionError Nice

structure NiceReturnConverter where
  FfiReturn : Type
  NiceReturn : Type
  convertReturn : FfiReturn → Conversion NiceReturn

def VoidConverter : NiceReturnConverter where
  FfiReturn := Bool
  NiceReturn := Unit
  convertReturn _ := { result := .ok () }

structure OwnedBuffer where
  base : Option Int
  contents : List UInt8

/-- `Data(consuming:)` -/
def DataConverter : NiceReturnConverter where
  FfiReturn := OwnedBuffer
  NiceReturn := List UInt8
  convertReturn value :=
    match value.base with
    | some base => { consumed := [.takenOver (.buffer base)], result := .ok value.contents }
    | none => { result := .ok [] }

def StringConverter (memory : NativeMemory) : NiceReturnConverter where
  FfiReturn := Option Int
  NiceReturn := String
  convertReturn value :=
    match value with
    | none => { result := .error (.invalidArgument "null CString") }
    | some pointer => { consumed := [.freed (.string pointer)], result := .ok (memory.cString pointer) }

def OptionalStringConverter (memory : NativeMemory) : NiceReturnConverter where
  FfiReturn := Option Int
  NiceReturn := Option String
  convertReturn value :=
    match value with
    | none => { result := .ok none }
    | some pointer => { consumed := [.freed (.string pointer)], result := .ok (some (memory.cString pointer)) }

/-- The types that conform to `DefaultInit`. -/
inductive DefaultInit
  | bool | int64 | uint64 | int32 | uint32 | int16 | uint16 | int8 | uint8 | float
  deriving DecidableEq, Repr

def DefaultInit.carrier : DefaultInit → Type
  | .bool => Bool
  | .int64 => Int64
  | .uint64 => UInt64
  | .int32 => Int32
  | .uint32 => UInt32
  | .int16 => Int16
  | .uint16 => UInt16
  | .int8 => Int8
  | .uint8 => UInt8
  | .float => Float32

def IdentityConverter (T : DefaultInit) : NiceReturnConverter where
  FfiReturn := T.carrier
  NiceReturn := T.carrier
  convertReturn value := { result := .ok value }

inductive ServiceIdKind
  | aci | pni
  deriving DecidableEq, Repr

structure ServiceId where
  kind : ServiceIdKind
  storage : Vector UInt8 17

def ServiceIdConverter : NiceReturnConverter where
  FfiReturn := Vector UInt8 17
  NiceReturn := ServiceId
  convertReturn value :=
    { result :=
        -- parseFrom(fixedWidthBinary:)
        if value[0] = 0 then .ok { kind := .aci, storage := value }
        else if value[0] = 1 then .ok { kind := .pni, storage := value }
        else .error .invalidServiceId }

/-- A pointer that `NonNull(_:)` and `convertError(_:)` make something of. -/
abbrev NonNullPointer := { pointer : Int // pointer ≠ 0 }

/-- The wrapper made by `T(owned:)`. -/
structure HandleWrapper where
  nativeHandle : NonNullPointer
  deriving DecidableEq

def BridgeHandleConverter : NiceReturnConverter where
  FfiReturn := NonNullPointer
  NiceReturn := HandleWrapper
  convertReturn value := { consumed := [.takenOver (.handle value)], result := .ok { nativeHandle := value } }

/-- `checkError` frees the error however its conversion goes. -/
def ErrorConverter (memory : NativeMemory) : NiceReturnConverter where
  FfiReturn := NonNullPointer
  NiceReturn := SignalFfiError
  convertReturn value := { consumed := [.freed (.error value)], result := .ok (memory.error value) }

def OptionalErrorConverter (memory : NativeMemory) : NiceReturnConverter where
  FfiReturn := Option Int
  NiceReturn := Option SignalFfiError
  convertReturn value :=
    match value with
    | none => { result := .ok none }
    | some pointer => { consumed := [.freed (.error pointer)], result := .ok (some (memory.error pointer)) }

def BulkPolledStreamTerminationConverter (memory : NativeMemory) : NiceReturnConverter where
  FfiReturn := Int
  NiceReturn := Option (BulkPolledStreamTermination SignalFfiError)
  convertReturn raw :=
    { consumed := if raw = 0 ∨ raw = -1 then [] else [.freed (.error raw)]
      result := .ok (BulkPolledStreamTerminationConverter.convertReturn memory.error raw) }

structure ListOfStrings where
  base : Int
  strings : List (Option Int)

/-- `headers[name] = value`: where the dictionary has an equal name, that name
stays and its value is replaced. -/
def insertHeader (memory : NativeMemory) (headers : List (String × String)) (name value : String) :
    List (String × String) :=
  if headers.any fun header => memory.canonical header.1 = memory.canonical name then
    headers.map fun header =>
      if memory.canonical header.1 = memory.canonical name then (header.1, value) else header
  else headers ++ [(name, value)]

def collectHeaders (memory : NativeMemory) :
    List (Option Int × Option Int) → List (String × String) → Except ConversionError (List (String × String))
  | [], headers => .ok headers
  | (some nextName, some nextValue) :: rest, headers =>
    collectHeaders memory rest (insertHeader memory headers (memory.cString nextName) (memory.cString nextValue))
  | _ :: _, _ => .error (.internalError "null pointer in BackupCdnCredentials headers")

def BackupCdnCredentialsConverter (memory : NativeMemory) : NiceReturnConverter where
  FfiReturn := ListOfStrings × ListOfStrings
  NiceReturn := List (String × String)
  convertReturn value :=
    { consumed := [.freed (.listOfStrings value.1.base), .freed (.listOfStrings value.2.base)]
      result :=
        if value.1.strings.length ≠ value.2.strings.length then
          .error (.internalError "BackupCdnCredentials headers do not have the same number of names and values")
        else collectHeaders memory (value.1.strings.zip value.2.strings) [] }

def FixedByteArrayConverter (count : Nat) : NiceReturnConverter where
  FfiReturn := Vector UInt8 count
  NiceReturn := List UInt8
  convertReturn value := { result := .ok value.toList }

def UuidNiceConverter : NiceReturnConverter where
  FfiReturn := Vector UInt8 16
  NiceReturn := Vector UInt8 16
  convertReturn value := { result := .ok value }

structure DeviceId where
  rawValue : UInt8
  valid : 1 ≤ rawValue.toNat ∧ rawValue.toNat ≤ 127

def DeviceIdConverter : NiceReturnConverter where
  FfiReturn := UInt8
  NiceReturn := DeviceId
  convertReturn value :=
    { result :=
        if valid : 1 ≤ value.toNat ∧ value.toNat ≤ 127 then .ok { rawValue := value, valid }
        else .error (.internalError "Invalid DeviceId") }

/-- Seconds since 1970. -/
def TimestampConverter : NiceReturnConverter where
  FfiReturn := UInt64
  NiceReturn := Float
  convertReturn value := { result := .ok (value.toFloat / 1000.0) }

structure OwnedBufferOfMaxAligned (Element : Type) where
  base : Int
  elements : List Element

/-- The loop variables of the array conversion. -/
structure ArrayLoop (Nice : Type) where
  consumed : List Consumption := []
  out : List Nice := []
  err : Option ConversionError := none

/-- One element; the loop goes on after an error. -/
def ArrayLoop.step (Converter : NiceReturnConverter) (loop : ArrayLoop Converter.NiceReturn) (x : Converter.FfiReturn) :
    ArrayLoop Converter.NiceReturn :=
  let conversion := Converter.convertReturn x
  match conversion.result with
  | .ok value => { loop with consumed := loop.consumed ++ conversion.consumed, out := loop.out ++ [value] }
  | .error error => { loop with consumed := loop.consumed ++ conversion.consumed, err := some error }

def ArrayReturnConverter (Converter : NiceReturnConverter) : NiceReturnConverter where
  FfiReturn := OwnedBufferOfMaxAligned Converter.FfiReturn
  NiceReturn := List Converter.NiceReturn
  convertReturn value :=
    let loop := value.elements.foldl (ArrayLoop.step Converter) {}
    { consumed := loop.consumed ++ [.freed (.spine value.base)]
      result := match loop.err with
        | some err => .error err
        | none => .ok loop.out }

structure SignalPairOf (First Second : Type) where
  first : First
  second : Second

/-- Both halves are converted before the result of either is looked at. -/
def PairOfResultConverter (FirstConverter SecondConverter : NiceReturnConverter) : NiceReturnConverter where
  FfiReturn := SignalPairOf FirstConverter.FfiReturn SecondConverter.FfiReturn
  NiceReturn := FirstConverter.NiceReturn × SecondConverter.NiceReturn
  convertReturn value :=
    let first := FirstConverter.convertReturn value.first
    let second := SecondConverter.convertReturn value.second
    { consumed := first.consumed ++ second.consumed
      result := do return (← first.result, ← second.result) }

structure SignalOptionalOf (Contents : Type) where
  present : Bool
  value : Contents

def OptionalReturnConverter (Inner : NiceReturnConverter) : NiceReturnConverter where
  FfiReturn := SignalOptionalOf Inner.FfiReturn
  NiceReturn := Option Inner.NiceReturn
  convertReturn value :=
    if value.present then
      let inner := Inner.convertReturn value.value
      { consumed := inner.consumed, result := inner.result.map some }
    else { result := .ok none }

inductive LeafConverter
  | void
  | data
  | string
  | optionalString
  | identity (T : DefaultInit)
  | serviceId
  | bridgeHandle
  | error
  | optionalError
  | bulkPolledStreamTermination
  | backupCdnCredentials
  | fixedByteArray (count : Nat)
  | uuid
  | deviceId
  | timestamp
  deriving DecidableEq, Repr

def LeafConverter.converter (memory : NativeMemory) : LeafConverter → NiceReturnConverter
  | .void => VoidConverter
  | .data => DataConverter
  | .string => StringConverter memory
  | .optionalString => OptionalStringConverter memory
  | .identity T => IdentityConverter T
  | .serviceId => ServiceIdConverter
  | .bridgeHandle => BridgeHandleConverter
  | .error => ErrorConverter memory
  | .optionalError => OptionalErrorConverter memory
  | .bulkPolledStreamTermination => BulkPolledStreamTerminationConverter memory
  | .backupCdnCredentials => BackupCdnCredentialsConverter memory
  | .fixedByteArray count => FixedByteArrayConverter count
  | .uuid => UuidNiceConverter
  | .deviceId => DeviceIdConverter
  | .timestamp => TimestampConverter

/-- The converters built from the leaves in any nesting. -/
inductive ReturnType
  | leaf (kind : LeafConverter)
  | array (element : ReturnType)
  | pair (first second : ReturnType)
  | optional (inner : ReturnType)
  deriving DecidableEq, Repr

def ReturnType.converter (memory : NativeMemory) : ReturnType → NiceReturnConverter
  | .leaf kind => kind.converter memory
  | .array element => ArrayReturnConverter (element.converter memory)
  | .pair first second => PairOfResultConverter (first.converter memory) (second.converter memory)
  | .optional inner => OptionalReturnConverter (inner.converter memory)

end SignalPods.LibSignal
