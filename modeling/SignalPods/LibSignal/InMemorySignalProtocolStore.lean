import Mathlib.Data.Finset.Insert
import Mathlib.Logic.Function.Basic

namespace SignalPods.LibSignal

/-- Keys and records are told apart by what they serialize to. -/
structure PublicKey where
  serialized : List UInt8
  deriving DecidableEq, Repr

structure PrivateKey where
  serialized : List UInt8
  deriving DecidableEq, Repr

structure IdentityKey where
  publicKey : PublicKey
  deriving DecidableEq, Repr

structure IdentityKeyPair where
  publicKey : PublicKey
  privateKey : PrivateKey
  deriving DecidableEq, Repr

structure PreKeyRecord where
  serialized : List UInt8
  deriving DecidableEq, Repr

structure SignedPreKeyRecord where
  serialized : List UInt8
  deriving DecidableEq, Repr

structure KyberPreKeyRecord where
  serialized : List UInt8
  deriving DecidableEq, Repr

structure SessionRecord where
  serialized : List UInt8
  deriving DecidableEq, Repr

structure SenderKeyRecord where
  serialized : List UInt8
  deriving DecidableEq, Repr

structure ProtocolAddress where
  name : String
  deviceId : UInt32
  deriving DecidableEq, Repr

/-- What `==` and `hash(into:)` of an address look at, the name in the form in
which `==` compares strings. -/
structure AddressKey where
  name : String
  deviceId : UInt32
  deriving DecidableEq, Repr

/-- Two names are equal as strings of Swift when `canonical` gives one text for both. -/
def ProtocolAddress.key (canonical : String → String) (address : ProtocolAddress) : AddressKey :=
  { name := canonical address.name, deviceId := address.deviceId }

def ProtocolAddress.debugDescription (address : ProtocolAddress) : String :=
  address.name ++ "." ++ toString address.deviceId

abbrev UUID := List UInt8

/-- A `SenderKeyName` as its synthesized `==` sees it. -/
structure SenderKeyName where
  sender : AddressKey
  distributionId : UUID
  deriving DecidableEq, Repr

inductive Direction
  | sending | receiving
  deriving DecidableEq, Repr

inductive IdentityChange
  | newOrUnchanged | replacedExisting
  deriving DecidableEq, Repr

/-- The cases of `SignalError` the store throws. -/
inductive StoreError
  | invalidKeyIdentifier (message : String)
  | invalidMessage (message : String)
  | sessionNotFound (message : String)
  deriving DecidableEq, Repr

structure InMemorySignalProtocolStore where
  publicKeys : AddressKey → Option IdentityKey := fun _ => none
  privateKey : IdentityKeyPair
  registrationId : UInt32
  prekeyMap : UInt32 → Option PreKeyRecord := fun _ => none
  signedPrekeyMap : UInt32 → Option SignedPreKeyRecord := fun _ => none
  kyberPrekeyMap : UInt32 → Option KyberPreKeyRecord := fun _ => none
  kyberPrekeysUsed : Finset UInt32 := ∅
  baseKeysSeen : UInt64 → Option (List PublicKey) := fun _ => none
  sessionMap : AddressKey → Option SessionRecord := fun _ => none
  senderKeyMap : SenderKeyName → Option SenderKeyRecord := fun _ => none

namespace InMemorySignalProtocolStore

/-- `init(identity:registrationId:)`, and `init()` with the values it draws. -/
def create (identity : IdentityKeyPair) (registrationId : UInt32) : InMemorySignalProtocolStore :=
  { privateKey := identity, registrationId }

/-- A method returns or throws, and may have changed the store before that. -/
abbrev Method (Value : Type) := InMemorySignalProtocolStore × Except StoreError Value

variable (store : InMemorySignalProtocolStore) (canonical : String → String)

def identityKeyPair : Method IdentityKeyPair := (store, .ok store.privateKey)

def localRegistrationId : Method UInt32 := (store, .ok store.registrationId)

def saveIdentity (identity : IdentityKey) (address : ProtocolAddress) : Method IdentityChange :=
  let oldIdentity := store.publicKeys (address.key canonical)
  let store := { store with publicKeys := Function.update store.publicKeys (address.key canonical) (some identity) }
  if oldIdentity = none ∨ oldIdentity = some identity then (store, .ok .newOrUnchanged)
  else (store, .ok .replacedExisting)

def isTrustedIdentity (identity : IdentityKey) (address : ProtocolAddress) (_direction : Direction) : Method Bool :=
  match store.publicKeys (address.key canonical) with
  | some pk => (store, .ok (pk == identity))
  | none => (store, .ok true)

def identity (address : ProtocolAddress) : Method (Option IdentityKey) :=
  (store, .ok (store.publicKeys (address.key canonical)))

def loadPreKey (id : UInt32) : Method PreKeyRecord :=
  match store.prekeyMap id with
  | some record => (store, .ok record)
  | none => (store, .error (.invalidKeyIdentifier "no prekey with this identifier"))

def storePreKey (record : PreKeyRecord) (id : UInt32) : Method Unit :=
  ({ store with prekeyMap := Function.update store.prekeyMap id (some record) }, .ok ())

def removePreKey (id : UInt32) : Method Unit :=
  ({ store with prekeyMap := Function.update store.prekeyMap id none }, .ok ())

def loadSignedPreKey (id : UInt32) : Method SignedPreKeyRecord :=
  match store.signedPrekeyMap id with
  | some record => (store, .ok record)
  | none => (store, .error (.invalidKeyIdentifier "no signed prekey with this identifier"))

def storeSignedPreKey (record : SignedPreKeyRecord) (id : UInt32) : Method Unit :=
  ({ store with signedPrekeyMap := Function.update store.signedPrekeyMap id (some record) }, .ok ())

def loadKyberPreKey (id : UInt32) : Method KyberPreKeyRecord :=
  match store.kyberPrekeyMap id with
  | some record => (store, .ok record)
  | none => (store, .error (.invalidKeyIdentifier "no kyber prekey with this identifier"))

def storeKyberPreKey (record : KyberPreKeyRecord) (id : UInt32) : Method Unit :=
  ({ store with kyberPrekeyMap := Function.update store.kyberPrekeyMap id (some record) }, .ok ())

/-- Both key ids in one word, the kyber id in the upper half. -/
def bothKeyIds (id signedPreKeyId : UInt32) : UInt64 := (id.toUInt64 <<< 32) ||| signedPreKeyId.toUInt64

def markKyberPreKeyUsed (id signedPreKeyId : UInt32) (baseKey : PublicKey) : Method Unit :=
  let bothKeyIds := bothKeyIds id signedPreKeyId
  if baseKey ∈ (store.baseKeysSeen bothKeyIds).getD [] then (store, .error (.invalidMessage "reused base key"))
  else
    ({ store with
        baseKeysSeen := Function.update store.baseKeysSeen bothKeyIds
          (some ((store.baseKeysSeen bothKeyIds).getD [] ++ [baseKey]))
        kyberPrekeysUsed := insert id store.kyberPrekeysUsed }, .ok ())

def loadSession (address : ProtocolAddress) : Method (Option SessionRecord) :=
  (store, .ok (store.sessionMap (address.key canonical)))

/-- The closure of `map` throws at the first address without a session. -/
def existingSessions : List ProtocolAddress → Except StoreError (List SessionRecord)
  | [] => .ok []
  | address :: addresses =>
    match store.sessionMap (address.key canonical) with
    | some session => (existingSessions addresses).map (session :: ·)
    | none => .error (.sessionNotFound address.debugDescription)

def loadExistingSessions (addresses : List ProtocolAddress) : Method (List SessionRecord) :=
  (store, store.existingSessions canonical addresses)

def storeSession (record : SessionRecord) (address : ProtocolAddress) : Method Unit :=
  ({ store with sessionMap := Function.update store.sessionMap (address.key canonical) (some record) }, .ok ())

def storeSenderKey (sender : ProtocolAddress) (distributionId : UUID) (record : SenderKeyRecord) : Method Unit :=
  let name : SenderKeyName := { sender := sender.key canonical, distributionId }
  ({ store with senderKeyMap := Function.update store.senderKeyMap name (some record) }, .ok ())

def loadSenderKey (sender : ProtocolAddress) (distributionId : UUID) : Method (Option SenderKeyRecord) :=
  (store, .ok (store.senderKeyMap { sender := sender.key canonical, distributionId }))

end InMemorySignalProtocolStore

/-- A call of a store method. -/
inductive StoreOperation
  | identityKeyPair
  | localRegistrationId
  | saveIdentity (identity : IdentityKey) (address : ProtocolAddress)
  | isTrustedIdentity (identity : IdentityKey) (address : ProtocolAddress) (direction : Direction)
  | identity (address : ProtocolAddress)
  | loadPreKey (id : UInt32)
  | storePreKey (record : PreKeyRecord) (id : UInt32)
  | removePreKey (id : UInt32)
  | loadSignedPreKey (id : UInt32)
  | storeSignedPreKey (record : SignedPreKeyRecord) (id : UInt32)
  | loadKyberPreKey (id : UInt32)
  | storeKyberPreKey (record : KyberPreKeyRecord) (id : UInt32)
  | markKyberPreKeyUsed (id signedPreKeyId : UInt32) (baseKey : PublicKey)
  | loadSession (address : ProtocolAddress)
  | loadExistingSessions (addresses : List ProtocolAddress)
  | storeSession (record : SessionRecord) (address : ProtocolAddress)
  | storeSenderKey (sender : ProtocolAddress) (distributionId : UUID) (record : SenderKeyRecord)
  | loadSenderKey (sender : ProtocolAddress) (distributionId : UUID)
  deriving DecidableEq, Repr

/-- What a method returns. -/
def StoreOperation.Value : StoreOperation → Type
  | .identityKeyPair => IdentityKeyPair
  | .localRegistrationId => UInt32
  | .saveIdentity _ _ => IdentityChange
  | .isTrustedIdentity _ _ _ => Bool
  | .identity _ => Option IdentityKey
  | .loadPreKey _ => PreKeyRecord
  | .loadSignedPreKey _ => SignedPreKeyRecord
  | .loadKyberPreKey _ => KyberPreKeyRecord
  | .loadSession _ => Option SessionRecord
  | .loadExistingSessions _ => List SessionRecord
  | .loadSenderKey _ _ => Option SenderKeyRecord
  | _ => Unit

def InMemorySignalProtocolStore.perform (store : InMemorySignalProtocolStore) (canonical : String → String) :
    (operation : StoreOperation) → Method operation.Value
  | .identityKeyPair => store.identityKeyPair
  | .localRegistrationId => store.localRegistrationId
  | .saveIdentity identity address => store.saveIdentity canonical identity address
  | .isTrustedIdentity identity address direction => store.isTrustedIdentity canonical identity address direction
  | .identity address => store.identity canonical address
  | .loadPreKey id => store.loadPreKey id
  | .storePreKey record id => store.storePreKey record id
  | .removePreKey id => store.removePreKey id
  | .loadSignedPreKey id => store.loadSignedPreKey id
  | .storeSignedPreKey record id => store.storeSignedPreKey record id
  | .loadKyberPreKey id => store.loadKyberPreKey id
  | .storeKyberPreKey record id => store.storeKyberPreKey record id
  | .markKyberPreKeyUsed id signedPreKeyId baseKey => store.markKyberPreKeyUsed id signedPreKeyId baseKey
  | .loadSession address => store.loadSession canonical address
  | .loadExistingSessions addresses => store.loadExistingSessions canonical addresses
  | .storeSession record address => store.storeSession canonical record address
  | .storeSenderKey sender distributionId record => store.storeSenderKey canonical sender distributionId record
  | .loadSenderKey sender distributionId => store.loadSenderKey canonical sender distributionId

def InMemorySignalProtocolStore.next (canonical : String → String) (store : InMemorySignalProtocolStore)
    (operation : StoreOperation) : InMemorySignalProtocolStore := (store.perform canonical operation).1

end SignalPods.LibSignal
