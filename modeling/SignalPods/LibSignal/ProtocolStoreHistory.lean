import SignalPods.LibSignal.InMemorySignalProtocolStore
import SignalPods.Machine.History
import SignalPods.Machine.Reach

namespace SignalPods.LibSignal

open Machine

namespace StoreOperation

variable (canonical : String → String)

/-- What an operation puts into the map of identities under an address. -/
def identityFor (address : AddressKey) : StoreOperation → Option (Option IdentityKey)
  | saveIdentity key address' => if address'.key canonical = address then some (some key) else none
  | _ => none

def preKeyFor (id : UInt32) : StoreOperation → Option (Option PreKeyRecord)
  | storePreKey record id' => if id' = id then some (some record) else none
  | removePreKey id' => if id' = id then some none else none
  | _ => none

def signedPreKeyFor (id : UInt32) : StoreOperation → Option (Option SignedPreKeyRecord)
  | storeSignedPreKey record id' => if id' = id then some (some record) else none
  | _ => none

def kyberPreKeyFor (id : UInt32) : StoreOperation → Option (Option KyberPreKeyRecord)
  | storeKyberPreKey record id' => if id' = id then some (some record) else none
  | _ => none

def sessionFor (address : AddressKey) : StoreOperation → Option (Option SessionRecord)
  | storeSession record address' => if address'.key canonical = address then some (some record) else none
  | _ => none

def senderKeyFor (name : SenderKeyName) : StoreOperation → Option (Option SenderKeyRecord)
  | storeSenderKey sender distributionId record =>
    if ({ sender := sender.key canonical, distributionId } : SenderKeyName) = name then some (some record) else none
  | _ => none

end StoreOperation

/-- A finite map that is only changed under the key of an operation, read after
the operations `past`. -/
def mapAfter {Key Value : Type} (change : Key → StoreOperation → Option (Option Value)) (past : List StoreOperation)
    (key : Key) : Option Value :=
  (latest (change key) past).join

theorem mapAfter_concat {Key Value : Type} (change : Key → StoreOperation → Option (Option Value))
    (past : List StoreOperation) (operation : StoreOperation) (key : Key) :
    mapAfter change (past ++ [operation]) key = (change key operation).getD (mapAfter change past key) := by
  unfold mapAfter
  rw [latest_concat]
  cases change key operation <;> rfl

namespace InMemorySignalProtocolStore

variable (store : InMemorySignalProtocolStore) (canonical : String → String)

section Methods

@[simp] theorem isTrustedIdentity_store (key : IdentityKey) (address : ProtocolAddress) (direction : Direction) :
    (store.isTrustedIdentity canonical key address direction).1 = store := by
  unfold isTrustedIdentity
  split <;> rfl

@[simp] theorem loadPreKey_store (id : UInt32) : (store.loadPreKey id).1 = store := by
  unfold loadPreKey
  split <;> rfl

@[simp] theorem loadSignedPreKey_store (id : UInt32) : (store.loadSignedPreKey id).1 = store := by
  unfold loadSignedPreKey
  split <;> rfl

@[simp] theorem loadKyberPreKey_store (id : UInt32) : (store.loadKyberPreKey id).1 = store := by
  unfold loadKyberPreKey
  split <;> rfl

@[simp] theorem saveIdentity_store (key : IdentityKey) (address : ProtocolAddress) :
    (store.saveIdentity canonical key address).1 =
      { store with publicKeys := Function.update store.publicKeys (address.key canonical) (some key) } := by
  unfold saveIdentity
  dsimp only
  split <;> rfl

/-- A base key is refused when it is on the list of its two key ids, and goes on
that list otherwise. -/
theorem markKyberPreKeyUsed_cases (id signedPreKeyId : UInt32) (baseKey : PublicKey) :
    (baseKey ∈ (store.baseKeysSeen (bothKeyIds id signedPreKeyId)).getD [] ∧
        store.markKyberPreKeyUsed id signedPreKeyId baseKey = (store, .error (.invalidMessage "reused base key"))) ∨
      (baseKey ∉ (store.baseKeysSeen (bothKeyIds id signedPreKeyId)).getD [] ∧
        store.markKyberPreKeyUsed id signedPreKeyId baseKey =
          ({ store with
              baseKeysSeen := Function.update store.baseKeysSeen (bothKeyIds id signedPreKeyId)
                (some ((store.baseKeysSeen (bothKeyIds id signedPreKeyId)).getD [] ++ [baseKey]))
              kyberPrekeysUsed := insert id store.kyberPrekeysUsed }, .ok ())) := by
  by_cases seen : baseKey ∈ (store.baseKeysSeen (bothKeyIds id signedPreKeyId)).getD []
  · exact Or.inl ⟨seen, if_pos seen⟩
  · exact Or.inr ⟨seen, if_neg seen⟩

/-- The two halves of the packed word do not run into each other. -/
theorem bothKeyIds_injective {id signedPreKeyId id' signedPreKeyId' : UInt32}
    (same : bothKeyIds id signedPreKeyId = bothKeyIds id' signedPreKeyId') :
    id = id' ∧ signedPreKeyId = signedPreKeyId' := by
  have word (upper lower : UInt32) : (bothKeyIds upper lower).toNat = upper.toNat * 2 ^ 32 + lower.toNat := by
    have bound := lower.toNat_lt
    have bound' := upper.toNat_lt
    have amount : UInt64.toNat 32 % 64 = 32 := rfl
    have fits : upper.toNat * 2 ^ 32 < 2 ^ 64 := by omega
    rw [bothKeyIds, UInt64.toNat_or, UInt64.toNat_shiftLeft, UInt32.toNat_toUInt64, UInt32.toNat_toUInt64, amount,
      Nat.shiftLeft_eq, Nat.mod_eq_of_lt fits, ← Nat.shiftLeft_eq, ← Nat.shiftLeft_add_eq_or_of_lt bound]
  have numbers := congrArg UInt64.toNat same
  rw [word, word] at numbers
  have lower := signedPreKeyId.toNat_lt
  have lower' := signedPreKeyId'.toNat_lt
  constructor
  · apply UInt32.toNat_inj.mp
    omega
  · apply UInt32.toNat_inj.mp
    omega

theorem update_eq_getD {Key Value : Type} [DecidableEq Key] (map : Key → Option Value) (key : Key)
    (value : Option Value) :
    Function.update map key value = fun key' => (if key = key' then some value else none).getD (map key') := by
  funext key'
  rw [Function.update_apply]
  by_cases same : key' = key
  · simp [same]
  · simp [same, Ne.symm same]

/-- Every map is changed under the operation's own key or not at all. -/
theorem next_maps (operation : StoreOperation) :
    (store.next canonical operation).privateKey = store.privateKey ∧
      (store.next canonical operation).registrationId = store.registrationId ∧
      (∀ address, (store.next canonical operation).publicKeys address =
        (operation.identityFor canonical address).getD (store.publicKeys address)) ∧
      (∀ id, (store.next canonical operation).prekeyMap id = (operation.preKeyFor id).getD (store.prekeyMap id)) ∧
      (∀ id, (store.next canonical operation).signedPrekeyMap id =
        (operation.signedPreKeyFor id).getD (store.signedPrekeyMap id)) ∧
      (∀ id, (store.next canonical operation).kyberPrekeyMap id =
        (operation.kyberPreKeyFor id).getD (store.kyberPrekeyMap id)) ∧
      (∀ address, (store.next canonical operation).sessionMap address =
        (operation.sessionFor canonical address).getD (store.sessionMap address)) ∧
      (∀ name, (store.next canonical operation).senderKeyMap name =
        (operation.senderKeyFor canonical name).getD (store.senderKeyMap name)) := by
  cases operation with
  | markKyberPreKeyUsed id signedPreKeyId baseKey =>
    rcases store.markKyberPreKeyUsed_cases id signedPreKeyId baseKey with ⟨_, marked⟩ | ⟨_, marked⟩ <;>
      simp [next, perform, marked, StoreOperation.identityFor, StoreOperation.preKeyFor,
        StoreOperation.signedPreKeyFor, StoreOperation.kyberPreKeyFor, StoreOperation.sessionFor,
        StoreOperation.senderKeyFor]
  | _ =>
    simp [next, perform, identityKeyPair, localRegistrationId, identity, storePreKey, removePreKey, storeSignedPreKey,
      storeKyberPreKey, loadSession, loadExistingSessions, storeSession, storeSenderKey, loadSenderKey,
      update_eq_getD, StoreOperation.identityFor, StoreOperation.preKeyFor, StoreOperation.signedPreKeyFor,
      StoreOperation.kyberPreKeyFor, StoreOperation.sessionFor, StoreOperation.senderKeyFor]

/-- Only a use of a kyber key touches what is known of used keys. -/
theorem next_used {operation : StoreOperation}
    (other : ∀ id signedPreKeyId baseKey, operation ≠ .markKyberPreKeyUsed id signedPreKeyId baseKey) :
    (store.next canonical operation).baseKeysSeen = store.baseKeysSeen ∧
      (store.next canonical operation).kyberPrekeysUsed = store.kyberPrekeysUsed := by
  cases operation with
  | markKyberPreKeyUsed id signedPreKeyId baseKey => exact absurd rfl (other id signedPreKeyId baseKey)
  | _ =>
    simp [next, perform, identityKeyPair, localRegistrationId, identity, storePreKey, removePreKey, storeSignedPreKey,
      storeKyberPreKey, loadSession, loadExistingSessions, storeSession, storeSenderKey, loadSenderKey]

end Methods

/-- The store after a run of operations. -/
def run (canonical : String → String) (identity : IdentityKeyPair) (registrationId : UInt32)
    (past : List StoreOperation) : InMemorySignalProtocolStore :=
  past.foldl (next canonical) (create identity registrationId)

/-- The fields of the store are what the operations say they are. -/
structure Follows (canonical : String → String) (identity : IdentityKeyPair) (registrationId : UInt32)
    (past : List StoreOperation) (store : InMemorySignalProtocolStore) : Prop where
  privateKey : store.privateKey = identity
  registrationId : store.registrationId = registrationId
  publicKeys : ∀ address, store.publicKeys address = mapAfter (StoreOperation.identityFor canonical) past address
  prekeyMap : ∀ id, store.prekeyMap id = mapAfter StoreOperation.preKeyFor past id
  signedPrekeyMap : ∀ id, store.signedPrekeyMap id = mapAfter StoreOperation.signedPreKeyFor past id
  kyberPrekeyMap : ∀ id, store.kyberPrekeyMap id = mapAfter StoreOperation.kyberPreKeyFor past id
  sessionMap : ∀ address, store.sessionMap address = mapAfter (StoreOperation.sessionFor canonical) past address
  senderKeyMap : ∀ name, store.senderKeyMap name = mapAfter (StoreOperation.senderKeyFor canonical) past name
  /-- A base key is on the list of its two key ids once it was presented with them. -/
  baseKeysSeen : ∀ id signedPreKeyId baseKey, baseKey ∈ (store.baseKeysSeen (bothKeyIds id signedPreKeyId)).getD [] ↔
    .markKyberPreKeyUsed id signedPreKeyId baseKey ∈ past
  kyberPrekeysUsed : ∀ id, id ∈ store.kyberPrekeysUsed ↔
    ∃ signedPreKeyId baseKey, .markKyberPreKeyUsed id signedPreKeyId baseKey ∈ past

variable {canonical : String → String} {identity : IdentityKeyPair} {registrationId : UInt32}
  {past : List StoreOperation} {store : InMemorySignalProtocolStore}

theorem Follows.seen_next (follows : Follows canonical identity registrationId past store) (operation : StoreOperation)
    (id signedPreKeyId : UInt32) (baseKey : PublicKey) :
    baseKey ∈ ((store.next canonical operation).baseKeysSeen (bothKeyIds id signedPreKeyId)).getD [] ↔
      .markKyberPreKeyUsed id signedPreKeyId baseKey ∈ past ++ [operation] := by
  rw [List.mem_append, List.mem_singleton]
  by_cases mark : ∃ id signedPreKeyId baseKey, operation = .markKyberPreKeyUsed id signedPreKeyId baseKey
  · obtain ⟨id', signedPreKeyId', baseKey', rfl⟩ := mark
    rcases store.markKyberPreKeyUsed_cases id' signedPreKeyId' baseKey' with ⟨seen, marked⟩ | ⟨_, marked⟩
    · have presented := (follows.baseKeysSeen id' signedPreKeyId' baseKey').mp seen
      simp only [next, perform, marked, follows.baseKeysSeen, StoreOperation.markKyberPreKeyUsed.injEq]
      constructor
      · exact Or.inl
      · rintro (before | ⟨rfl, rfl, rfl⟩)
        · exact before
        · exact presented
    · simp only [next, perform, marked, StoreOperation.markKyberPreKeyUsed.injEq]
      by_cases same : bothKeyIds id signedPreKeyId = bothKeyIds id' signedPreKeyId'
      · obtain ⟨rfl, rfl⟩ := bothKeyIds_injective same
        simp [follows.baseKeysSeen]
      · have other : ¬ (id = id' ∧ signedPreKeyId = signedPreKeyId' ∧ baseKey = baseKey') := by
          rintro ⟨rfl, rfl, _⟩
          exact same rfl
        rw [Function.update_of_ne same]
        simp [follows.baseKeysSeen, other]
  · have other : ∀ id signedPreKeyId baseKey, operation ≠ .markKyberPreKeyUsed id signedPreKeyId baseKey :=
      fun id signedPreKeyId baseKey same => mark ⟨id, signedPreKeyId, baseKey, same⟩
    rw [(store.next_used canonical other).1, follows.baseKeysSeen]
    simp [(other _ _ _).symm]

theorem Follows.used_next (follows : Follows canonical identity registrationId past store) (operation : StoreOperation)
    (id : UInt32) : id ∈ (store.next canonical operation).kyberPrekeysUsed ↔
      ∃ signedPreKeyId baseKey, .markKyberPreKeyUsed id signedPreKeyId baseKey ∈ past ++ [operation] := by
  simp only [List.mem_append, List.mem_singleton, exists_or]
  by_cases mark : ∃ id signedPreKeyId baseKey, operation = .markKyberPreKeyUsed id signedPreKeyId baseKey
  · obtain ⟨id', signedPreKeyId', baseKey', rfl⟩ := mark
    rcases store.markKyberPreKeyUsed_cases id' signedPreKeyId' baseKey' with ⟨seen, marked⟩ | ⟨_, marked⟩
    · have presented := (follows.baseKeysSeen id' signedPreKeyId' baseKey').mp seen
      simp only [next, perform, marked, follows.kyberPrekeysUsed, StoreOperation.markKyberPreKeyUsed.injEq]
      constructor
      · exact Or.inl
      · rintro (before | ⟨_, _, rfl, rfl, rfl⟩)
        · exact before
        · exact ⟨_, _, presented⟩
    · simp only [next, perform, marked, Finset.mem_insert, follows.kyberPrekeysUsed,
        StoreOperation.markKyberPreKeyUsed.injEq]
      constructor
      · rintro (rfl | before)
        · exact Or.inr ⟨_, _, rfl, rfl, rfl⟩
        · exact Or.inl before
      · rintro (before | ⟨_, _, rfl, _⟩)
        · exact Or.inr before
        · exact Or.inl rfl
  · have other : ∀ id signedPreKeyId baseKey, operation ≠ .markKyberPreKeyUsed id signedPreKeyId baseKey :=
      fun id signedPreKeyId baseKey same => mark ⟨id, signedPreKeyId, baseKey, same⟩
    rw [(store.next_used canonical other).2, follows.kyberPrekeysUsed]
    simp [(other _ _ _).symm]

/-- One more operation. -/
theorem Follows.next (follows : Follows canonical identity registrationId past store) (operation : StoreOperation) :
    Follows canonical identity registrationId (past ++ [operation]) (store.next canonical operation) := by
  obtain ⟨key, number, identities, preKeys, signed, kyber, sessions, senders⟩ := store.next_maps canonical operation
  exact
    { privateKey := key.trans follows.privateKey
      registrationId := number.trans follows.registrationId
      publicKeys := fun address => by rw [identities, mapAfter_concat, follows.publicKeys]
      prekeyMap := fun id => by rw [preKeys, mapAfter_concat, follows.prekeyMap]
      signedPrekeyMap := fun id => by rw [signed, mapAfter_concat, follows.signedPrekeyMap]
      kyberPrekeyMap := fun id => by rw [kyber, mapAfter_concat, follows.kyberPrekeyMap]
      sessionMap := fun address => by rw [sessions, mapAfter_concat, follows.sessionMap]
      senderKeyMap := fun name => by rw [senders, mapAfter_concat, follows.senderKeyMap]
      baseKeysSeen := follows.seen_next operation
      kyberPrekeysUsed := follows.used_next operation }

theorem run_follows (canonical : String → String) (identity : IdentityKeyPair) (registrationId : UInt32)
    (past : List StoreOperation) :
    Follows canonical identity registrationId past (run canonical identity registrationId past) := by
  refine foldl_invariant (next canonical) (Follows canonical identity registrationId) ?_ ?_ past
  · exact
      { privateKey := rfl
        registrationId := rfl
        publicKeys := fun _ => rfl
        prekeyMap := fun _ => rfl
        signedPrekeyMap := fun _ => rfl
        kyberPrekeyMap := fun _ => rfl
        sessionMap := fun _ => rfl
        senderKeyMap := fun _ => rfl
        baseKeysSeen := fun _ _ _ => by simp [create]
        kyberPrekeysUsed := fun _ => by simp [create] }
  · intro past store operation follows
    exact follows.next operation

end InMemorySignalProtocolStore

end SignalPods.LibSignal
