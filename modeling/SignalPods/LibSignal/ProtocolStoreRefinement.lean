import SignalPods.LibSignal.ProtocolStoreHistory

namespace SignalPods.LibSignal

open Machine

/-- What a load of a record by its id gives. -/
def recordOr {Record : Type} (message : String) : Option Record → Except StoreError Record
  | some record => .ok record
  | none => .error (.invalidKeyIdentifier message)

/-- The sessions of some addresses, or the first address that has none. -/
def sessionsOr (session : ProtocolAddress → Option SessionRecord) (addresses : List ProtocolAddress) :
    Except StoreError (List SessionRecord) :=
  match addresses.find? (fun address => (session address).isNone) with
  | none => .ok (addresses.filterMap session)
  | some address => .error (.sessionNotFound address.debugDescription)

namespace StoreOperation

variable (canonical : String → String)

/-- The identity under an address is replaced by another one. -/
def Replaces (past : List StoreOperation) (key : IdentityKey) (address : ProtocolAddress) : Prop :=
  ∃ other, mapAfter (identityFor canonical) past (address.key canonical) = some other ∧ other ≠ key

instance (past : List StoreOperation) (key : IdentityKey) (address : ProtocolAddress) :
    Decidable (Replaces canonical past key address) :=
  match stored : mapAfter (identityFor canonical) past (address.key canonical) with
  | none => isFalse (by simp [Replaces, stored])
  | some other => decidable_of_iff (other ≠ key) (by simp [Replaces, stored])

/-- No other identity is known under the address. -/
def Trusts (past : List StoreOperation) (key : IdentityKey) (address : ProtocolAddress) : Prop :=
  mapAfter (identityFor canonical) past (address.key canonical) = none ∨
    mapAfter (identityFor canonical) past (address.key canonical) = some key

instance (past : List StoreOperation) (key : IdentityKey) (address : ProtocolAddress) :
    Decidable (Trusts canonical past key address) := inferInstanceAs (Decidable (_ ∨ _))

/-- What a call gives after the operations `past`, from independent maps. -/
def expected (identity : IdentityKeyPair) (registrationId : UInt32) (past : List StoreOperation) :
    (operation : StoreOperation) → Except StoreError operation.Value
  | .identityKeyPair => .ok identity
  | .localRegistrationId => .ok registrationId
  | .saveIdentity key address =>
    .ok (if Replaces canonical past key address then .replacedExisting else .newOrUnchanged)
  | .isTrustedIdentity key address _ => .ok (decide (Trusts canonical past key address))
  | .identity address => .ok (mapAfter (identityFor canonical) past (address.key canonical))
  | .loadPreKey id => recordOr "no prekey with this identifier" (mapAfter preKeyFor past id)
  | .storePreKey _ _ => .ok ()
  | .removePreKey _ => .ok ()
  | .loadSignedPreKey id => recordOr "no signed prekey with this identifier" (mapAfter signedPreKeyFor past id)
  | .storeSignedPreKey _ _ => .ok ()
  | .loadKyberPreKey id => recordOr "no kyber prekey with this identifier" (mapAfter kyberPreKeyFor past id)
  | .storeKyberPreKey _ _ => .ok ()
  | .markKyberPreKeyUsed id signedPreKeyId baseKey =>
    if .markKyberPreKeyUsed id signedPreKeyId baseKey ∈ past then .error (.invalidMessage "reused base key") else .ok ()
  | .loadSession address => .ok (mapAfter (sessionFor canonical) past (address.key canonical))
  | .loadExistingSessions addresses =>
    sessionsOr (fun address => mapAfter (sessionFor canonical) past (address.key canonical)) addresses
  | .storeSession _ _ => .ok ()
  | .storeSenderKey _ _ _ => .ok ()
  | .loadSenderKey sender distributionId =>
    .ok (mapAfter (senderKeyFor canonical) past { sender := sender.key canonical, distributionId })

end StoreOperation

namespace InMemorySignalProtocolStore

section Methods

variable (store : InMemorySignalProtocolStore) (canonical : String → String)

theorem saveIdentity_value (key : IdentityKey) (address : ProtocolAddress)
    [Decidable (∃ other, store.publicKeys (address.key canonical) = some other ∧ other ≠ key)] :
    (store.saveIdentity canonical key address).2 =
      .ok (if ∃ other, store.publicKeys (address.key canonical) = some other ∧ other ≠ key then .replacedExisting
        else .newOrUnchanged) := by
  unfold saveIdentity
  dsimp only
  split
  · rename_i kept
    rw [if_neg]
    rintro ⟨other, stored, different⟩
    simp [stored, different] at kept
  · rename_i replaced
    obtain ⟨absent, different⟩ := not_or.mp replaced
    obtain ⟨other, stored⟩ := Option.ne_none_iff_exists'.mp absent
    rw [if_pos ⟨other, stored, fun same => different (same ▸ stored)⟩]

theorem isTrustedIdentity_value (key : IdentityKey) (address : ProtocolAddress) (direction : Direction) :
    (store.isTrustedIdentity canonical key address direction).2 =
      .ok (decide (store.publicKeys (address.key canonical) = none ∨
        store.publicKeys (address.key canonical) = some key)) := by
  unfold isTrustedIdentity
  cases store.publicKeys (address.key canonical) with
  | none => simp
  | some old => simp [beq_eq_decide]

theorem loadPreKey_value (id : UInt32) :
    (store.loadPreKey id).2 = recordOr "no prekey with this identifier" (store.prekeyMap id) := by
  unfold loadPreKey
  cases store.prekeyMap id <;> rfl

theorem loadSignedPreKey_value (id : UInt32) :
    (store.loadSignedPreKey id).2 = recordOr "no signed prekey with this identifier" (store.signedPrekeyMap id) := by
  unfold loadSignedPreKey
  cases store.signedPrekeyMap id <;> rfl

theorem loadKyberPreKey_value (id : UInt32) :
    (store.loadKyberPreKey id).2 = recordOr "no kyber prekey with this identifier" (store.kyberPrekeyMap id) := by
  unfold loadKyberPreKey
  cases store.kyberPrekeyMap id <;> rfl

theorem existingSessions_eq (addresses : List ProtocolAddress) :
    store.existingSessions canonical addresses =
      sessionsOr (fun address => store.sessionMap (address.key canonical)) addresses := by
  induction addresses with
  | nil => rfl
  | cons address addresses ih =>
    unfold existingSessions
    cases known : store.sessionMap (address.key canonical) with
    | none => simp [sessionsOr, known]
    | some session =>
      simp only [ih, sessionsOr, List.find?_cons, List.filterMap_cons, known, Option.isNone_some]
      cases addresses.find? (fun address => (store.sessionMap (address.key canonical)).isNone) <;> rfl

/-- A method that throws has changed nothing. -/
theorem perform_error {operation : StoreOperation} {error : StoreError}
    (failed : (store.perform canonical operation).2 = .error error) :
    (store.perform canonical operation).1 = store := by
  cases operation with
  | markKyberPreKeyUsed id signedPreKeyId baseKey =>
    rcases store.markKyberPreKeyUsed_cases id signedPreKeyId baseKey with ⟨_, marked⟩ | ⟨_, marked⟩
    · rw [perform, marked]
    · rw [perform, marked] at failed
      cases failed
  | saveIdentity key address =>
    simp only [perform, saveIdentity] at failed
    split at failed <;> cases failed
  | isTrustedIdentity key address direction => exact store.isTrustedIdentity_store canonical key address direction
  | loadPreKey id => exact store.loadPreKey_store id
  | loadSignedPreKey id => exact store.loadSignedPreKey_store id
  | loadKyberPreKey id => exact store.loadKyberPreKey_store id
  | loadExistingSessions addresses => rfl
  | _ => cases failed

end Methods

variable {canonical : String → String} {identity : IdentityKeyPair} {registrationId : UInt32}
  {past : List StoreOperation} {store : InMemorySignalProtocolStore}

/-- The store answers like the maps it follows. -/
theorem Follows.perform (follows : Follows canonical identity registrationId past store) (operation : StoreOperation) :
    (store.perform canonical operation).2 = operation.expected canonical identity registrationId past := by
  cases operation with
  | identityKeyPair => exact congrArg Except.ok follows.privateKey
  | localRegistrationId => exact congrArg Except.ok follows.registrationId
  | saveIdentity key address =>
    have stored := follows.publicKeys (address.key canonical)
    refine (store.saveIdentity_value canonical key address).trans (congrArg Except.ok (if_congr ?_ rfl rfl))
    rw [StoreOperation.Replaces, stored]
  | isTrustedIdentity key address direction =>
    have stored := follows.publicKeys (address.key canonical)
    refine (store.isTrustedIdentity_value canonical key address direction).trans
      (congrArg Except.ok (decide_eq_decide.mpr ?_))
    rw [StoreOperation.Trusts, stored]
  | identity address => exact congrArg Except.ok (follows.publicKeys (address.key canonical))
  | loadPreKey id =>
    exact (store.loadPreKey_value id).trans (congrArg (recordOr _) (follows.prekeyMap id))
  | loadSignedPreKey id =>
    exact (store.loadSignedPreKey_value id).trans (congrArg (recordOr _) (follows.signedPrekeyMap id))
  | loadKyberPreKey id =>
    exact (store.loadKyberPreKey_value id).trans (congrArg (recordOr _) (follows.kyberPrekeyMap id))
  | markKyberPreKeyUsed id signedPreKeyId baseKey =>
    have presented := follows.baseKeysSeen id signedPreKeyId baseKey
    rw [InMemorySignalProtocolStore.perform, StoreOperation.expected]
    rcases store.markKyberPreKeyUsed_cases id signedPreKeyId baseKey with ⟨seen, marked⟩ | ⟨unseen, marked⟩
    · rw [marked, if_pos (presented.mp seen)]
      rfl
    · rw [marked, if_neg (mt presented.mpr unseen)]
      rfl
  | loadSession address => exact congrArg Except.ok (follows.sessionMap (address.key canonical))
  | loadExistingSessions addresses =>
    have sessions : store.sessionMap = mapAfter (StoreOperation.sessionFor canonical) past := funext follows.sessionMap
    rw [StoreOperation.expected, ← sessions]
    exact store.existingSessions_eq canonical addresses
  | loadSenderKey sender distributionId =>
    exact congrArg Except.ok (follows.senderKeyMap { sender := sender.key canonical, distributionId })
  | _ => rfl

/-- A use of a kyber key is accepted when it is made for the first time. -/
theorem markKyberPreKeyUsed_ok_iff (canonical : String → String) (identity : IdentityKeyPair) (registrationId : UInt32)
    (past : List StoreOperation) (id signedPreKeyId : UInt32) (baseKey : PublicKey) :
    ((run canonical identity registrationId past).markKyberPreKeyUsed id signedPreKeyId baseKey).2 = .ok () ↔
      .markKyberPreKeyUsed id signedPreKeyId baseKey ∉ past := by
  have answer : ((run canonical identity registrationId past).markKyberPreKeyUsed id signedPreKeyId baseKey).2 =
      if .markKyberPreKeyUsed id signedPreKeyId baseKey ∈ past then .error (.invalidMessage "reused base key")
      else .ok () :=
    (run_follows canonical identity registrationId past).perform (.markKyberPreKeyUsed id signedPreKeyId baseKey)
  rw [answer]
  by_cases presented : .markKyberPreKeyUsed id signedPreKeyId baseKey ∈ past <;> simp [presented]

/-- The used ids are those of the accepted uses. -/
theorem mem_kyberPrekeysUsed_iff (canonical : String → String) (identity : IdentityKeyPair) (registrationId : UInt32)
    (past : List StoreOperation) (id : UInt32) : id ∈ (run canonical identity registrationId past).kyberPrekeysUsed ↔
      ∃ before signedPreKeyId baseKey after, past = before ++ .markKyberPreKeyUsed id signedPreKeyId baseKey :: after ∧
        ((run canonical identity registrationId before).markKyberPreKeyUsed id signedPreKeyId baseKey).2 = .ok () := by
  rw [(run_follows canonical identity registrationId past).kyberPrekeysUsed]
  constructor
  · rintro ⟨signedPreKeyId, baseKey, presented⟩
    obtain ⟨before, after, split, first⟩ := List.eq_append_cons_of_mem presented
    exact ⟨before, signedPreKeyId, baseKey, after, split,
      (markKyberPreKeyUsed_ok_iff canonical identity registrationId before id signedPreKeyId baseKey).mpr first⟩
  · rintro ⟨before, signedPreKeyId, baseKey, after, rfl, _⟩
    exact ⟨signedPreKeyId, baseKey, by simp⟩

/-- The store refines independent maps over every run, two addresses being one
key when Swift calls them equal: a call answers what they
hold, a call that throws changes nothing, and a use of a kyber key is accepted
once. -/
theorem run_refines_maps (canonical : String → String) (identity : IdentityKeyPair) (registrationId : UInt32)
    (past : List StoreOperation) :
    let store := run canonical identity registrationId past
    (∀ operation, (store.perform canonical operation).2 = operation.expected canonical identity registrationId past) ∧
      (∀ key address, (store.saveIdentity canonical key address).2 = .ok .replacedExisting ↔
        ∃ other, mapAfter (StoreOperation.identityFor canonical) past (address.key canonical) = some other ∧
          other ≠ key) ∧
      (∀ key address, ((store.saveIdentity canonical key address).1.identity canonical address).2 = .ok (some key)) ∧
      (∀ key address direction, (store.isTrustedIdentity canonical key address direction).2 = .ok true ↔
        mapAfter (StoreOperation.identityFor canonical) past (address.key canonical) = none ∨
          mapAfter (StoreOperation.identityFor canonical) past (address.key canonical) = some key) ∧
      (∀ operation error, (store.perform canonical operation).2 = .error error →
        (store.perform canonical operation).1 = store) ∧
      (∀ id signedPreKeyId baseKey, (store.markKyberPreKeyUsed id signedPreKeyId baseKey).2 = .ok () ↔
        .markKyberPreKeyUsed id signedPreKeyId baseKey ∉ past) ∧
      (∀ id, id ∈ store.kyberPrekeysUsed ↔ ∃ before signedPreKeyId baseKey after,
        past = before ++ .markKyberPreKeyUsed id signedPreKeyId baseKey :: after ∧
          ((run canonical identity registrationId before).markKyberPreKeyUsed id signedPreKeyId baseKey).2 =
            .ok ()) := by
  intro store
  have follows : Follows canonical identity registrationId past store :=
    run_follows canonical identity registrationId past
  refine ⟨follows.perform, ?_, ?_, ?_, ?_, ?_, ?_⟩
  · intro key address
    have answer : (store.saveIdentity canonical key address).2 =
        .ok (if StoreOperation.Replaces canonical past key address then .replacedExisting else .newOrUnchanged) :=
      follows.perform (.saveIdentity key address)
    change _ ↔ StoreOperation.Replaces canonical past key address
    rw [answer]
    by_cases replaced : StoreOperation.Replaces canonical past key address <;> simp [replaced]
  · intro key address
    simp [InMemorySignalProtocolStore.identity]
  · intro key address direction
    have answer : (store.isTrustedIdentity canonical key address direction).2 =
        .ok (decide (StoreOperation.Trusts canonical past key address)) :=
      follows.perform (.isTrustedIdentity key address direction)
    change _ ↔ StoreOperation.Trusts canonical past key address
    simp [answer]
  · intro operation error failed
    exact store.perform_error canonical failed
  · exact markKyberPreKeyUsed_ok_iff canonical identity registrationId past
  · exact mem_kyberPrekeysUsed_iff canonical identity registrationId past

end InMemorySignalProtocolStore

end SignalPods.LibSignal
