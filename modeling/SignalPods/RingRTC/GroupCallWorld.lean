import SignalPods.Machine.Reach
import SignalPods.RingRTC.GroupCall

namespace SignalPods.RingRTC

open GroupCall

/-- The entry of the shared dictionary an effect writes, and whether it is set
or removed. -/
def Effect.registers? : Effect → Option (ClientId × Bool)
  | .register clientId present => some (clientId, present)
  | _ => none

/-- The native client an effect creates or deletes. A creation answered with
the invalid id made none. -/
def Effect.lifecycle? : Effect → Option (ClientId × Bool)
  | .native (.createGroupCallClient _ _ clientId) =>
    if clientId = invalidClientId then none else some (clientId, true)
  | .native (.createCallLinkCallClient _ _ _ _ _ clientId) =>
    if clientId = invalidClientId then none else some (clientId, true)
  | .native (.deleteGroupCallClient clientId) => some (clientId, false)
  | _ => none

/-- All group calls of a call manager with the `GroupCallByClientId` they
share. `issued` and `applied` record what was done, oldest first. -/
structure World (Ref : Type*) where
  groupCallByClientId : ClientId → Option Ref
  calls : Ref → GroupCall
  issued : List (Ref × Effect)
  applied : List (Ref × Op)

namespace World

variable {Ref : Type*}

def fresh (settings : Ref → GroupCallSettings) : World Ref :=
  { groupCallByClientId := fun _ => none
    calls := fun g => { settings := settings g }
    issued := []
    applied := [] }

/-- Either the application calls a method, or a task that a native callback
left on the main actor gets its turn: at any time, for any client id. -/
inductive Event (Ref : Type*)
  | perform (g : Ref) (method : Method)
  | deliver (clientId : ClientId) (callback : Callback)

/-- The creations and deletions of one client id. -/
def lifecycle (w : World Ref) (clientId : ClientId) : List Bool :=
  (w.issued.filterMap (·.2.lifecycle?)).filterMap fun event =>
    if event.1 = clientId then some event.2 else none

/-- What was applied to one call. -/
def appliedTo [DecidableEq Ref] (w : World Ref) (g : Ref) : List Op :=
  (w.applied.filter (·.1 = g)).map (·.2)

variable [DecidableEq Ref]

def enter (g : Ref) (groupCallByClientId : ClientId → Option Ref) :
    ClientId × Bool → ClientId → Option Ref
  | (clientId, present) => Function.update groupCallByClientId clientId (if present then some g else none)

def apply (w : World Ref) (g : Ref) (op : Op) : World Ref :=
  let outcome := (w.calls g).apply op
  { groupCallByClientId := (outcome.effects.filterMap Effect.registers?).foldl (enter g) w.groupCallByClientId
    calls := Function.update w.calls g outcome.call
    issued := w.issued ++ outcome.effects.map (Prod.mk g)
    applied := w.applied ++ [(g, op)] }

/-- The observers of the call manager all look their call up first. -/
def next (w : World Ref) : Event Ref → World Ref
  | .perform g method => w.apply g (.perform method)
  | .deliver clientId callback =>
    match w.groupCallByClientId clientId with
    | none => w
    | some g => w.apply g (.handle callback)

/-- Native code answers a creation with the invalid id or with one that is not
in use. -/
def Event.Possible (w : World Ref) : Event Ref → Prop
  | .perform _ (.connect _ created) => created = invalidClientId ∨ w.groupCallByClientId created = none
  | _ => True

def Step (w : World Ref) (event : Event Ref) (w' : World Ref) : Prop :=
  event.Possible w ∧ w.next event = w'

end World

namespace GroupCall

/-- An op that leaves the client of its call as it is. -/
def Quiet (c : GroupCall) (outcome : Outcome) : Prop :=
  outcome.call.clientId = c.clientId ∧ outcome.effects.filterMap Effect.registers? = [] ∧
    outcome.effects.filterMap Effect.lifecycle? = []

theorem quiet_withClient (c : GroupCall) (after : GroupCall) (call : ClientId → NativeCall)
    (same : after.clientId = c.clientId) (other : ∀ clientId, Effect.lifecycle? (.native (call clientId)) = none) :
    c.Quiet (c.withClient fun clientId => ⟨after, [.native (call clientId)], true⟩) := by
  unfold withClient
  split
  · exact ⟨rfl, rfl, rfl⟩
  · exact ⟨same, rfl, by simp [other]⟩

theorem quiet_andTell (c : GroupCall) (after : GroupCall) (call : ClientId → NativeCall)
    (same : after.clientId = c.clientId) (other : ∀ clientId, Effect.lifecycle? (.native (call clientId)) = none) :
    c.Quiet (after.andTell call) := by
  refine ⟨same, ?_, ?_⟩ <;> cases client : after.clientId <;> simp [andTell, client, other, Effect.registers?]

theorem quiet_notify (c : GroupCall) (after : GroupCall) (call : DelegateCall) (same : after.clientId = c.clientId) :
    c.Quiet (after.notify call) := ⟨same, rfl, rfl⟩

theorem createClient_lifecycle (c : GroupCall) (media : FactoryMedia) (created : ClientId) :
    Effect.lifecycle? (.native (c.createClient media created)) =
      if created = invalidClientId then none else some (created, true) := by
  unfold createClient
  split <;> rfl

/-- What an op does to the client of its call: it leaves it, makes one or ends
the one there is. -/
theorem apply_cases (c : GroupCall) (op : Op) :
    c.Quiet (c.apply op) ∨
    (∃ media created, op = .perform (.connect media created) ∧ created ≠ invalidClientId ∧
      c.clientId = none ∧ (c.step op).clientId = some created ∧
      (c.apply op).effects.filterMap Effect.registers? = [(created, true)] ∧
      (c.apply op).effects.filterMap Effect.lifecycle? = [(created, true)]) ∨
    (∃ reason clientId, op = .handle (.handleEnded reason) ∧
      c.clientId = some clientId ∧ c.step op = c.reset ∧
      (c.apply op).effects.filterMap Effect.registers? = [(clientId, false)] ∧
      (c.apply op).effects.filterMap Effect.lifecycle? = [(clientId, false)]) := by
  cases op with
  | perform method =>
    cases method with
    | connect media created =>
      cases client : c.clientId with
      | some clientId =>
        refine Or.inl ?_
        simp only [apply, perform, connect_existing client]
        exact ⟨rfl, rfl, rfl⟩
      | none =>
        have made := createClient_lifecycle c media created
        by_cases failed : created = invalidClientId
        · subst failed
          refine Or.inl ?_
          simp only [apply, perform, connect_failed client]
          rw [if_pos rfl] at made
          exact ⟨rfl, rfl, by simp only [List.filterMap_cons, made]; rfl⟩
        · refine Or.inr (Or.inl ⟨media, created, rfl, failed, rfl, ?_⟩)
          rw [if_neg failed] at made
          rw [step, apply, perform, connect_created client media failed]
          exact ⟨rfl, rfl, by simp only [List.filterMap_cons, made]; rfl⟩
    | join => exact Or.inl (c.quiet_withClient c _ rfl fun _ => rfl)
    | leave => exact Or.inl (c.quiet_withClient c.stopMedia _ rfl fun _ => rfl)
    | disconnect => exact Or.inl (c.quiet_withClient c.stopMedia _ rfl fun _ => rfl)
    | request request => exact Or.inl (c.quiet_withClient c _ rfl fun _ => rfl)
    | setOutgoingAudioMuted newValue => exact Or.inl (c.quiet_andTell _ _ rfl fun _ => rfl)
    | setOutgoingVideoMuted newValue => exact Or.inl (c.quiet_andTell _ _ rfl fun _ => rfl)
    | setOutgoingAudioRemotelyMuted source => exact Or.inl (c.quiet_andTell _ _ rfl fun _ => rfl)
  | handle callback =>
    cases callback with
    | handleEnded reason =>
      cases client : c.clientId with
      | none =>
        refine Or.inl ?_
        simp only [apply, handle, handleEnded, withClient_none client]
        exact ⟨rfl, rfl, rfl⟩
      | some clientId =>
        refine Or.inr (Or.inr ⟨reason, clientId, rfl, rfl, ?_⟩)
        rw [step, apply, handle, handleEnded, withClient_some client]
        exact ⟨rfl, rfl, rfl⟩
    | handleIncomingVideoTrack remoteDemuxId videoTrack =>
      refine Or.inl ?_
      simp only [apply, handle, handleIncomingVideoTrack]
      split
      · exact ⟨rfl, rfl, rfl⟩
      · exact c.quiet_notify _ _ rfl
    | _ => exact Or.inl (c.quiet_notify _ _ rfl)

end GroupCall

namespace World

variable {Ref : Type*} [DecidableEq Ref] (w : World Ref)

theorem apply_calls (g : Ref) (op : Op) :
    (w.apply g op).calls = Function.update w.calls g ((w.calls g).step op) := rfl

theorem apply_lifecycle (g : Ref) (op : Op) (clientId : ClientId) :
    (w.apply g op).lifecycle clientId = w.lifecycle clientId ++
      (((w.calls g).apply op).effects.filterMap Effect.lifecycle?).filterMap
        fun event => if event.1 = clientId then some event.2 else none := by
  simp only [lifecycle, apply, List.filterMap_append, List.filterMap_map, Function.comp_def]

theorem appliedTo_apply (g other : Ref) (op : Op) :
    (w.apply g op).appliedTo other = w.appliedTo other ++ if g = other then [op] else [] := by
  by_cases same : g = other <;> simp [appliedTo, apply, same]

theorem next_deliver_unowned {w : World Ref} {clientId : ClientId}
    (unowned : w.groupCallByClientId clientId = none) (callback : Callback) :
    w.next (.deliver clientId callback) = w := by
  simp only [next, unowned]

theorem next_deliver_owned {w : World Ref} {clientId : ClientId} {g : Ref}
    (owned : w.groupCallByClientId clientId = some g) (callback : Callback) :
    w.next (.deliver clientId callback) = w.apply g (.handle callback) := by
  simp only [next, owned]

/-- A call is where the ops applied to it lead. -/
theorem calls_eq_foldl {settings : Ref → GroupCallSettings} {events : List (Event Ref)} {w : World Ref}
    (reach : Machine.Reach Step (fresh settings) events w) (g : Ref) :
    w.calls g = (w.appliedTo g).foldl GroupCall.step { settings := settings g } := by
  induction reach with
  | start => rfl
  | @next events before event after previous run ih =>
    have applied : ∀ target op, (before.apply target op).calls g =
        ((before.apply target op).appliedTo g).foldl GroupCall.step { settings := settings g } := by
      intro target op
      rw [apply_calls, appliedTo_apply]
      by_cases same : target = g
      · subst same
        rw [Function.update_self, if_pos rfl, List.foldl_append, ← ih]
        rfl
      · rw [Function.update_of_ne (Ne.symm same), if_neg same, List.append_nil, ih]
    rw [← run.2]
    cases event with
    | perform target method => exact applied target _
    | deliver clientId callback =>
      cases owner : before.groupCallByClientId clientId with
      | none => rw [next_deliver_unowned owner]; exact ih
      | some target => rw [next_deliver_owned owner]; exact applied target _

end World

end SignalPods.RingRTC
