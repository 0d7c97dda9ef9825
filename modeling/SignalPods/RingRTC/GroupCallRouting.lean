import SignalPods.Machine.Reach
import SignalPods.Machine.Registry
import SignalPods.RingRTC.GroupCallWorld

namespace SignalPods.RingRTC

open GroupCall

/-- What a call without a client remembers of the last one: nothing. -/
structure GroupCall.Blank (c : GroupCall) : Prop where
  localDeviceState : c.localDeviceState = {}
  remoteDeviceStates : c.remoteDeviceStates = fun _ => none
  peekInfo : c.peekInfo = none

theorem GroupCall.reset_blank (c : GroupCall) : c.reset.Blank := ⟨rfl, rfl, rfl⟩

theorem GroupCall.Blank.perform {c : GroupCall} (blank : c.Blank) (method : Method) :
    (c.perform method).call.Blank := by
  obtain ⟨localState, remote, peek⟩ := c.perform_reported method
  exact ⟨localState.trans blank.localDeviceState, remote.trans blank.remoteDeviceStates, peek.trans blank.peekInfo⟩

namespace World

variable {Ref : Type*}

/-- The shared dictionary and the private ids of the calls say the same. -/
def Owned (w : World Ref) : Prop :=
  ∀ clientId g, w.groupCallByClientId clientId = some g ↔ (w.calls g).clientId = some clientId

/-- Complete lives of a client id, the last of which may still go on. -/
def lives (ended : Nat) (alive : Bool) : List Bool :=
  (List.replicate ended [true, false]).flatten ++ if alive then [true] else []

/-- The invariant of the runs. -/
structure Coherent (w : World Ref) : Prop where
  owned : w.Owned
  lived : ∀ clientId, ∃ ended, w.lifecycle clientId = lives ended (w.groupCallByClientId clientId).isSome
  blank : ∀ g, (w.calls g).clientId = none → (w.calls g).Blank

theorem lives_delete (ended : Nat) : lives ended true ++ [false] = lives (ended + 1) false := by
  simp [lives, List.replicate_succ']

theorem lives_create (ended : Nat) : lives ended false ++ [true] = lives ended true := by
  simp [lives]

theorem fresh_coherent (settings : Ref → GroupCallSettings) : (fresh settings).Coherent :=
  ⟨by simp [Owned, fresh], fun _ => ⟨0, rfl⟩, fun _ _ => ⟨rfl, rfl, rfl⟩⟩

variable [DecidableEq Ref] {w : World Ref}

theorem clientIds_apply (w : World Ref) (g : Ref) (op : Op) :
    (fun other => ((w.apply g op).calls other).clientId) =
      Function.update (fun other => (w.calls other).clientId) g ((w.calls g).step op).clientId := by
  rw [apply_calls]
  exact Function.comp_update GroupCall.clientId w.calls g _

/-- Calls other than the one an op is applied to stay as they are. -/
theorem Coherent.blank_apply (known : w.Coherent) {g : Ref} {op : Op}
    (blank : ((w.calls g).step op).clientId = none → ((w.calls g).step op).Blank) (other : Ref)
    (gone : ((w.apply g op).calls other).clientId = none) : ((w.apply g op).calls other).Blank := by
  rw [apply_calls] at gone ⊢
  by_cases same : other = g
  · subst same
    rw [Function.update_self] at gone ⊢
    exact blank gone
  · rw [Function.update_of_ne same] at gone ⊢
    exact known.blank other gone

/-- The lives of the ids go on as the effects of the op say. -/
theorem Coherent.lived_apply (known : w.Coherent) {g : Ref} {op : Op} {changed : ClientId} {present : Bool}
    (before : (w.groupCallByClientId changed).isSome = !present)
    (life : ((w.calls g).apply op).effects.filterMap Effect.lifecycle? = [(changed, present)]) (clientId : ClientId) :
    ∃ ended, (w.apply g op).lifecycle clientId =
      lives ended (if clientId = changed then present else (w.groupCallByClientId clientId).isSome) := by
  obtain ⟨ended, lived⟩ := known.lived clientId
  rw [apply_lifecycle, life]
  by_cases now : clientId = changed
  · subst now
    rw [before] at lived
    cases present with
    | true => exact ⟨ended, by simpa [lived] using lives_create ended⟩
    | false => exact ⟨ended + 1, by simpa [lived] using lives_delete ended⟩
  · exact ⟨ended, by simp [now, Ne.symm now, lived]⟩

theorem Coherent.apply_quiet (known : w.Coherent) {g : Ref} {op : Op} (quiet : (w.calls g).Quiet ((w.calls g).apply op))
    (blank : (w.calls g).clientId = none → ((w.calls g).step op).Blank) : (w.apply g op).Coherent := by
  obtain ⟨sameClient, noEntry, noLife⟩ := quiet
  have sameMap : (w.apply g op).groupCallByClientId = w.groupCallByClientId := by
    simp only [World.apply, noEntry, List.foldl_nil]
  have sameIds : (fun other => ((w.apply g op).calls other).clientId) = fun other => (w.calls other).clientId := by
    rw [clientIds_apply]
    exact Function.update_eq_self_iff.mpr sameClient
  refine ⟨?_, ?_, known.blank_apply fun gone => blank (sameClient.symm.trans gone)⟩
  · intro clientId other
    rw [sameMap, congrFun sameIds other]
    exact known.owned clientId other
  · intro clientId
    rw [apply_lifecycle, noLife, sameMap]
    simpa using known.lived clientId

theorem Coherent.apply_created (known : w.Coherent) {g : Ref} {op : Op} {created : ClientId}
    (unused : w.groupCallByClientId created = none) (absent : (w.calls g).clientId = none)
    (client : ((w.calls g).step op).clientId = some created)
    (entry : ((w.calls g).apply op).effects.filterMap Effect.registers? = [(created, true)])
    (life : ((w.calls g).apply op).effects.filterMap Effect.lifecycle? = [(created, true)]) :
    (w.apply g op).Coherent := by
  have map : (w.apply g op).groupCallByClientId = Function.update w.groupCallByClientId created (some g) := by
    simp only [World.apply, entry, List.foldl_cons, List.foldl_nil, enter, if_true]
  have owned : Machine.Agrees (w.apply g op).groupCallByClientId
      fun other => ((w.apply g op).calls other).clientId := by
    rw [map, clientIds_apply, client]
    exact Machine.Agrees.enter known.owned unused absent
  refine ⟨owned, fun clientId => ?_, known.blank_apply fun gone => ?_⟩
  · obtain ⟨ended, lived⟩ := known.lived_apply (by rw [unused]; rfl) life clientId
    refine ⟨ended, lived.trans (congrArg (lives ended) ?_)⟩
    rw [map, Function.update_apply]
    split <;> rfl
  · rw [client] at gone
    cases gone

theorem Coherent.apply_ended (known : w.Coherent) {g : Ref} {op : Op} {clientId : ClientId}
    (client : (w.calls g).clientId = some clientId) (reset : (w.calls g).step op = (w.calls g).reset)
    (entry : ((w.calls g).apply op).effects.filterMap Effect.registers? = [(clientId, false)])
    (life : ((w.calls g).apply op).effects.filterMap Effect.lifecycle? = [(clientId, false)]) :
    (w.apply g op).Coherent := by
  have map : (w.apply g op).groupCallByClientId = Function.update w.groupCallByClientId clientId none := by
    simp only [World.apply, entry, List.foldl_cons, List.foldl_nil, enter, Bool.false_eq_true, if_false]
  have owner := (known.owned clientId g).mpr client
  have owned : Machine.Agrees (w.apply g op).groupCallByClientId
      fun other => ((w.apply g op).calls other).clientId := by
    rw [map, clientIds_apply, reset]
    exact Machine.Agrees.leave known.owned client
  refine ⟨owned, fun id => ?_, known.blank_apply fun _ => reset ▸ reset_blank _⟩
  obtain ⟨ended, lived⟩ := known.lived_apply (by rw [owner]; rfl) life id
  refine ⟨ended, lived.trans (congrArg (lives ended) ?_)⟩
  rw [map, Function.update_apply]
  split <;> rfl

theorem Coherent.step {event : Event Ref} {after : World Ref} (known : w.Coherent) (step : Step w event after) :
    after.Coherent := by
  obtain ⟨possible, rfl⟩ := step
  cases event with
  | perform g method =>
    rcases (w.calls g).apply_cases (.perform method) with
      quiet | ⟨media, created, same, valid, absent, client, entry, life⟩ | ⟨_, _, same, _⟩
    · exact known.apply_quiet quiet fun absent => (known.blank g absent).perform method
    · obtain rfl := Op.perform.inj same
      have unused := possible.resolve_left valid
      exact known.apply_created unused absent client entry life
    · cases same
  | deliver clientId callback =>
    cases owner : w.groupCallByClientId clientId with
    | none => rwa [next_deliver_unowned owner]
    | some g =>
      have client := (known.owned clientId g).mp owner
      rw [next_deliver_owned owner]
      rcases (w.calls g).apply_cases (.handle callback) with
        quiet | ⟨_, _, same, _⟩ | ⟨reason, id, same, present, reset, entry, life⟩
      · exact known.apply_quiet quiet fun absent => by rw [client] at absent; cases absent
      · cases same
      · exact known.apply_ended present reset entry life

theorem coherent_of_reach {settings : Ref → GroupCallSettings} {events : List (Event Ref)}
    (reach : Machine.Reach Step (fresh settings) events w) : w.Coherent :=
  reach.invariant (fun _ w => w.Coherent) (fresh_coherent settings) fun _ known step => known.step step

/-- What the shared dictionary promises in a state. A stale callback is one
whose client was deleted and not created again since. -/
structure Routing (w : World Ref) : Prop where
  owned : ∀ clientId g, w.groupCallByClientId clientId = some g ↔ (w.calls g).clientId = some clientId
  delivered : ∀ clientId callback,
    (∃ g, (∀ other, (w.calls other).clientId = some clientId ↔ other = g) ∧
      (w.next (.deliver clientId callback)).calls =
        Function.update w.calls g ((w.calls g).handle callback).call) ∨
    (∀ g, (w.calls g).clientId ≠ some clientId) ∧ w.next (.deliver clientId callback) = w
  stale : ∀ clientId callback, (w.lifecycle clientId).getLast? = some false →
    w.next (.deliver clientId callback) = w
  deletedOnce : ∀ clientId, ∃ ended,
    w.lifecycle clientId = lives ended (w.groupCallByClientId clientId).isSome
  ended : ∀ clientId g reason, (w.calls g).clientId = some clientId →
    ((w.next (.deliver clientId (.handleEnded reason))).calls g).clientId = none ∧
      (w.next (.deliver clientId (.handleEnded reason))).lifecycle clientId = w.lifecycle clientId ++ [false]
  again : ∀ g media created, (w.calls g).clientId = none → created ≠ invalidClientId →
    w.groupCallByClientId created = none →
    ((w.calls g).connect media created).returned = true ∧
      ((w.next (.perform g (.connect media created))).calls g).clientId = some created ∧
      ((w.next (.perform g (.connect media created))).calls g).Blank

theorem Coherent.delivered (known : w.Coherent) (clientId : ClientId) (callback : Callback) :
    (∃ g, (∀ other, (w.calls other).clientId = some clientId ↔ other = g) ∧
      (w.next (.deliver clientId callback)).calls =
        Function.update w.calls g ((w.calls g).handle callback).call) ∨
    (∀ g, (w.calls g).clientId ≠ some clientId) ∧ w.next (.deliver clientId callback) = w := by
  rcases Machine.Agrees.owner_cases known.owned clientId with ⟨g, owner, only⟩ | ⟨unowned, nobody⟩
  · refine Or.inl ⟨g, only, ?_⟩
    rw [next_deliver_owned owner]
    rfl
  · exact Or.inr ⟨nobody, next_deliver_unowned unowned callback⟩

theorem Coherent.stale (known : w.Coherent) {clientId : ClientId} (callback : Callback)
    (deleted : (w.lifecycle clientId).getLast? = some false) : w.next (.deliver clientId callback) = w := by
  obtain ⟨ended, lived⟩ := known.lived clientId
  cases owner : w.groupCallByClientId clientId with
  | none => exact next_deliver_unowned owner callback
  | some g => simp [lived, lives, owner] at deleted

theorem Coherent.ended (known : w.Coherent) {clientId : ClientId} {g : Ref} (reason : CallEndReason)
    (client : (w.calls g).clientId = some clientId) :
    ((w.next (.deliver clientId (.handleEnded reason))).calls g).clientId = none ∧
      (w.next (.deliver clientId (.handleEnded reason))).lifecycle clientId = w.lifecycle clientId ++ [false] := by
  have outcome : (w.calls g).handle (.handleEnded reason) = ⟨(w.calls g).reset, [.register clientId false,
      .native (.deleteGroupCallClient clientId), .delegate (.onEnded reason)], true⟩ := withClient_some client _
  rw [next_deliver_owned ((known.owned clientId g).mpr client), apply_lifecycle, apply_calls,
    Function.update_self, GroupCall.step, GroupCall.apply, outcome]
  have life : [Effect.register clientId false, .native (.deleteGroupCallClient clientId),
      .delegate (.onEnded reason)].filterMap Effect.lifecycle? = [(clientId, false)] := rfl
  exact ⟨rfl, by rw [life]; simp⟩

theorem Coherent.again (known : w.Coherent) {g : Ref} (media : FactoryMedia) {created : ClientId}
    (absent : (w.calls g).clientId = none) (valid : created ≠ invalidClientId) :
    ((w.calls g).connect media created).returned = true ∧
      ((w.next (.perform g (.connect media created))).calls g).clientId = some created ∧
      ((w.next (.perform g (.connect media created))).calls g).Blank := by
  have after : (w.next (.perform g (.connect media created))).calls g = ((w.calls g).connect media created).call :=
    Function.update_self ..
  rw [after]
  refine ⟨?_, ?_, (known.blank g absent).perform (.connect media created)⟩ <;>
    rw [connect_created absent media valid]

/-- Whatever the calls, the application and native code do and in whatever
order, every callback reaches the one call that owns its client, or none. -/
theorem routing_of_reach {settings : Ref → GroupCallSettings} {events : List (Event Ref)}
    (reach : Machine.Reach Step (fresh settings) events w) : w.Routing :=
  have known := coherent_of_reach reach
  { owned := known.owned
    delivered := known.delivered
    stale := fun _ callback deleted => known.stale callback deleted
    deletedOnce := known.lived
    ended := fun _ _ reason client => known.ended reason client
    again := fun _ media _ absent valid _ => known.again media absent valid }

theorem reach_next {settings : Ref → GroupCallSettings} {events : List (Event Ref)}
    (reach : Machine.Reach Step (fresh settings) events w) (event : Event Ref) (possible : event.Possible w) :
    Machine.Reach Step (fresh settings) (events ++ [event]) (w.next event) := reach.next ⟨possible, rfl⟩

/-- Two calls: one has ended and its id was made again for the other. -/
theorem routing_id_made_again :
    ((((fresh fun _ : Bool => ⟨.groupId [], "", none, [], none, 0, none, 0⟩).next
      (.perform true (.connect ⟨0, 1, 2⟩ 7))).next (.deliver 7 (.handleEnded .localHangup))).next
      (.perform false (.connect ⟨3, 4, 5⟩ 7))).Routing :=
  routing_of_reach <| reach_next
    (reach_next (reach_next .start (.perform true (.connect ⟨0, 1, 2⟩ 7)) (Or.inr rfl))
      (.deliver 7 (.handleEnded .localHangup)) trivial)
    (.perform false (.connect ⟨3, 4, 5⟩ 7)) (Or.inr rfl)

end World

end SignalPods.RingRTC
