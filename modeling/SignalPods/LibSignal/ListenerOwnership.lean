import SignalPods.Machine.Reach
import SignalPods.LibSignal.ChatListener

namespace SignalPods.LibSignal.Listening

open Machine

/-- Everything handed over is open as long as something refers to it and
closed, released exactly once and not used after, when nothing does any more.
The bridge is closed by `destroy`. -/
structure Frees (h : Listening) : Prop where
  held : ∀ argument, (h.arguments argument).references ≠ 0 → (h.arguments argument).Open
  freed : ∀ argument, (h.arguments argument).references = 0 →
    (h.arguments argument).deeds = [] ∨ (h.arguments argument).Closed
  bridge : if .released ∈ h.ctx.deeds then h.ctx.Closed else h.ctx.Open

/-- The events that the unauthenticated bridge takes no care of. -/
def Event.unexpected : Event → Bool
  | .call (.receivedIncomingMessage _ _) _ | .call (.receivedAlerts _) _ => true
  | _ => false

/-- Handed over, never released, and nothing refers to it. -/
def Lost (a : Account) : Prop := a.Open ∧ a.references = 0

/-- The accounts there can be. -/
inductive Standing (a : Account) : Prop
  | untouched : a = {} → Standing a
  | counted : a.Counted a.references → Standing a
  | lost : Lost a → Standing a

/-- The entries of one call for one kind of argument. -/
def entriesFor (bridge : Bridge) (callback : ListenerCallback) (connected : Bool) (kind : Owned) : List Posting :=
  ((callback.owned.map (·, Posting.give) ++ (bridge.script connected callback).entries).filter (·.1 = kind)).map (·.2)

theorem call_arguments (bridge : Bridge) (callback : ListenerCallback) (connected : Bool) (h : Listening)
    (argument : Nat × Owned) : (h.call bridge callback connected).arguments argument =
      if argument.1 = h.calls then
        (entriesFor bridge callback connected argument.2).foldl Account.post (h.arguments argument)
      else h.arguments argument := by
  obtain ⟨n, kind⟩ := argument
  simp only [call, foldl_post, List.filter_map, List.map_map, entriesFor]
  by_cases same : n = h.calls
  · subst same
    simp [Function.comp_def]
  · have none' : ∀ entries : List (Owned × Posting),
        entries.filter ((fun entry : (Nat × Owned) × Posting => decide (entry.1 = (n, kind))) ∘
          fun entry => ((h.calls, entry.1), entry.2)) = [] := by
      intro entries
      simp [List.filter_eq_nil_iff, Ne.symm same]
    rw [none', if_neg same]
    rfl

/-- The account of an argument right after the call that brought it. -/
def settled (bridge : Bridge) (callback : ListenerCallback) (connected : Bool) (kind : Owned) : Account :=
  (entriesFor bridge callback connected kind).foldl Account.post {}

theorem consuming_owned {envelope : SignalOwnedBuffer} (timestamp : UInt64) {posting : Posting}
    {entry : Owned × Posting} (made : entry ∈ consuming envelope posting) :
    entry.1 ∈ (ListenerCallback.receivedIncomingMessage envelope timestamp).owned := by
  cases envelope with
  | none => cases made
  | some bytes =>
    obtain rfl := List.mem_singleton.mp made
    simp [ListenerCallback.owned]

theorem convertError_owned {maybeError : Option SignalFfiError} {entry : Owned × Posting}
    (made : entry ∈ (convertError maybeError).2) :
    entry.1 ∈ (ListenerCallback.connectionInterrupted maybeError).owned := by
  cases maybeError with
  | none => cases made
  | some error =>
    obtain ⟨_, _, rfl⟩ := List.mem_map.mp made
    simp [ListenerCallback.owned]

/-- A callback touches nothing that was not handed to it. -/
theorem script_entries_owned (bridge : Bridge) (connected : Bool) (callback : ListenerCallback) :
    ∀ entry ∈ (bridge.script connected callback).entries, entry.1 ∈ callback.owned := by
  intro entry member
  cases callback with
  | receivedIncomingMessage envelope timestamp =>
    cases bridge with
    | unauthConnectionEventsListener => cases member
    | chatListener =>
      cases connected <;>
        simp only [Bridge.script, ChatListenerBridge.receivedIncomingMessage, if_true, Bool.false_eq_true, if_false,
          List.mem_append, List.mem_singleton] at member
      · rcases member with ((retained | rfl) | rfl) | dropped
        · exact consuming_owned timestamp retained
        · simp [ListenerCallback.owned]
        · simp [ListenerCallback.owned]
        · exact consuming_owned timestamp dropped
      · rcases member with retained | rfl
        · exact consuming_owned timestamp retained
        · simp [ListenerCallback.owned]
  | receivedQueueEmpty | receivedServerTimestamp => cases bridge <;> cases member
  | receivedAlerts alerts =>
    cases bridge with
    | unauthConnectionEventsListener => cases member
    | chatListener =>
      rcases List.mem_pair.mp member with rfl | rfl <;> simp [ListenerCallback.owned]
  | connectionInterrupted maybeError => cases bridge <;> exact convertError_owned member

theorem settled_untouched (bridge : Bridge) {callback : ListenerCallback} (connected : Bool) {kind : Owned}
    (notOwned : kind ∉ callback.owned) : settled bridge callback connected kind = {} := by
  have nothing : entriesFor bridge callback connected kind = [] := by
    rw [entriesFor, List.map_eq_nil_iff, List.filter_eq_nil_iff]
    intro entry member same
    rw [decide_eq_true_eq] at same
    rcases List.mem_append.mp member with given | made
    · obtain ⟨owned, known, rfl⟩ := List.mem_map.mp given
      exact notOwned (same ▸ known)
    · exact notOwned (same ▸ script_entries_owned bridge connected callback entry made)
  rw [settled, nothing]
  rfl

theorem settled_incoming (envelope : SignalOwnedBuffer) (timestamp : UInt64) (connected : Bool) {kind : Owned}
    (owned : kind ∈ (ListenerCallback.receivedIncomingMessage envelope timestamp).owned) :
    settled .chatListener (.receivedIncomingMessage envelope timestamp) connected kind =
      if connected then ⟨[.given], 1⟩ else ⟨[.given, .released], 0⟩ := by
  cases envelope <;> cases kind <;> cases connected <;> first | rfl | simp_all [ListenerCallback.owned]

theorem settled_alerts (alerts : SignalBytestringArray) (connected : Bool) :
    settled .chatListener (.receivedAlerts alerts) connected .alerts = ⟨[.given, .used, .released], 0⟩ := rfl

/-- Both bridges read an error and free it. -/
theorem settled_error (bridge : Bridge) (error : SignalFfiError) (connected : Bool) :
    (settled bridge (.connectionInterrupted (some error)) connected .error).Counted 0 := by
  have entries : entriesFor bridge (.connectionInterrupted (some error)) connected .error =
      .give :: (List.replicate (2 + error.getters) .use ++ [.release]) := by
    cases bridge <;> simp [entriesFor, ListenerCallback.owned, Bridge.script, convertError,
      ChatListenerBridge.connectionInterrupted, UnauthConnectionEventsListenerBridge.connectionInterrupted]
  have given : (({} : Account).post .give).Open := Account.give_open rfl
  obtain ⟨isOpen, references⟩ := given.foldl_use (2 + error.getters)
  rw [settled, entries, List.foldl_cons, List.foldl_append]
  exact ⟨references, fun positive => absurd rfl positive, fun _ => isOpen.release⟩

/-- What the unauthenticated bridge does not expect it does not free. -/
theorem settled_unexpected {callback : ListenerCallback} {connected : Bool} {kind : Owned}
    (unexpected : Event.unexpected (.call callback connected) = true) (owned : kind ∈ callback.owned) :
    settled .unauthConnectionEventsListener callback connected kind = ⟨[.given], 0⟩ := by
  cases callback with
  | receivedIncomingMessage envelope timestamp =>
    cases envelope <;> cases kind <;> first | rfl | simp_all [ListenerCallback.owned]
  | receivedAlerts alerts => cases kind <;> first | rfl | simp_all [ListenerCallback.owned]
  | receivedQueueEmpty | receivedServerTimestamp | connectionInterrupted => cases unexpected

theorem settled_standing (bridge : Bridge) (callback : ListenerCallback) (connected : Bool) (kind : Owned) :
    settled bridge callback connected kind = {} ∨
    (settled bridge callback connected kind).Counted (settled bridge callback connected kind).references ∨
    (Lost (settled bridge callback connected kind) ∧ bridge = .unauthConnectionEventsListener ∧
      Event.unexpected (.call callback connected) = true) := by
  by_cases owned : kind ∈ callback.owned
  · have lost : bridge = .unauthConnectionEventsListener → Event.unexpected (.call callback connected) = true →
        Lost (settled bridge callback connected kind) := by
      rintro rfl unexpected
      rw [settled_unexpected unexpected owned]
      exact ⟨⟨0, rfl⟩, rfl⟩
    cases callback with
    | receivedIncomingMessage envelope timestamp =>
      cases bridge with
      | unauthConnectionEventsListener => exact Or.inr (Or.inr ⟨lost rfl rfl, rfl, rfl⟩)
      | chatListener =>
        rw [settled_incoming envelope timestamp connected owned]
        cases connected
        · exact Or.inr (Or.inl ⟨rfl, fun positive => absurd rfl positive, fun _ => ⟨0, rfl⟩⟩)
        · exact Or.inr (Or.inl (.of_open ⟨0, rfl⟩ rfl (by decide)))
    | receivedAlerts alerts =>
      obtain rfl : kind = .alerts := List.mem_singleton.mp owned
      cases bridge with
      | unauthConnectionEventsListener => exact Or.inr (Or.inr ⟨lost rfl rfl, rfl, rfl⟩)
      | chatListener =>
        rw [settled_alerts]
        exact Or.inr (Or.inl ⟨rfl, fun positive => absurd rfl positive, fun _ => ⟨1, rfl⟩⟩)
    | connectionInterrupted maybeError =>
      cases maybeError with
      | none => cases owned
      | some error =>
        obtain rfl : kind = .error := List.mem_singleton.mp owned
        have counted := settled_error bridge error connected
        exact Or.inr (Or.inl (counted.references.symm ▸ counted))
    | receivedQueueEmpty | receivedServerTimestamp => cases owned
  · exact Or.inl (settled_untouched bridge connected owned)

theorem settled_lost {callback : ListenerCallback} {connected : Bool}
    (unexpected : Event.unexpected (.call callback connected) = true) :
    ∃ kind, Lost (settled .unauthConnectionEventsListener callback connected kind) := by
  obtain ⟨kind, owned⟩ : ∃ kind, kind ∈ callback.owned := by
    cases callback with
    | receivedIncomingMessage envelope timestamp => exact ⟨.ackHandle, by simp [ListenerCallback.owned]⟩
    | receivedAlerts alerts => exact ⟨.alerts, by simp [ListenerCallback.owned]⟩
    | receivedQueueEmpty | receivedServerTimestamp | connectionInterrupted => cases unexpected
  refine ⟨kind, ?_⟩
  rw [settled_unexpected unexpected owned]
  exact ⟨⟨0, rfl⟩, rfl⟩

theorem not_lost_of_counted {a : Account} (known : a.Counted a.references) : ¬ Lost a :=
  fun ⟨isOpen, zero⟩ => (known.gone zero).not_open isOpen

/-- The invariant of the runs. -/
structure Kept (h : Listening) : Prop where
  fresh : ∀ argument : Nat × Owned, h.calls ≤ argument.1 → h.arguments argument = {}
  standing : ∀ argument, Standing (h.arguments argument)
  bridge : if .released ∈ h.ctx.deeds then h.ctx.Closed else h.ctx.Open

def LostOne (h : Listening) : Prop := ∃ argument, Lost (h.arguments argument)

theorem Kept.frees_iff_noneLost {h : Listening} (known : h.Kept) : h.Frees ↔ ¬ h.LostOne := by
  constructor
  · rintro frees ⟨argument, isOpen, zero⟩
    rcases frees.freed argument zero with untouched | closed
    · obtain ⟨n, deeds⟩ := isOpen
      rw [untouched] at deeds
      cases deeds
    · exact closed.not_open isOpen
  · intro noneLost
    refine ⟨fun argument some => ?_, fun argument zero => ?_, known.bridge⟩
    · cases known.standing argument with
      | untouched same => rw [same] at some; exact absurd rfl some
      | counted counted => exact counted.alive some
      | lost lost => exact absurd ⟨argument, lost⟩ noneLost
    · cases known.standing argument with
      | untouched same => exact Or.inl (by rw [same])
      | counted counted => exact Or.inr (counted.gone zero)
      | lost lost => exact absurd ⟨argument, lost⟩ noneLost

theorem start_kept : makeListenerStruct.Kept :=
  ⟨fun _ _ => rfl, fun _ => .untouched rfl, by
    rw [if_neg (by decide)]
    exact Account.give_open rfl⟩

theorem start_noneLost : ¬ makeListenerStruct.LostOne := by
  rintro ⟨argument, ⟨n, deeds⟩, _⟩
  cases deeds

section Call

variable {h : Listening} (known : h.Kept) (bridge : Bridge) (callback : ListenerCallback) (connected : Bool)

include known

theorem Kept.call_account (argument : Nat × Owned) : (h.call bridge callback connected).arguments argument =
    if argument.1 = h.calls then settled bridge callback connected argument.2 else h.arguments argument := by
  rw [call_arguments]
  split
  · rename_i same
    rw [known.fresh argument same.ge]
    rfl
  · rfl

theorem Kept.call (alive : .released ∉ h.ctx.deeds) : (h.call bridge callback connected).Kept := by
  have isOpen : h.ctx.Open := by simpa only [if_neg alive] using known.bridge
  have after : (h.call bridge callback connected).ctx.Open := by
    show (if (bridge.script connected callback).takesBridge then h.ctx.use else h.ctx).Open
    split
    · exact isOpen.use
    · exact isOpen
  refine ⟨fun argument later => ?_, fun argument => ?_, by rwa [if_neg after.not_released]⟩
  · have bound : h.calls < argument.1 := later
    rw [known.call_account, if_neg bound.ne']
    exact known.fresh argument bound.le
  · rw [known.call_account]
    split
    · rcases settled_standing bridge callback connected argument.2 with same | counted | ⟨lost, _⟩
      · exact .untouched same
      · exact .counted counted
      · exact .lost lost
    · exact known.standing argument

theorem Kept.call_lostOne : (h.call bridge callback connected).LostOne ↔ h.LostOne ∨
    bridge = .unauthConnectionEventsListener ∧ Event.unexpected (.call callback connected) = true := by
  constructor
  · rintro ⟨argument, lost⟩
    rw [known.call_account] at lost
    split at lost
    · rcases settled_standing bridge callback connected argument.2 with same | counted | ⟨_, leak⟩
      · rw [same] at lost
        obtain ⟨⟨n, deeds⟩, _⟩ := lost
        cases deeds
      · exact absurd lost (not_lost_of_counted counted)
      · exact Or.inr leak
    · exact Or.inl ⟨argument, lost⟩
  · rintro (⟨argument, lost⟩ | ⟨rfl, unexpected⟩)
    · refine ⟨argument, ?_⟩
      have before : argument.1 ≠ h.calls := by
        intro same
        rw [known.fresh argument same.ge] at lost
        obtain ⟨⟨n, deeds⟩, _⟩ := lost
        cases deeds
      rwa [known.call_account, if_neg before]
    · obtain ⟨kind, lost⟩ := settled_lost unexpected
      exact ⟨(h.calls, kind), by rwa [known.call_account, if_pos rfl]⟩

end Call

theorem Kept.referenced {h : Listening} (known : h.Kept) {argument : Nat × Owned}
    (some : (h.arguments argument).references ≠ 0) : ∃ n, (h.arguments argument).Counted (n + 1) := by
  cases known.standing argument with
  | untouched same => rw [same] at some; exact absurd rfl some
  | counted counted =>
    obtain ⟨n, references⟩ := Nat.exists_eq_succ_of_ne_zero some
    rw [references] at counted
    exact ⟨n, counted⟩
  | lost lost => exact absurd lost.2 some

theorem counted_handled {a : Account} {n : Nat} (known : a.Counted (n + 1)) (handling : Handling) :
    (a.post handling.entry).Counted (a.post handling.entry).references := by
  cases handling with
  | copy => exact known.retain.references.symm ▸ known.retain
  | use => exact known.use.references.symm ▸ known.use
  | drop => exact known.drop.references.symm ▸ known.drop

section Handle

variable {h : Listening} (known : h.Kept) {argument : Nat × Owned}
  (some : (h.arguments argument).references ≠ 0) (handling : Handling)

include known some

theorem Kept.handle : ({ h with arguments := post h.arguments (argument, handling.entry) } : Listening).Kept := by
  obtain ⟨n, counted⟩ := known.referenced some
  refine ⟨fun other later => ?_, fun other => ?_, known.bridge⟩
  · have different : other ≠ argument := by
      rintro rfl
      rw [known.fresh other later] at some
      exact some rfl
    exact (Function.update_of_ne different _ _).trans (known.fresh other later)
  · by_cases same : other = argument
    · subst same
      refine .counted ?_
      simp only [post, Function.update_self]
      exact counted_handled counted handling
    · simp only [post, Function.update_of_ne same]
      exact known.standing other

theorem Kept.handle_lostOne :
    ({ h with arguments := post h.arguments (argument, handling.entry) } : Listening).LostOne ↔ h.LostOne := by
  obtain ⟨n, counted⟩ := known.referenced some
  refine exists_congr fun other => ?_
  by_cases same : other = argument
  · subst same
    simp only [post, Function.update_self]
    exact iff_of_false (not_lost_of_counted (counted_handled counted handling)) fun lost => some lost.2
  · simp only [post, Function.update_of_ne same]

end Handle

/-- One event keeps the invariant, and loses something exactly when the
unauthenticated bridge gets what it does not expect. -/
theorem Kept.step {bridge : Bridge} {h h' : Listening} {event : Event} (known : h.Kept)
    (step : Step bridge h event h') : h'.Kept ∧
      (h'.LostOne ↔ h.LostOne ∨ bridge = .unauthConnectionEventsListener ∧ event.unexpected = true) := by
  cases event with
  | call callback connected =>
    obtain ⟨alive, same⟩ := Option.ite_none_left_eq_some.mp step
    cases same
    exact ⟨known.call bridge callback connected alive, known.call_lostOne bridge callback connected⟩
  | listener argument handling =>
    obtain ⟨some, same⟩ := Option.ite_none_left_eq_some.mp step
    cases same
    refine ⟨known.handle some handling, ?_⟩
    rw [known.handle_lostOne some handling]
    simp [Event.unexpected]
  | destroy =>
    obtain ⟨alive, same⟩ := Option.ite_none_left_eq_some.mp step
    cases same
    have closed : h.ctx.release.Closed := Account.Open.release (by simpa only [if_neg alive] using known.bridge)
    refine ⟨⟨known.fresh, known.standing, by rwa [if_pos closed.released]⟩, ?_⟩
    simp [Event.unexpected, LostOne]

theorem kept_of_reach {bridge : Bridge} {events : List Event} {h : Listening}
    (reach : Reach (Step bridge) makeListenerStruct events h) : h.Kept ∧
      (h.LostOne ↔ bridge = .unauthConnectionEventsListener ∧ ∃ event ∈ events, event.unexpected = true) := by
  refine reach.invariant (fun events h => h.Kept ∧
    (h.LostOne ↔ bridge = .unauthConnectionEventsListener ∧ ∃ event ∈ events, event.unexpected = true))
    ⟨start_kept, by simp [start_noneLost]⟩ ?_
  rintro events before event after _ ⟨known, lost⟩ step
  obtain ⟨kept, lostNow⟩ := known.step step
  refine ⟨kept, ?_⟩
  rw [lostNow, lost, ← and_or_left]
  simp [or_and_right, exists_or]

/-- In every run of a listener struct everything is freed exactly once, unless
the unauthenticated bridge was given a message or alerts. -/
theorem frees_iff_expected {bridge : Bridge} {events : List Event} {h : Listening}
    (reach : Reach (Step bridge) makeListenerStruct events h) : h.Frees ↔
      (bridge = .unauthConnectionEventsListener → ∀ event ∈ events, event.unexpected = false) := by
  obtain ⟨known, lost⟩ := kept_of_reach reach
  rw [known.frees_iff_noneLost, lost]
  simp

/-- A listener that keeps the message until after the struct is destroyed. -/
theorem frees_keptMessage :
    let events : List Event := [.call (.receivedIncomingMessage (some [1]) 0) true, .listener (0, .envelope) .copy,
      .listener (0, .ackHandle) .use, .listener (0, .ackHandle) .drop, .listener (0, .envelope) .drop, .destroy,
      .listener (0, .envelope) .drop]
    ∃ h, events.foldlM (next .chatListener) makeListenerStruct = some h ∧ (h.Frees ↔
      (Bridge.chatListener = .unauthConnectionEventsListener → ∀ event ∈ events, event.unexpected = false)) := by
  intro events
  have run : events.foldlM (next .chatListener) makeListenerStruct = some _ := rfl
  exact ⟨_, run, frees_iff_expected (reach_of_foldlM run)⟩

/-- The unauthenticated bridge frees neither a message nor its ack handle. -/
theorem unauth_message_is_lost :
    ∃ h, [.call (.receivedIncomingMessage (some [1]) 0) true, .destroy].foldlM
        (next .unauthConnectionEventsListener) makeListenerStruct = some h ∧
      (h.arguments (0, .envelope)).deeds = [.given] ∧ (h.arguments (0, .ackHandle)).deeds = [.given] ∧ ¬ h.Frees := by
  have run : [.call (.receivedIncomingMessage (some [1]) 0) true, .destroy].foldlM
      (next .unauthConnectionEventsListener) makeListenerStruct = some _ := rfl
  refine ⟨_, run, rfl, rfl, fun frees => ?_⟩
  rcases frees.freed (0, .envelope) rfl with untouched | closed
  · cases untouched
  · exact closed.not_open ⟨0, rfl⟩

end SignalPods.LibSignal.Listening
