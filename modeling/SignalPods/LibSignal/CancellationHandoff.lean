import Mathlib.Logic.Function.Basic
import SignalPods.Machine.Reach

namespace SignalPods.LibSignal

abbrev CancellationId := UInt64

namespace CancellationHandoffHelper

inductive State
  | initial
  | started (id : CancellationId)
  | cancelled
  deriving DecidableEq, Repr

/-- The locked part of `setCancellationId` and the call it leaves for after. -/
def State.setCancellationId (state : State) (id : CancellationId) : State × Option CancellationId :=
  match state with
  | .initial => (.started id, none)
  | .started _ => (state, none)
  | .cancelled => (state, some id)

/-- The locked part of `cancel()` and the call it leaves for after. -/
def State.cancel : State → State × Option CancellationId
  | .started id => (.cancelled, some id)
  | .initial | .cancelled => (.cancelled, none)

/-- A thread in one of the two functions: before its locked part, after it with
`signal_tokio_async_context_cancel` perhaps still to be called, or back. -/
inductive Phase
  | waiting
  | unlocked (call : Option CancellationId)
  | returned
  deriving DecidableEq, Repr

def Phase.pending : Phase → Option CancellationId
  | .unlocked call => call
  | _ => none

inductive Start
  | pending
  | failed
  | succeeded (id : CancellationId)
  deriving DecidableEq, Repr

/-- One helper with the thread that starts the native work, which is `none`,
and the cancellations, which are the others. -/
structure Handoff (Canceller : Type*) where
  state : State := .initial
  start : Start := .pending
  phase : Option Canceller → Phase := fun _ => .waiting
  /-- The ids `signal_tokio_async_context_cancel` was called with. -/
  issued : List CancellationId := []

inductive Event (Canceller : Type*)
  | startFails
  | startSucceeds (id : CancellationId)
  | lock (thread : Option Canceller)
  | leave (thread : Option Canceller)

namespace Handoff

variable {Canceller : Type*} [DecidableEq Canceller]

/-- A thread's locked part. The starting thread calls `setCancellationId` with
the id it was given, and never if the start failed. -/
def locked (h : Handoff Canceller) : Option Canceller → Option (State × Option CancellationId)
  | some _ => some h.state.cancel
  | none =>
    match h.start with
    | .succeeded id => some (h.state.setCancellationId id)
    | _ => none

def next (h : Handoff Canceller) : Event Canceller → Option (Handoff Canceller)
  | .startFails => if h.start = .pending then some { h with start := .failed } else none
  | .startSucceeds id => if h.start = .pending then some { h with start := .succeeded id } else none
  | .lock thread =>
    match h.phase thread, h.locked thread with
    | .waiting, some (state, call) =>
      some { h with state, phase := Function.update h.phase thread (.unlocked call) }
    | _, _ => none
  | .leave thread =>
    match h.phase thread with
    | .unlocked call =>
      some { h with
        phase := Function.update h.phase thread .returned
        issued := h.issued ++ call.toList }
    | _ => none

def Step (h : Handoff Canceller) (event : Event Canceller) (h' : Handoff Canceller) : Prop := h.next event = some h'

/-- The calls made and the calls to be made, all threads together, are at most
one, and there is one when both sides have been through their locked part. -/
def Once (h : Handoff Canceller) (id : CancellationId) : Prop :=
  (h.issued = [id] ∧ ∀ thread, (h.phase thread).pending = none) ∨
  (h.issued = [] ∧ ∃ thread, (h.phase thread).pending = some id ∧
    ∀ other, other ≠ thread → (h.phase other).pending = none)

def Nothing (h : Handoff Canceller) : Prop := h.issued = [] ∧ ∀ thread, (h.phase thread).pending = none

/-- What the state under the lock says of the threads. -/
inductive Known (h : Handoff Canceller) : Prop
  | initial : h.state = .initial → h.Nothing → (∀ thread, h.phase thread = .waiting) → Known h
  | started (id : CancellationId) : h.state = .started id → h.Nothing → h.start = .succeeded id →
      h.phase none ≠ .waiting → (∀ canceller, h.phase (some canceller) = .waiting) → Known h
  | early (canceller : Canceller) : h.state = .cancelled → h.phase (some canceller) ≠ .waiting →
      h.phase none = .waiting → h.Nothing → Known h
  | late (canceller : Canceller) (id : CancellationId) : h.state = .cancelled →
      h.phase (some canceller) ≠ .waiting → h.phase none ≠ .waiting → h.start = .succeeded id →
      h.Once id → Known h

omit [DecidableEq Canceller] in
theorem start_known : ({} : Handoff Canceller).Known := .initial rfl ⟨rfl, fun _ => rfl⟩ fun _ => rfl

theorem step_cases {h h' : Handoff Canceller} {event : Event Canceller} (step : Step h event h') :
    (h.start = .pending ∧ ∃ start, h' = { h with start }) ∨
    (∃ canceller, h.phase (some canceller) = .waiting ∧ h' = { h with
      state := h.state.cancel.1
      phase := Function.update h.phase (some canceller) (.unlocked h.state.cancel.2) }) ∨
    (∃ id, h.start = .succeeded id ∧ h.phase none = .waiting ∧ h' = { h with
      state := (h.state.setCancellationId id).1
      phase := Function.update h.phase none (.unlocked (h.state.setCancellationId id).2) }) ∨
    (∃ thread call, h.phase thread = .unlocked call ∧ h' = { h with
      phase := Function.update h.phase thread .returned
      issued := h.issued ++ call.toList }) := by
  cases event with
  | startFails =>
    obtain ⟨pending, same⟩ := Option.ite_none_right_eq_some.mp step
    exact Or.inl ⟨pending, _, (Option.some.inj same).symm⟩
  | startSucceeds id =>
    obtain ⟨pending, same⟩ := Option.ite_none_right_eq_some.mp step
    exact Or.inl ⟨pending, _, (Option.some.inj same).symm⟩
  | lock thread =>
    simp only [Step, next] at step
    split at step
    · rename_i state call waiting result
      cases step
      cases thread with
      | some canceller =>
        have same : h.state.cancel = (state, call) := Option.some.inj result
        exact Or.inr (Or.inl ⟨canceller, waiting, by rw [same]⟩)
      | none =>
        simp only [locked] at result
        split at result
        · rename_i id succeeded
          have same : h.state.setCancellationId id = (state, call) := Option.some.inj result
          exact Or.inr (Or.inr (Or.inl ⟨id, succeeded, waiting, by rw [same]⟩))
        · cases result
    · cases step
  | leave thread =>
    simp only [Step, next] at step
    split at step
    · rename_i call unlocked
      cases step
      exact Or.inr (Or.inr (Or.inr ⟨thread, call, unlocked, rfl⟩))
    · cases step

omit [DecidableEq Canceller] in
theorem Nothing.congr {h h' : Handoff Canceller} (nothing : h.Nothing) (issued : h'.issued = h.issued)
    (pending : ∀ thread, (h'.phase thread).pending = (h.phase thread).pending) : h'.Nothing :=
  ⟨issued.trans nothing.1, fun thread => (pending thread).trans (nothing.2 thread)⟩

omit [DecidableEq Canceller] in
theorem Once.congr {h h' : Handoff Canceller} {id : CancellationId} (once : h.Once id) (issued : h'.issued = h.issued)
    (pending : ∀ thread, (h'.phase thread).pending = (h.phase thread).pending) : h'.Once id := by
  simpa only [Once, issued, pending] using once

/-- A thread that leaves with no call to make changes no accounts. -/
theorem pending_update {phase : Option Canceller → Phase} {thread : Option Canceller} {after : Phase}
    (same : after.pending = (phase thread).pending) (other : Option Canceller) :
    (Function.update phase thread after other).pending = (phase other).pending := by
  rw [Function.update_apply]
  split
  · subst other; exact same
  · rfl

/-- A call taken over by a thread is the only one there is. -/
theorem Nothing.once {h h' : Handoff Canceller} {id : CancellationId} (nothing : h.Nothing)
    (thread : Option Canceller) (issued : h'.issued = h.issued)
    (phase : h'.phase = Function.update h.phase thread (.unlocked (some id))) : h'.Once id := by
  refine Or.inr ⟨issued.trans nothing.1, thread, by rw [phase, Function.update_self]; rfl, fun other different => ?_⟩
  rw [phase, Function.update_of_ne different]
  exact nothing.2 other

omit [DecidableEq Canceller] in
theorem Known.step_start {h : Handoff Canceller} (known : h.Known) (pending : h.start = .pending) (start : Start) :
    ({ h with start } : Handoff Canceller).Known := by
  cases known with
  | initial state nothing all => exact .initial state nothing all
  | started id _ _ succeeded => cases pending.symm.trans succeeded
  | early canceller state entered notBegun nothing => exact .early canceller state entered notBegun nothing
  | late _ id _ _ _ succeeded => cases pending.symm.trans succeeded

theorem Known.step_cancel {h : Handoff Canceller} (known : h.Known) {canceller : Canceller}
    (waiting : h.phase (some canceller) = .waiting) : ({ h with
      state := h.state.cancel.1
      phase := Function.update h.phase (some canceller) (.unlocked h.state.cancel.2) } : Handoff Canceller).Known := by
  have starter : ∀ call, Function.update h.phase (some canceller) (.unlocked call) none = h.phase none :=
    fun call => Function.update_of_ne (by simp) _ _
  have entered : ∀ call, Function.update h.phase (some canceller) (.unlocked call) (some canceller) ≠ .waiting := by
    intro call
    rw [Function.update_self]
    simp
  have silent : (Phase.unlocked none).pending = (h.phase (some canceller)).pending := by rw [waiting]; rfl
  cases known with
  | initial state nothing all =>
    rw [state]
    exact .early canceller rfl (entered none) ((starter none).trans (all none))
      (nothing.congr rfl (pending_update silent))
  | started id state nothing succeeded begun _ =>
    rw [state]
    refine .late canceller id rfl (entered (some id)) ?_ succeeded (nothing.once (some canceller) rfl rfl)
    exact fun notBegun => begun ((starter (some id)).symm.trans notBegun)
  | early _ state _ notBegun nothing =>
    rw [state]
    exact .early canceller rfl (entered none) ((starter none).trans notBegun)
      (nothing.congr rfl (pending_update silent))
  | late _ id state _ begun succeeded once =>
    rw [state]
    refine .late canceller id rfl (entered none) ?_ succeeded (once.congr rfl (pending_update silent))
    exact fun notBegun => begun ((starter none).symm.trans notBegun)

theorem Known.step_set {h : Handoff Canceller} (known : h.Known) {id : CancellationId}
    (succeeded : h.start = .succeeded id) (waiting : h.phase none = .waiting) : ({ h with
      state := (h.state.setCancellationId id).1
      phase := Function.update h.phase none (.unlocked (h.state.setCancellationId id).2) } : Handoff Canceller).Known := by
  have others : ∀ call canceller,
      Function.update h.phase none (.unlocked call) (some canceller) = h.phase (some canceller) :=
    fun call canceller => Function.update_of_ne (by simp) _ _
  have begun : ∀ call, Function.update h.phase none (.unlocked call) none ≠ .waiting := by
    intro call
    rw [Function.update_self]
    simp
  cases known with
  | initial state nothing all =>
    have silent : (Phase.unlocked none).pending = (h.phase none).pending := by rw [waiting]; rfl
    rw [state]
    exact .started id rfl (nothing.congr rfl (pending_update silent)) succeeded (begun none)
      fun canceller => (others none canceller).trans (all _)
  | started _ _ _ _ already => exact absurd waiting already
  | early canceller state entered _ nothing =>
    rw [state]
    exact .late canceller id rfl (fun same => entered ((others (some id) canceller).symm.trans same)) (begun (some id))
      succeeded (nothing.once none rfl rfl)
  | late _ _ _ _ already => exact absurd waiting already

theorem Nothing.leave {h : Handoff Canceller} (nothing : h.Nothing) {thread : Option Canceller}
    {call : Option CancellationId} (unlocked : h.phase thread = .unlocked call) : ({ h with
      phase := Function.update h.phase thread .returned
      issued := h.issued ++ call.toList } : Handoff Canceller).Nothing := by
  have none' := nothing.2 thread
  rw [unlocked] at none'
  obtain rfl : call = none := none'
  exact nothing.congr (by simp) (pending_update (by rw [unlocked]; rfl))

/-- Leaving makes the call there was to make. -/
theorem Once.leave {h : Handoff Canceller} {id : CancellationId} (once : h.Once id) {thread : Option Canceller}
    {call : Option CancellationId} (unlocked : h.phase thread = .unlocked call) : ({ h with
      phase := Function.update h.phase thread .returned
      issued := h.issued ++ call.toList } : Handoff Canceller).Once id := by
  have holds : (h.phase thread).pending = call := by rw [unlocked]; rfl
  cases call with
  | none => exact once.congr (by simp) (pending_update (by rw [unlocked]; rfl))
  | some held =>
    rcases once with ⟨_, nobody⟩ | ⟨issued, holder, holding, others⟩
    · rw [nobody thread] at holds
      cases holds
    · have same : thread = holder := by
        by_contra different
        rw [others thread different] at holds
        cases holds
      subst same
      obtain rfl : id = held := Option.some.inj (holding.symm.trans holds)
      refine Or.inl ⟨by rw [issued]; rfl, fun other => ?_⟩
      by_cases here : other = thread
      · subst here
        exact congrArg Phase.pending (Function.update_self other .returned h.phase)
      · exact (congrArg Phase.pending (Function.update_of_ne here .returned h.phase)).trans (others other here)

theorem Known.step_leave {h : Handoff Canceller} (known : h.Known) {thread : Option Canceller}
    {call : Option CancellationId} (unlocked : h.phase thread = .unlocked call) : ({ h with
      phase := Function.update h.phase thread .returned
      issued := h.issued ++ call.toList } : Handoff Canceller).Known := by
  have stays : ∀ other, h.phase other ≠ .waiting → Function.update h.phase thread .returned other ≠ .waiting := by
    intro other entered
    rw [Function.update_apply]
    split
    · simp
    · exact entered
  have waits : ∀ other, h.phase other = .waiting → Function.update h.phase thread .returned other = .waiting := by
    intro other waiting
    rw [Function.update_of_ne, waiting]
    rintro rfl
    cases waiting.symm.trans unlocked
  cases known with
  | initial _ _ all => cases (all thread).symm.trans unlocked
  | started id state nothing succeeded begun others =>
    exact .started id state (nothing.leave unlocked) succeeded (stays none begun) fun canceller => waits _ (others canceller)
  | early canceller state entered notBegun nothing =>
    exact .early canceller state (stays _ entered) (waits none notBegun) (nothing.leave unlocked)
  | late canceller id state entered begun succeeded once =>
    exact .late canceller id state (stays _ entered) (stays none begun) succeeded (once.leave unlocked)

theorem Known.step {h h' : Handoff Canceller} {event : Event Canceller} (known : h.Known)
    (step : Step h event h') : h'.Known := by
  rcases step_cases step with ⟨pending, start, rfl⟩ | ⟨canceller, waiting, rfl⟩ | ⟨id, succeeded, waiting, rfl⟩ |
    ⟨thread, call, unlocked, rfl⟩
  · exact known.step_start pending start
  · exact known.step_cancel waiting
  · exact known.step_set succeeded waiting
  · exact known.step_leave unlocked

theorem known_of_reach {events : List (Event Canceller)} {h : Handoff Canceller}
    (reach : Machine.Reach Step {} events h) : h.Known :=
  reach.invariant (fun _ h => h.Known) start_known fun _ known step => known.step step

/-- What the handoff promises in a state. A function is done when its thread
has returned from it. -/
structure HandsOff (h : Handoff Canceller) : Prop where
  notTwice : h.issued.length ≤ 1
  onlyStarted : ∀ id ∈ h.issued, h.start = .succeeded id
  onlyBoth : h.phase none = .waiting ∨ (∀ canceller, h.phase (some canceller) = .waiting) → h.issued = []
  notLost : ∀ id canceller, h.start = .succeeded id → h.phase none = .returned →
    h.phase (some canceller) = .returned → h.Once id
  exactlyOnce : ∀ id canceller, h.start = .succeeded id → h.phase none = .returned →
    h.phase (some canceller) = .returned → (∀ thread, h.phase thread = .waiting ∨ h.phase thread = .returned) →
    h.issued = [id]

omit [DecidableEq Canceller] in
theorem Once.issued_cases {h : Handoff Canceller} {id : CancellationId} (once : h.Once id) :
    h.issued = [] ∨ h.issued = [id] := by
  rcases once with ⟨issued, _⟩ | ⟨issued, _⟩
  · exact Or.inr issued
  · exact Or.inl issued

omit [DecidableEq Canceller] in
theorem Known.issued_cases {h : Handoff Canceller} (known : h.Known) :
    h.issued = [] ∨ ∃ id, h.start = .succeeded id ∧ h.issued = [id] := by
  cases known with
  | initial _ nothing => exact Or.inl nothing.1
  | started _ _ nothing => exact Or.inl nothing.1
  | early _ _ _ _ nothing => exact Or.inl nothing.1
  | late _ id _ _ _ succeeded once => exact once.issued_cases.imp_right fun issued => ⟨id, succeeded, issued⟩

omit [DecidableEq Canceller] in
theorem Known.once {h : Handoff Canceller} (known : h.Known) {id : CancellationId} {canceller : Canceller}
    (succeeded : h.start = .succeeded id) (begun : h.phase none ≠ .waiting)
    (entered : h.phase (some canceller) ≠ .waiting) : h.Once id := by
  cases known with
  | initial _ _ all => exact absurd (all none) begun
  | started _ _ _ _ _ others => exact absurd (others canceller) entered
  | early _ _ _ notBegun => exact absurd notBegun begun
  | late _ other _ _ _ same once =>
    cases same.symm.trans succeeded
    exact once

omit [DecidableEq Canceller] in
theorem Known.onlyBoth {h : Handoff Canceller} (known : h.Known)
    (oneSide : h.phase none = .waiting ∨ ∀ canceller, h.phase (some canceller) = .waiting) : h.issued = [] := by
  cases known with
  | initial _ nothing => exact nothing.1
  | started _ _ nothing => exact nothing.1
  | early _ _ _ _ nothing => exact nothing.1
  | late canceller _ _ entered begun =>
    rcases oneSide with notBegun | nobody
    · exact absurd notBegun begun
    · exact absurd (nobody canceller) entered

/-- However the start, the handing over of the id and any number of
cancellations interleave, no cancellation is lost and none is doubled. -/
theorem handsOff_of_reach {events : List (Event Canceller)} {h : Handoff Canceller}
    (reach : Machine.Reach Step {} events h) : h.HandsOff := by
  have known := known_of_reach reach
  have both : ∀ id canceller, h.start = .succeeded id → h.phase none = .returned →
      h.phase (some canceller) = .returned → h.Once id := by
    intro id canceller succeeded set cancelled
    exact known.once succeeded (by simp [set]) (by rw [cancelled]; simp)
  refine ⟨?_, ?_, known.onlyBoth, both, ?_⟩
  · rcases known.issued_cases with issued | ⟨id, _, issued⟩ <;> simp [issued]
  · intro id member
    rcases known.issued_cases with issued | ⟨same, succeeded, issued⟩
    · simp [issued] at member
    · rw [issued, List.mem_singleton] at member
      rw [member, succeeded]
  · intro id canceller succeeded set cancelled settled
    rcases both id canceller succeeded set cancelled with ⟨issued, _⟩ | ⟨_, thread, pending, _⟩
    · exact issued
    · rcases settled thread with waiting | returned
      · rw [waiting] at pending; cases pending
      · rw [returned] at pending; cases pending

/-- One cancellation arrives before the id and another after it. -/
theorem handsOff_two_cancellations :
    let events : List (Event Bool) := [.startSucceeds 5, .lock (some false), .leave (some false), .lock none,
      .lock (some true), .leave none, .leave (some true)]
    ∃ h, events.foldlM next {} = some h ∧ h.HandsOff ∧ h.issued = [5] := by
  intro events
  have run : events.foldlM next {} = some _ := rfl
  exact ⟨_, run, handsOff_of_reach (Machine.reach_of_foldlM run), rfl⟩

end Handoff

end CancellationHandoffHelper

end SignalPods.LibSignal
