import Mathlib.Data.List.Infix

namespace SignalPods.Machine

variable {State Event : Type*}

/-- The states a labelled transition relation reaches from `init`, each
together with the events that led to it, oldest first. -/
inductive Reach (step : State → Event → State → Prop) (init : State) : List Event → State → Prop
  | start : Reach step init [] init
  | next {events before event after} : Reach step init events before → step before event after →
      Reach step init (events ++ [event]) after

variable {step : State → Event → State → Prop} {init : State}

/-- Run rule: what holds at the start and survives each single step holds in
every reachable state. The predicate may read the history. -/
theorem Reach.invariant {events : List Event} {state : State} (reach : Reach step init events state)
    (Good : List Event → State → Prop) (start : Good [] init)
    (preserved : ∀ {events before event after}, Reach step init events before → Good events before →
      step before event after → Good (events ++ [event]) after) : Good events state := by
  induction reach with
  | start => exact start
  | next previous run ih => exact preserved previous ih run

/-- A partial machine reaches the state that running its events ends in. -/
theorem reach_of_foldlM {next : State → Event → Option State} {events : List Event} {final : State}
    (run : events.foldlM next init = some final) :
    Reach (fun before event after => next before event = some after) init events final := by
  induction events using List.reverseRecOn generalizing final with
  | nil =>
    cases run
    exact .start
  | append_singleton events event ih =>
    rw [List.foldlM_append] at run
    obtain ⟨middle, reached, last⟩ := Option.bind_eq_some_iff.mp run
    simp only [List.foldlM_cons, List.foldlM_nil, bind_pure] at last
    exact (ih reached).next last

theorem Reach.append {middle final : State} {events later : List Event} (first : Reach step init events middle)
    (second : Reach step middle later final) : Reach step init (events ++ later) final := by
  induction second with
  | start => rwa [List.append_nil]
  | next _ run ih =>
    rw [← List.append_assoc]
    exact ih.next run

/-- Simulation rule: where each step from a state of the invariant is one of another
relation through a map, a run is one of it, with the same events. -/
theorem Reach.simulates {State' : Type*} {step' : State' → Event → State' → Prop} (f : State → State')
    (Good : State → Prop)
    {events : List Event} {state : State} (reach : Reach step init events state) (start : Good init)
    (preserved : ∀ {before event after}, Good before → step before event after → Good after)
    (simulated : ∀ {before event after}, Good before → step before event after → step' (f before) event (f after)) :
    Good state ∧ Reach step' (f init) events (f state) := by
  induction reach with
  | start => exact ⟨start, .start⟩
  | next _ run ih => exact ⟨preserved ih.1 run, ih.2.next (simulated ih.1 run)⟩

section Total

variable (next : State → Event → State)

theorem foldl_invariant (Good : List Event → State → Prop) (start : Good [] init)
    (preserved : ∀ events state event, Good events state → Good (events ++ [event]) (next state event))
    (events : List Event) : Good events (events.foldl next init) := by
  induction events using List.reverseRecOn with
  | nil => exact start
  | append_singleton events event ih =>
    rw [List.foldl_append]
    exact preserved events _ event ih

/-- `Good` holds of every state the run passes through, its first and its last
included. -/
def Throughout (init : State) (Good : List Event → State → Prop) (events : List Event) : Prop :=
  ∀ past, past <+: events → Good past (past.foldl next init)

/-- `Allowed` holds of every step the run takes, read at the state before it. -/
def EachStep (init : State) (Allowed : List Event → State → Event → Prop) (events : List Event) : Prop :=
  ∀ past event, past ++ [event] <+: events → Allowed past (past.foldl next init) event

variable {next}

theorem throughout_concat_iff {Good : List Event → State → Prop} {events : List Event} {event : Event} :
    Throughout next init Good (events ++ [event]) ↔
      Throughout next init Good events ∧ Good (events ++ [event]) (next (events.foldl next init) event) := by
  have last : (events ++ [event]).foldl next init = next (events.foldl next init) event := by
    rw [List.foldl_append]; rfl
  constructor
  · intro all
    refine ⟨fun past before => all past (before.trans (List.prefix_append events [event])), ?_⟩
    rw [← last]
    exact all _ List.prefix_rfl
  · rintro ⟨earlier, now⟩ past before
    rcases List.prefix_concat_iff.mp before with rfl | inside
    · rwa [last]
    · exact earlier past inside

theorem eachStep_concat_iff {Allowed : List Event → State → Event → Prop} {events : List Event} {event : Event} :
    EachStep next init Allowed (events ++ [event]) ↔
      EachStep next init Allowed events ∧ Allowed events (events.foldl next init) event := by
  constructor
  · intro all
    exact ⟨fun past last before => all past last (before.trans (List.prefix_append events [event])),
      all events event List.prefix_rfl⟩
  · rintro ⟨earlier, now⟩ past last before
    rcases List.prefix_concat_iff.mp before with whole | inside
    · obtain ⟨rfl, same⟩ := List.append_inj' whole rfl
      obtain rfl : last = event := List.singleton_inj.mp same
      exact now
    · exact earlier past last inside

/-- While every step is allowed the invariant is kept. -/
theorem EachStep.invariant {Keeps : List Event → State → Prop} {Allowed : List Event → State → Event → Prop}
    (start : Keeps [] init)
    (preserved : ∀ events state event, Keeps events state → Allowed events state event →
      Keeps (events ++ [event]) (next state event))
    {events : List Event} (all : EachStep next init Allowed events) :
    Keeps events (events.foldl next init) := by
  induction events using List.reverseRecOn with
  | nil => exact start
  | append_singleton events event ih =>
    obtain ⟨earlier, allowed⟩ := eachStep_concat_iff.mp all
    have kept := ih earlier
    rw [List.foldl_append]
    exact preserved events _ event kept allowed

/-- Two conditions on a step that agree while the invariant holds, which the
second of them keeps, agree on whole runs. -/
theorem eachStep_iff_eachStep (Keeps : List Event → State → Prop) {Wanted Allowed : List Event → State → Event → Prop}
    (start : Keeps [] init)
    (preserved : ∀ events state event, Keeps events state → Allowed events state event →
      Keeps (events ++ [event]) (next state event))
    (same : ∀ events state event, Keeps events state → (Wanted events state event ↔ Allowed events state event))
    (events : List Event) : EachStep next init Wanted events ↔ EachStep next init Allowed events := by
  induction events using List.reverseRecOn with
  | nil => exact iff_of_true (fun past event before => by simp at before) fun past event before => by simp at before
  | append_singleton events event ih =>
    rw [eachStep_concat_iff, eachStep_concat_iff, ih]
    refine and_congr_right fun earlier => ?_
    exact same events _ event (earlier.invariant start preserved)

/-- Exactness rule. If allowed steps keep an invariant that gives `Good`, and a
step that is not allowed breaks `Good` at once, then a run is good throughout
exactly when each of its steps is allowed. -/
theorem throughout_iff_eachStep {Good : List Event → State → Prop} (Keeps : List Event → State → Prop)
    {Allowed : List Event → State → Event → Prop} (start : Keeps [] init)
    (good : ∀ events state, Keeps events state → Good events state)
    (preserved : ∀ events state event, Keeps events state → Allowed events state event →
      Keeps (events ++ [event]) (next state event))
    (breaks : ∀ events state event, Keeps events state → ¬ Allowed events state event →
      ¬ Good (events ++ [event]) (next state event))
    (events : List Event) :
    Throughout next init Good events ↔ EachStep next init Allowed events := by
  induction events using List.reverseRecOn with
  | nil =>
    refine iff_of_true ?_ (fun past event before => by simp at before)
    intro past before
    obtain rfl := List.prefix_nil.mp before
    exact good [] init start
  | append_singleton events event ih =>
    rw [throughout_concat_iff, eachStep_concat_iff, ih]
    refine and_congr_right fun earlier => ?_
    have kept := earlier.invariant start preserved
    constructor
    · intro now
      by_contra refused
      exact breaks events _ event kept refused now
    · intro allowed
      exact good _ _ (preserved events _ event kept allowed)

/-- Exactness rule for a loss that cannot be made good: if a step leaves a good
state exactly when it starts from one and is allowed, then the end of a run is
good exactly when each of its steps is allowed. -/
theorem good_iff_eachStep (Good Keeps : List Event → State → Prop)
    {Allowed : List Event → State → Event → Prop} (start : Keeps [] init) (good : Good [] init)
    (preserved : ∀ events state event, Keeps events state → Keeps (events ++ [event]) (next state event))
    (exact : ∀ events state event, Keeps events state →
      (Good (events ++ [event]) (next state event) ↔ Good events state ∧ Allowed events state event))
    (events : List Event) :
    Good events (events.foldl next init) ↔ EachStep next init Allowed events := by
  induction events using List.reverseRecOn with
  | nil => exact iff_of_true good fun past event before => by simp at before
  | append_singleton events event ih =>
    have kept := foldl_invariant next Keeps start preserved events
    have last := exact events _ event kept
    rw [List.foldl_append, eachStep_concat_iff, ← ih]
    exact last

end Total

end SignalPods.Machine
