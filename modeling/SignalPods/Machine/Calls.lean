import Mathlib.Data.List.Induction

namespace SignalPods.Machine

variable {State Call Outcome : Type*}

/-- The calls made on an object one after the other, each together with how it
ended, and the state after them; none once a call stops the process. -/
def runCalls (perform : State → Call → Option (Outcome × State)) (init : State) (calls : List Call) :
    Option (List (Call × Outcome) × State) :=
  calls.foldlM
    (fun run call => (perform run.2 call).map fun ended => (run.1 ++ [(call, ended.1)], ended.2)) ([], init)

variable {perform : State → Call → Option (Outcome × State)} {init : State}

theorem runCalls_concat (calls : List Call) (call : Call) :
    runCalls perform init (calls ++ [call]) = (runCalls perform init calls).bind fun run =>
      (perform run.2 call).map fun ended => (run.1 ++ [(call, ended.1)], ended.2) := by
  unfold runCalls
  rw [List.foldlM_append]
  congr 1
  funext run
  exact List.foldlM_cons.trans (bind_pure _)

theorem runCalls_concat_eq_some_iff {calls : List Call} {call : Call} {history : List (Call × Outcome)} {state : State} :
    runCalls perform init (calls ++ [call]) = some (history, state) ↔
      ∃ earlier before outcome, runCalls perform init calls = some (earlier, before) ∧
        perform before call = some (outcome, state) ∧ history = earlier ++ [(call, outcome)] := by
  rw [runCalls_concat, Option.bind_eq_some_iff]
  constructor
  · rintro ⟨⟨earlier, before⟩, reached, last⟩
    obtain ⟨⟨outcome, after⟩, performed, same⟩ := Option.map_eq_some_iff.mp last
    obtain ⟨rfl, rfl⟩ := Prod.mk.inj same
    exact ⟨earlier, before, outcome, reached, performed, rfl⟩
  · rintro ⟨earlier, before, outcome, reached, performed, rfl⟩
    exact ⟨(earlier, before), reached, Option.map_eq_some_iff.mpr ⟨(outcome, state), performed, rfl⟩⟩

/-- The history lists the calls in their order. -/
theorem runCalls_calls {calls : List Call} {history : List (Call × Outcome)} {state : State}
    (run : runCalls perform init calls = some (history, state)) : history.map Prod.fst = calls := by
  induction calls using List.reverseRecOn generalizing history state with
  | nil =>
    obtain ⟨rfl, rfl⟩ := Prod.mk.inj (Option.some.inj run)
    rfl
  | append_singleton calls call ih =>
    obtain ⟨earlier, before, outcome, reached, _, rfl⟩ := runCalls_concat_eq_some_iff.mp run
    rw [List.map_append, ih reached]
    rfl

/-- What holds at the start and survives each call holds after all of them. -/
theorem runCalls_invariant {Good : List (Call × Outcome) → State → Prop} (start : Good [] init)
    (preserved : ∀ history before call outcome after, Good history before →
      perform before call = some (outcome, after) → Good (history ++ [(call, outcome)]) after)
    {calls : List Call} {history : List (Call × Outcome)} {state : State}
    (run : runCalls perform init calls = some (history, state)) : Good history state := by
  induction calls using List.reverseRecOn generalizing history state with
  | nil =>
    obtain ⟨rfl, rfl⟩ := Prod.mk.inj (Option.some.inj run)
    exact start
  | append_singleton calls call ih =>
    obtain ⟨earlier, before, outcome, reached, performed, rfl⟩ := runCalls_concat_eq_some_iff.mp run
    exact preserved earlier before call outcome state (ih reached) performed

/-- When a call alone decides whether it stops the process, the calls do. -/
theorem runCalls_eq_none_iff {Stops : Call → Prop} (stops : ∀ state call, perform state call = none ↔ Stops call)
    (calls : List Call) : runCalls perform init calls = none ↔ ∃ call ∈ calls, Stops call := by
  induction calls using List.reverseRecOn with
  | nil => simp [runCalls]
  | append_singleton calls call ih =>
    rw [runCalls_concat]
    cases reached : runCalls perform init calls with
    | none =>
      obtain ⟨stopping, member, stop⟩ := ih.mp reached
      exact iff_of_true rfl ⟨stopping, List.mem_append_left _ member, stop⟩
    | some run =>
      have earlier : ¬ ∃ call ∈ calls, Stops call := by
        rw [← ih, reached]
        simp
      simp only [Option.bind_some, Option.map_eq_none_iff, stops, List.mem_append, List.mem_singleton, or_and_right,
        exists_or, exists_eq_left, earlier, false_or]

end SignalPods.Machine
