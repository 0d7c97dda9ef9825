import SignalPods.RingRTC.Requests

namespace SignalPods.RingRTC.Requests
open Machine

variable {Response : Type*}

/-- Every continuation added so far was resumed or still waits. -/
def Kept (s : Session Response) : Prop :=
  ∀ continuation, continuation < s.adds → continuation ∈ s.resumed ∨ s.Waiting continuation

/-- What the requests that await a reply rely on. -/
structure Tracked (s : Session Response) : Prop where
  once : s.resumed.Nodup
  answered : ∀ past id response returned resumed rest,
    s.outcomes = past ++ .resolved id response returned resumed :: rest →
      returned = resumed.isSome ∧ ∀ continuation value, resumed = some (continuation, value) →
        value = response ∧ .added continuation id ∈ past
  kept : Kept s

/-- An add finds nobody waiting under the id it hands out. -/
def IdFree (_calls : List (Call Response)) (s : Session Response) (call : Call Response) : Prop :=
  call = .add → s.requests.continuationById s.requests.nextId = none

theorem Session.waiting_add_iff {s : Session Response} {continuation : Nat}
    (bound : continuation < s.adds) :
    (s.step .add).Waiting continuation ↔
      ∃ id, id ≠ s.requests.nextId ∧ s.requests.continuationById id = some continuation := by
  simp only [Session.Waiting, Session.step, Requests.add, Function.update_apply]
  constructor
  · rintro ⟨id, present⟩
    split at present
    · exact absurd (Option.some.inj present) (by omega)
    · rename_i different
      exact ⟨id, different, present⟩
  · rintro ⟨id, different, present⟩
    exact ⟨id, by rw [if_neg different, present]⟩

/-- An add loses nobody exactly when nobody was lost before and its id is free. -/
theorem Known.kept_add_iff {s : Session Response} (known : Known s) :
    Kept (s.step .add) ↔ Kept s ∧ s.requests.continuationById s.requests.nextId = none := by
  constructor
  · intro kept
    have earlier : ∀ continuation, continuation < s.adds → continuation ∈ s.resumed ∨
        ∃ id, id ≠ s.requests.nextId ∧ s.requests.continuationById id = some continuation := by
      intro continuation bound
      have after := kept continuation (Nat.lt_succ_of_lt bound)
      rwa [Session.resumed_add, Session.waiting_add_iff bound] at after
    constructor
    · intro continuation bound
      refine (earlier continuation bound).imp_right ?_
      rintro ⟨id, -, present⟩
      exact ⟨id, present⟩
    · cases taken : s.requests.continuationById s.requests.nextId with
      | none => rfl
      | some continuation =>
        obtain ⟨atNext, bound, unanswered⟩ := known.waiting _ _ taken
        rcases earlier continuation bound with resumed | ⟨id, different, present⟩
        · exact absurd resumed unanswered
        · exact absurd ((known.waiting id continuation present).1.trans atNext.symm) different
  · rintro ⟨kept, free⟩ continuation bound
    rw [Session.resumed_add]
    by_cases last : continuation = s.adds
    · exact Or.inr ⟨s.requests.nextId, by simp [Session.step, Requests.add, last]⟩
    · have small : continuation < s.adds := by
        have := bound
        simp only [Session.step] at this
        omega
      refine (kept continuation small).imp_right ?_
      rintro ⟨id, present⟩
      refine (Session.waiting_add_iff small).mpr ⟨id, ?_, present⟩
      rintro rfl
      rw [free] at present
      cases present

/-- A reply loses nobody: whom it takes out of the table it resumes. -/
theorem kept_resolve_iff (s : Session Response) (id : UInt32) (response : Response) :
    Kept (s.step (.resolve id response)) ↔ Kept s := by
  cases present : s.requests.continuationById id with
  | none =>
    have resumed := Session.resumed_resolve_none present response
    have after := Session.step_resolve_none present response
    have table : (s.step (.resolve id response)).requests = s.requests := by rw [after]
    have adds : (s.step (.resolve id response)).adds = s.adds := by rw [after]
    simp only [Kept, Session.Waiting, resumed, table, adds]
  | some continuation =>
    have resumed := Session.resumed_resolve_some present response
    have after := Session.step_resolve_some present response
    have table : (s.step (.resolve id response)).requests.continuationById =
        Function.update s.requests.continuationById id none := by rw [after]
    have adds : (s.step (.resolve id response)).adds = s.adds := by rw [after]
    rw [Kept, Kept, adds]
    refine forall₂_congr fun other _ => ?_
    rw [resumed, List.mem_append, List.mem_singleton]
    by_cases same : other = continuation
    · subst same
      exact iff_of_true (Or.inl (Or.inr rfl)) (Or.inr ⟨id, present⟩)
    · have waiting : (s.step (.resolve id response)).Waiting other ↔ s.Waiting other := by
        simp only [Session.Waiting, table]
        refine exists_congr fun key => ?_
        by_cases atId : key = id
        · subst atId
          rw [Function.update_self, present, Option.some.injEq]
          exact iff_of_false (by simp) (Ne.symm same)
        · rw [Function.update_of_ne atId]
      rw [waiting, or_iff_left same]

theorem tracked_iff_kept (calls : List (Call Response)) : Tracked (run calls) ↔ Kept (run calls) :=
  ⟨Tracked.kept, fun kept => ⟨(run_known calls).once, (run_known calls).answered, kept⟩⟩

theorem kept_iff_idFree (calls : List (Call Response)) :
    Kept (run calls) ↔ EachStep Session.step {} IdFree calls := by
  refine good_iff_eachStep (fun _ s => Kept s) (fun _ s => Known s) Known.start
    (by intro continuation bound; simp at bound) (fun _ _ call known => known.step call) ?_ calls
  intro _ s call known
  cases call with
  | add => simpa [IdFree] using known.kept_add_iff
  | resolve id response => simpa [IdFree] using kept_resolve_iff s id response

/-- Exactly the runs in which no add meets a request still pending under its
id keep every continuation; the other promises hold of every run. -/
theorem tracked_iff_idFree (calls : List (Call Response)) :
    Tracked (run calls) ↔ EachStep Session.step {} IdFree calls :=
  (tracked_iff_kept calls).trans (kept_iff_idFree calls)

theorem run_concat (calls : List (Call Response)) (call : Call Response) :
    run (calls ++ [call]) = (run calls).step call := by
  simp [run]

theorem run_adds_le (calls : List (Call Response)) : (run calls).adds ≤ calls.length := by
  induction calls using List.reverseRecOn with
  | nil => exact Nat.le_refl 0
  | append_singleton calls call ih =>
    rw [run_concat, List.length_append, List.length_singleton]
    cases call with
    | add => exact Nat.succ_le_succ ih
    | resolve id response => exact Nat.le_succ_of_le ih

/-- No id comes round again within `2 ^ 32` calls. -/
theorem tracked_of_length_le {calls : List (Call Response)} (short : calls.length ≤ 2 ^ 32) :
    Tracked (run calls) := by
  rw [tracked_iff_kept, kept_iff_idFree]
  rintro past call inside rfl
  cases taken : (run past).requests.continuationById (run past).requests.nextId with
  | none => exact taken
  | some continuation =>
    obtain ⟨atNext, bound, -⟩ := (run_known past).waiting _ _ taken
    rw [(run_known past).next, idOf_eq_iff] at atNext
    have few := run_adds_le past
    have longer := inside.length_le
    rw [List.length_append, List.length_singleton] at longer
    omega

/-- Peeks the first of which is never answered and the later ones at once. -/
def firstUnanswered (response : Response) : Nat → List (Call Response)
  | 0 => [.add]
  | count + 1 => firstUnanswered response count ++ [.add, .resolve (idOf (count + 1)) response]

/-- Until the ids come round the first peek is the only one that waits, under
the id it was given. -/
theorem firstUnanswered_waits (response : Response) {count : Nat} (few : count < 2 ^ 32) :
    (run (firstUnanswered response count)).adds = count + 1 ∧
      (run (firstUnanswered response count)).requests.continuationById 1 = some 0 := by
  induction count with
  | zero => exact ⟨rfl, rfl⟩
  | succ count ih =>
    obtain ⟨adds, first⟩ := ih (by omega)
    have next := (run_known (firstUnanswered response count)).next
    rw [adds] at next
    have other : idOf (count + 1) ≠ 1 := by
      intro same
      have round := (idOf_eq_iff (count + 1) 0).mp same
      omega
    have split : run (firstUnanswered response (count + 1)) =
        ((run (firstUnanswered response count)).step .add).step (.resolve (idOf (count + 1)) response) := by
      simp [firstUnanswered, run]
    generalize run (firstUnanswered response count) = s at adds first next split
    have waits : (s.step .add).requests.continuationById (idOf (count + 1)) = some (count + 1) := by
      simp [Session.step, Requests.add, next, adds]
    have kept : (s.step .add).requests.continuationById 1 = some 0 := by
      simp [Session.step, Requests.add, next, Function.update_of_ne other.symm, first]
    rw [split, Session.step_resolve_some waits]
    exact ⟨congrArg (· + 1) adds, (Function.update_of_ne other.symm _ _).trans kept⟩

/-- One peek that is never answered loses its id to the one `2 ^ 32` adds
later, though none of those between was left waiting. -/
theorem add_drops_first_request :
    ¬ Tracked (run (firstUnanswered true 4294967295 ++ [.add])) := by
  intro tracked
  have kept := tracked.kept
  rw [run_concat, (run_known _).kept_add_iff] at kept
  obtain ⟨adds, first⟩ := firstUnanswered_waits true (show 4294967295 < 2 ^ 32 by omega)
  have free := kept.2
  have again : idOf (4294967295 + 1) = 1 := rfl
  rw [(run_known _).next, adds, again, first] at free
  cases free

end SignalPods.RingRTC.Requests
