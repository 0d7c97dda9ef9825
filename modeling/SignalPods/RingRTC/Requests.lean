import Mathlib.Logic.Function.Basic
import Mathlib.Data.List.Nodup
import Mathlib.Algebra.Ring.Nat
import SignalPods.Machine.Reach
import SignalPods.Machine.History

namespace SignalPods.RingRTC
open Machine

/-- The tracker of requests that await a reply. -/
structure Requests (Continuation : Type*) where
  continuationById : UInt32 → Option Continuation := fun _ => none
  nextId : UInt32 := 1

namespace Requests

variable {Continuation Response : Type*}

/-- `&+=` wraps, and the dictionary write does not look at what it replaces. -/
def add (r : Requests Continuation) (continuation : Continuation) : UInt32 × Requests Continuation :=
  (r.nextId,
    { continuationById := Function.update r.continuationById r.nextId (some continuation)
      nextId := r.nextId + 1 })

/-- The returned flag, the tracker, and the continuation resumed with its value. -/
def resolve (r : Requests Continuation) (id : UInt32) (response : Response) :
    Bool × Requests Continuation × Option (Continuation × Response) :=
  match r.continuationById id with
  | some continuation =>
    (true, { r with continuationById := Function.update r.continuationById id none },
      some (continuation, response))
  | none => (false, r, none)

/-- A call on the tracker. Every `add` brings a continuation of its own. -/
inductive Call (Response : Type*)
  | add
  | resolve (id : UInt32) (response : Response)

/-- What a call did, as its caller and the resumed task see it. -/
inductive Outcome (Response : Type*)
  | added (continuation : Nat) (id : UInt32)
  | resolved (id : UInt32) (response : Response) (returned : Bool) (resumed : Option (Nat × Response))

def Outcome.resumed? : Outcome Response → Option Nat
  | .added _ _ => none
  | .resolved _ _ _ resumed => resumed.map Prod.fst

/-- A tracker with what happened on it. Continuations are numbered in the order
of their adds. -/
structure Session (Response : Type*) where
  requests : Requests Nat := {}
  adds : Nat := 0
  outcomes : List (Outcome Response) := []

def Session.step (s : Session Response) : Call Response → Session Response
  | .add =>
    let (id, requests) := s.requests.add s.adds
    { requests, adds := s.adds + 1, outcomes := s.outcomes ++ [.added s.adds id] }
  | .resolve id response =>
    let (returned, requests, resumed) := s.requests.resolve id response
    { s with requests, outcomes := s.outcomes ++ [.resolved id response returned resumed] }

def run (calls : List (Call Response)) : Session Response := calls.foldl Session.step {}

def Session.resumed (s : Session Response) : List Nat := s.outcomes.filterMap Outcome.resumed?

def Session.Waiting (s : Session Response) (continuation : Nat) : Prop :=
  ∃ id, s.requests.continuationById id = some continuation

@[simp] theorem Session.resumed_add (s : Session Response) : (s.step .add).resumed = s.resumed := by
  simp [Session.resumed, Session.step, Outcome.resumed?]

theorem Session.step_resolve_none {s : Session Response} {id : UInt32}
    (absent : s.requests.continuationById id = none) (response : Response) :
    s.step (.resolve id response) =
      { s with outcomes := s.outcomes ++ [.resolved id response false none] } := by
  simp only [Session.step, resolve, absent]

theorem Session.step_resolve_some {s : Session Response} {id : UInt32} {continuation : Nat}
    (present : s.requests.continuationById id = some continuation) (response : Response) :
    s.step (.resolve id response) =
      { s with
        requests := { s.requests with
          continuationById := Function.update s.requests.continuationById id none }
        outcomes := s.outcomes ++ [.resolved id response true (some (continuation, response))] } := by
  simp only [Session.step, resolve, present]

theorem Session.resumed_resolve_none {s : Session Response} {id : UInt32}
    (absent : s.requests.continuationById id = none) (response : Response) :
    (s.step (.resolve id response)).resumed = s.resumed := by
  rw [Session.step_resolve_none absent]
  simp [Session.resumed, Outcome.resumed?]

theorem Session.resumed_resolve_some {s : Session Response} {id : UInt32} {continuation : Nat}
    (present : s.requests.continuationById id = some continuation) (response : Response) :
    (s.step (.resolve id response)).resumed = s.resumed ++ [continuation] := by
  rw [Session.step_resolve_some present]
  simp [Session.resumed, Outcome.resumed?]

/-- The id an add returns depends only on how many adds came before. -/
def idOf (continuation : Nat) : UInt32 := UInt32.ofNat (continuation + 1)

theorem idOf_eq_iff (first second : Nat) : idOf first = idOf second ↔ first % 2 ^ 32 = second % 2 ^ 32 := by
  rw [idOf, idOf, ← UInt32.toNat_inj, UInt32.toNat_ofNat', UInt32.toNat_ofNat']
  omega

/-- What the tracker knows at any point, whether or not an id was reused. -/
structure Known (s : Session Response) : Prop where
  next : s.requests.nextId = idOf s.adds
  waiting : ∀ id continuation, s.requests.continuationById id = some continuation →
    id = idOf continuation ∧ continuation < s.adds ∧ continuation ∉ s.resumed
  added : ∀ continuation, continuation < s.adds → .added continuation (idOf continuation) ∈ s.outcomes
  resumed : ∀ continuation ∈ s.resumed, continuation < s.adds
  once : s.resumed.Nodup
  answered : ∀ past id response returned resumed rest,
    s.outcomes = past ++ .resolved id response returned resumed :: rest →
      returned = resumed.isSome ∧ ∀ continuation value, resumed = some (continuation, value) →
        value = response ∧ .added continuation id ∈ past

/-- A reply that was recorded before stays as it was when the log grows. -/
theorem answered_concat {outcomes : List (Outcome Response)} {last : Outcome Response}
    {Fine : List (Outcome Response) → UInt32 → Response → Bool → Option (Nat × Response) → Prop}
    (before : ∀ past id response returned resumed rest,
      outcomes = past ++ .resolved id response returned resumed :: rest → Fine past id response returned resumed)
    (now : ∀ id response returned resumed, last = .resolved id response returned resumed →
      Fine outcomes id response returned resumed) :
    ∀ past id response returned resumed rest,
      outcomes ++ [last] = past ++ .resolved id response returned resumed :: rest →
        Fine past id response returned resumed := by
  intro past id response returned resumed rest split
  rcases concat_eq_split_iff.mp split with ⟨-, rfl, same⟩ | ⟨earlier, -, inside⟩
  · exact now id response returned resumed same.symm
  · exact before past id response returned resumed earlier inside

theorem Known.start : Known ({} : Session Response) where
  next := rfl
  waiting := by simp
  added := by simp
  resumed := by simp [Session.resumed]
  once := by simp [Session.resumed]
  answered := by simp

theorem Known.add {s : Session Response} (known : Known s) : Known (s.step .add) where
  next := by
    have next := known.next
    simp only [Session.step, Requests.add, next, idOf, ← UInt32.toNat_inj, UInt32.toNat_add,
      UInt32.toNat_ofNat', UInt32.toNat_one]
    omega
  waiting := by
    intro id continuation present
    rw [Session.resumed_add]
    simp only [Session.step, Requests.add, Function.update_apply] at present ⊢
    split at present
    · rename_i atNext
      obtain rfl : s.adds = continuation := Option.some.inj present
      exact ⟨atNext.trans known.next, by omega, fun member => absurd (known.resumed _ member) (by omega)⟩
    · obtain ⟨same, bound, unanswered⟩ := known.waiting id continuation present
      exact ⟨same, by omega, unanswered⟩
  added := by
    intro continuation bound
    simp only [Session.step, Requests.add] at bound ⊢
    by_cases last : continuation = s.adds
    · rw [last, known.next]
      exact List.mem_append_right _ (List.mem_singleton_self _)
    · exact List.mem_append_left _ (known.added continuation (by omega))
  resumed := by
    rw [Session.resumed_add]
    intro continuation member
    exact Nat.lt_succ_of_lt (known.resumed continuation member)
  once := by rw [Session.resumed_add]; exact known.once
  answered := by
    exact answered_concat known.answered (by intro id response returned resumed same; cases same)

theorem Known.resolve_none {s : Session Response} (known : Known s) {id : UInt32}
    (absent : s.requests.continuationById id = none) (response : Response) :
    Known (s.step (.resolve id response)) := by
  have resumed := Session.resumed_resolve_none absent response
  have after := Session.step_resolve_none absent response
  constructor
  · rw [after]
    exact known.next
  · rw [resumed, after]
    exact known.waiting
  · intro continuation bound
    rw [after] at bound ⊢
    exact List.mem_append_left _ (known.added continuation bound)
  · rw [resumed, after]
    exact known.resumed
  · rw [resumed]
    exact known.once
  · rw [after]
    refine answered_concat known.answered ?_
    intro id' response' returned resumedNow last
    cases last
    exact ⟨rfl, by simp⟩

theorem Known.resolve_some {s : Session Response} (known : Known s) {id : UInt32} {continuation : Nat}
    (present : s.requests.continuationById id = some continuation) (response : Response) :
    Known (s.step (.resolve id response)) := by
  obtain ⟨atId, bound, unanswered⟩ := known.waiting id continuation present
  have resumed := Session.resumed_resolve_some present response
  have after := Session.step_resolve_some present response
  have table : (s.step (.resolve id response)).requests.continuationById =
      Function.update s.requests.continuationById id none := by rw [after]
  have adds : (s.step (.resolve id response)).adds = s.adds := by rw [after]
  constructor
  · rw [after]
    exact known.next
  · intro other waiting stillThere
    rw [table] at stillThere
    have different : other ≠ id := by
      rintro rfl
      rw [Function.update_self] at stillThere
      cases stillThere
    rw [Function.update_of_ne different] at stillThere
    obtain ⟨atOther, small, notYet⟩ := known.waiting other waiting stillThere
    have apart : waiting ≠ continuation := by
      rintro rfl
      exact different (atOther.trans atId.symm)
    rw [adds, resumed, List.mem_append, List.mem_singleton]
    exact ⟨atOther, small, not_or.mpr ⟨notYet, apart⟩⟩
  · intro other small
    rw [after] at small ⊢
    exact List.mem_append_left _ (known.added other small)
  · intro other member
    rw [resumed, List.mem_append, List.mem_singleton] at member
    rw [adds]
    rcases member with earlier | rfl
    · exact known.resumed other earlier
    · exact bound
  · rw [resumed, ← List.concat_eq_append]
    exact known.once.concat unanswered
  · rw [after]
    refine answered_concat known.answered ?_
    intro id' response' returned resumedNow last
    cases last
    refine ⟨rfl, ?_⟩
    intro other value same
    cases same
    have added := known.added continuation bound
    rw [← atId] at added
    exact ⟨rfl, added⟩

theorem Known.step {s : Session Response} (known : Known s) (call : Call Response) : Known (s.step call) := by
  cases call with
  | add => exact known.add
  | resolve id response =>
    cases found : s.requests.continuationById id with
    | none => exact known.resolve_none found response
    | some continuation => exact known.resolve_some found response

theorem run_known (calls : List (Call Response)) : Known (run calls) :=
  foldl_invariant Session.step (fun _ s => Known s) Known.start (fun _ _ call known => known.step call) calls

end Requests

end SignalPods.RingRTC
