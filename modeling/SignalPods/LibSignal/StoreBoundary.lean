import SignalPods.LibSignal.HandleCustody

namespace SignalPods.LibSignal

open Machine

namespace StoreShim

/-- A shim's variables end, and it returns. -/
def finish (locals : List Nat) : List Event := locals.map Event.release ++ [Event.leave]

def Step (s : State) (event : Event) (s' : State) : Prop := next s event = some s'

/-- What is true of the handles at every moment. -/
structure OneOwner (s : State) : Prop where
  /-- Every handle there ever was is with native code, in one wrapper, in the
  hands of the shim, or has been destroyed, and only once. -/
  once : ∀ handle < s.heap.fresh, s.places.count handle = 1
  /-- No wrapper the application can reach is left without its handle. -/
  reachable : ∀ id wrapper, s.heap.wrappers[id]? = some wrapper → s.appReaches id wrapper = true →
    wrapper.unsafeNativeHandle.isSome
  /-- A wrapper without references has given up its handle. -/
  gone : ∀ wrapper ∈ s.heap.wrappers, wrapper.references = 0 → wrapper.unsafeNativeHandle = none
  /-- A wrapper that something else refers to is not taken from. -/
  shared : ∀ shim id pending locals out wrapper cloneFails s', s.stage = .filling shim (id :: pending) locals out →
    s.heap.wrappers[id]? = some wrapper → 0 < wrapper.app ∨ id ∈ pending ++ locals →
    Step s (.convert cloneFails) s' → s'.heap.wrappers = s.heap.wrappers
  /-- When the second key cannot be cloned the first is destroyed, and native
  code sees an error and an out struct of nulls. -/
  secondFails : ∀ id locals first wrapper,
    s.stage = .filling ffiShimGetLocalIdentityKeyPair [id] locals [some first] →
    s.heap.wrappers[id]? = some wrapper → wrapper.references ≠ 1 →
    ∃ failed, Step s (.convert true) failed ∧ first ∈ failed.heap.destroyed ∧
      ∃ reported, (finish (id :: locals)).foldlM StoreShim.next failed = some reported ∧
        reported.stage = .idle ∧ reported.returned = s.returned ++ [(-1, [none, none])]
  /-- Nothing is handed out along with an error. -/
  zeroed : ∀ report ∈ s.returned, report.1 ≠ 0 → ∀ field ∈ report.2, field = none

/-- A shim that is done ends its variables and returns. -/
theorem Custody.leaves {s : State} (custody : Custody s) {shim : StoreShim} {locals : List Nat}
    {out : List (Option Nat)} {status : Int} (stage : s.stage = .leaving shim locals out status) :
    ∃ reported, (finish locals).foldlM StoreShim.next s = some reported ∧ reported.stage = .idle ∧
      reported.returned = s.returned ++ [(status, outStruct shim out)] := by
  induction locals generalizing s with
  | nil =>
    let reported : State := { s with
      heap := { s.heap with native := s.heap.native ++ if status = 0 then out.reduceOption else [] }
      stage := .idle
      returned := s.returned ++ [(status, outStruct shim out)] }
    have left : StoreShim.next s .leave = some reported := by
      simp only [StoreShim.next, StoreShim.leave, stage, reported]
    refine ⟨reported, ?_, rfl, rfl⟩
    rw [finish, List.map_nil, List.nil_append, List.foldlM_cons, left]
    rfl
  | cons id locals ih =>
    have bound := custody.known id (by simp [stage, Stage.vars])
    have found : s.heap.wrappers[id]? = some s.heap.wrappers[id] := List.getElem?_eq_getElem bound
    have released : StoreShim.next s (.release id) = some { s with
        heap := s.heap.shimReleases id s.heap.wrappers[id], stage := .leaving shim locals out status } := by
      simp [StoreShim.next, releaseLocal, found, stage]
    obtain ⟨reported, run, idle, report⟩ := ih (custody.next released) rfl
    refine ⟨reported, ?_, idle, report⟩
    rw [finish, List.map_cons, List.cons_append, List.foldlM_cons, released]
    exact run

/-- Only a wrapper with the variable as its one reference is taken from. -/
theorem Custody.shared {s s' : State} (custody : Custody s) {shim : StoreShim} {id : Nat} {pending locals : List Nat}
    {out : List (Option Nat)} {wrapper : Wrapper} {cloneFails : Bool}
    (stage : s.stage = .filling shim (id :: pending) locals out) (found : s.heap.wrappers[id]? = some wrapper)
    (other : 0 < wrapper.app ∨ id ∈ pending ++ locals) (run : Step s (.convert cloneFails) s') :
    s'.heap.wrappers = s.heap.wrappers := by
  have counted := (custody.sound id wrapper found).counted
  simp only [stage, Stage.vars, List.cons_append, List.count_cons_self] at counted
  have several : wrapper.references ≠ 1 := by
    unfold Wrapper.references
    rcases other with app | again
    · omega
    · have more := List.count_pos_iff.mpr again
      omega
  simp only [Step, StoreShim.next, StoreShim.convert, stage, found, HandleHeap.cloneOrTakeHandle, if_neg several] at run
  cases cloneFails <;> cases run <;> rfl

theorem Custody.secondFails {s : State} (custody : Custody s) {id first : Nat} {locals : List Nat} {wrapper : Wrapper}
    (stage : s.stage = .filling ffiShimGetLocalIdentityKeyPair [id] locals [some first])
    (found : s.heap.wrappers[id]? = some wrapper) (several : wrapper.references ≠ 1) :
    ∃ failed, Step s (.convert true) failed ∧ first ∈ failed.heap.destroyed ∧
      ∃ reported, (finish (id :: locals)).foldlM StoreShim.next failed = some reported ∧
        reported.stage = .idle ∧ reported.returned = s.returned ++ [(-1, [none, none])] := by
  have failing : StoreShim.next s (.convert true) = some { s with
      heap := { s.heap with destroyed := s.heap.destroyed ++ [first] }
      stage := .leaving ffiShimGetLocalIdentityKeyPair (id :: locals) [] (-1) } := by
    simp only [StoreShim.next, StoreShim.convert, stage, found, HandleHeap.cloneOrTakeHandle, if_neg several]
    rfl
  exact ⟨_, failing, by simp, (custody.next failing).leaves rfl⟩

/-- Native code is told something only when a callback returns. -/
theorem next_returned {s s' : State} {event : Event} (run : next s event = some s') :
    s'.returned = s.returned ∨ ∃ shim out status, s.stage = .leaving shim [] out status ∧
      s'.returned = s.returned ++ [(status, outStruct shim out)] := by
  cases event with
  | leave =>
    simp only [next, StoreShim.leave] at run
    split at run
    · rename_i shim out status stage
      cases run
      exact Or.inr ⟨shim, out, status, stage, rfl⟩
    · cases run
  | _ =>
    left
    grind [next, StoreShim.invoke, StoreShim.adopt, StoreShim.storeThrows, StoreShim.storeReturns,
      StoreShim.convert, StoreShim.releaseLocal, StoreShim.appActs]

theorem custody_of_reach {events : List Event} {s : State} (reach : Reach Step {} events s) :
    Custody s ∧ ∀ report ∈ s.returned, report.1 ≠ 0 → ∀ field ∈ report.2, field = none := by
  refine reach.invariant
    (fun _ s => Custody s ∧ ∀ report ∈ s.returned, report.1 ≠ 0 → ∀ field ∈ report.2, field = none) ?_ ?_
  · refine ⟨⟨.empty, fun id wrapper found => ?_, fun id member => ?_, fun _ _ _ _ same => by cases same⟩,
      fun report member => ?_⟩
    · simp at found
    · exact absurd member List.not_mem_nil
    · exact absurd member List.not_mem_nil
  · rintro events s event s' _ ⟨custody, zeroed⟩ run
    refine ⟨custody.next run, fun report member failed => ?_⟩
    rcases next_returned run with same | ⟨shim, out, status, stage, told⟩
    · rw [same] at member
      exact zeroed report member failed
    · rw [told] at member
      rcases List.mem_append.mp member with before | new
      · exact zeroed report before failed
      · rw [List.mem_singleton] at new
        subst new
        have empty := custody.failed shim [] out status stage failed
        intro field inside
        rw [empty] at inside
        exact List.eq_of_mem_replicate (by simpa [outStruct] using inside)

/-- In every run of store callbacks, with the application and native code doing
what they like in between, every handle has one owner. -/
theorem oneOwner_of_reach {events : List Event} {s : State} (reach : Reach Step {} events s) : OneOwner s := by
  obtain ⟨custody, zeroed⟩ := custody_of_reach reach
  refine
    { once := fun handle made => custody.held.count_eq_one made
      reachable := fun id wrapper found reaches => custody.appReaches found reaches
      gone := fun wrapper member => ?_
      shared := fun _ _ _ _ _ _ _ _ stage found other run => custody.shared stage found other run
      secondFails := fun _ _ _ _ stage found several => custody.secondFails stage found several
      zeroed }
  obtain ⟨id, found⟩ := List.mem_iff_getElem?.mp member
  exact (custody.sound id wrapper found).gone

/-- The application gave its private key away and keeps its public key: the first
handle is taken, and what is left is a clone that may fail. -/
def sharedPublicKey : State :=
  { heap :=
      { wrappers :=
          [{ unsafeNativeHandle := none, app := 0, shim := 1 }, { unsafeNativeHandle := some 1, app := 1, shim := 1 }]
        fresh := 2 }
    stage := .filling ffiShimGetLocalIdentityKeyPair [1] [0] [some 0] }

theorem oneOwner_sharedPublicKey : OneOwner sharedPublicKey := by
  have run : [.appCreates, .appCreates, .invoke ffiShimGetLocalIdentityKeyPair [], .adopt, .storeReturns [0, 1],
      .appReleases 0, .convert false].foldlM next {} = some sharedPublicKey := by decide
  exact oneOwner_of_reach (reach_of_foldlM run)

end StoreShim

end SignalPods.LibSignal
