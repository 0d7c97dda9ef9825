import SignalPods.LibSignal.NativeHandleOwner
import SignalPods.Machine.Custody
import SignalPods.Machine.Reach
import Mathlib.Data.List.Count
import Mathlib.Data.List.Nodup

namespace SignalPods.LibSignal

open Machine

def Wrapper.handles (wrapper : Wrapper) : List Nat := wrapper.unsafeNativeHandle.toList

namespace StoreShim

/-- The handles in the hands of the shim: arguments that nobody has adopted yet
and what it has filled in. -/
def Stage.handles : Stage → List Nat
  | .idle | .calling _ _ => []
  | .adopting _ arguments _ => arguments
  | .filling _ _ _ out => out.reduceOption
  | .leaving _ _ out _ => out.reduceOption

/-- The variables of the shim, by the wrapper they refer to. -/
def Stage.vars : Stage → List Nat
  | .idle => []
  | .adopting _ _ locals => locals
  | .calling _ locals => locals
  | .filling _ pending locals _ => pending ++ locals
  | .leaving _ locals _ _ => locals

/-- The variables that are still going to be used. -/
def Stage.inUse : Stage → List Nat
  | .adopting _ _ locals => locals
  | .calling _ locals => locals
  | .filling _ pending _ _ => pending
  | _ => []

/-- All the places a handle can be in: native code, a wrapper, the shim, or
destroyed. -/
def State.places (s : State) : List Nat :=
  s.heap.native ++ s.heap.wrappers.flatMap Wrapper.handles ++ s.stage.handles ++ s.heap.destroyed

/-- What is true of a wrapper between two steps. -/
structure Sound (stage : Stage) (id : Nat) (wrapper : Wrapper) : Prop where
  counted : wrapper.shim = stage.vars.count id
  reachable : 0 < wrapper.app → wrapper.unsafeNativeHandle.isSome
  inUse : id ∈ stage.inUse → wrapper.unsafeNativeHandle.isSome
  gone : wrapper.references = 0 → wrapper.unsafeNativeHandle = none

structure Custody (s : State) : Prop where
  held : HeldOnce s.places s.heap.fresh
  sound : ∀ id wrapper, s.heap.wrappers[id]? = some wrapper → Sound s.stage id wrapper
  known : ∀ id ∈ s.stage.vars, id < s.heap.wrappers.length
  failed : ∀ shim locals out status, s.stage = .leaving shim locals out status → status ≠ 0 → out = []

theorem Stage.inUse_subset {stage : Stage} {id : Nat} (member : id ∈ stage.inUse) : id ∈ stage.vars := by
  cases stage with
  | idle => exact member
  | adopting shim arguments locals => exact member
  | calling shim locals => exact member
  | filling shim pending locals out => exact List.mem_append_left _ member
  | leaving shim locals out status => exact absurd member List.not_mem_nil

/-- Replacing one wrapper leaves what is known of the others. -/
theorem sound_set {wrappers : List Wrapper} {stage stage' : Stage} {id : Nat} {after : Wrapper}
    (sound : ∀ j wrapper, wrappers[j]? = some wrapper → Sound stage j wrapper)
    (here : id < wrappers.length → Sound stage' id after)
    (others : ∀ j wrapper, j ≠ id → Sound stage j wrapper → Sound stage' j wrapper) :
    ∀ j wrapper, (wrappers.set id after)[j]? = some wrapper → Sound stage' j wrapper := by
  intro j wrapper atPlace
  by_cases same : j = id
  · subst same
    rw [List.getElem?_set_self'] at atPlace
    cases found : wrappers[j]? with
    | none => simp [found] at atPlace
    | some old =>
      simp only [found, Option.map_eq_map, Option.map_some, Function.const_apply, Option.some.injEq] at atPlace
      rw [← atPlace]
      exact here (List.getElem?_eq_some_iff.mp found).1
  · rw [List.getElem?_set_ne (Ne.symm same)] at atPlace
    exact others j wrapper same (sound j wrapper atPlace)

/-- What `put` leaves in the heap. -/
def settled (wrapper : Wrapper) : Wrapper :=
  if wrapper.references = 0 then { wrapper with unsafeNativeHandle := none } else wrapper

theorem put_wrappers (heap : HandleHeap) (id : Nat) (wrapper : Wrapper) :
    (heap.put id wrapper).wrappers = heap.wrappers.set id (settled wrapper) := by
  unfold HandleHeap.put settled
  split <;> rfl

theorem put_native (heap : HandleHeap) (id : Nat) (wrapper : Wrapper) :
    (heap.put id wrapper).native = heap.native := by
  unfold HandleHeap.put
  split <;> rfl

theorem put_fresh (heap : HandleHeap) (id : Nat) (wrapper : Wrapper) : (heap.put id wrapper).fresh = heap.fresh := by
  unfold HandleHeap.put
  split <;> rfl

/-- A handle leaves its wrapper only to be destroyed. -/
theorem put_count {heap : HandleHeap} {id : Nat} {old wrapper : Wrapper} (found : heap.wrappers[id]? = some old)
    (same : wrapper.unsafeNativeHandle = old.unsafeNativeHandle) (handle : Nat) :
    ((heap.put id wrapper).wrappers.flatMap Wrapper.handles).count handle + (heap.put id wrapper).destroyed.count handle =
      (heap.wrappers.flatMap Wrapper.handles).count handle + heap.destroyed.count handle := by
  have changed := count_flatMap_set Wrapper.handles found (settled wrapper) handle
  rw [put_wrappers]
  unfold HandleHeap.put settled at *
  split
  · rename_i last
    rw [if_pos last] at changed
    simp only [Wrapper.handles, Option.toList_none, List.count_nil, List.count_append, same] at *
    omega
  · rename_i alive
    rw [if_neg alive] at changed
    simp only [Wrapper.handles, same] at *
    omega

/-- A wrapper changes hands: references come or go, and the last one takes the
handle with it. -/
theorem Custody.put {s : State} (custody : Custody s) {id : Nat} {old wrapper : Wrapper} {stage : Stage}
    (found : s.heap.wrappers[id]? = some old) (same : wrapper.unsafeNativeHandle = old.unsafeNativeHandle)
    (handles : stage.handles = s.stage.handles) (counted : wrapper.shim = stage.vars.count id)
    (others : ∀ j, j ≠ id → stage.vars.count j = s.stage.vars.count j)
    (inUse : stage.inUse = s.stage.inUse) (reachable : 0 < wrapper.app → wrapper.unsafeNativeHandle.isSome)
    (known : ∀ j ∈ stage.vars, j ∈ s.stage.vars)
    (failed : ∀ shim locals out status, stage = .leaving shim locals out status → status ≠ 0 → out = []) :
    Custody { s with heap := s.heap.put id wrapper, stage } := by
  constructor
  · have moved : HeldOnce ({ s with heap := s.heap.put id wrapper, stage } : State).places s.heap.fresh := by
      refine custody.held.move fun handle => ?_
      have kept := put_count found same handle
      simp only [State.places, List.count_append, put_native, handles]
      omega
    simpa only [put_fresh] using moved
  · simp only [put_wrappers]
    refine sound_set custody.sound (fun _ => ?_) ?_
    · by_cases last : wrapper.references = 0
      · have none_left : stage.vars.count id = 0 := by
          unfold Wrapper.references at last
          omega
        simp only [settled, if_pos last]
        refine ⟨counted, fun positive => ?_, fun member => ?_, fun _ => rfl⟩
        · unfold Wrapper.references at last
          have impossible : 0 < wrapper.app := positive
          omega
        · exact absurd (Stage.inUse_subset member) (List.count_eq_zero.mp none_left)
      · simp only [settled, if_neg last]
        refine ⟨counted, reachable, fun member => ?_, fun gone => absurd gone last⟩
        rw [same]
        exact (custody.sound id old found).inUse (inUse ▸ member)
    · intro j other different sound
      exact ⟨sound.counted.trans (others j different).symm, sound.reachable, fun member => sound.inUse (inUse ▸ member),
        sound.gone⟩
  · intro j member
    simp only [put_wrappers, List.length_set]
    exact custody.known j (known j member)
  · exact failed

/-- Handles move about outside the wrappers, and the shim's variables stay. -/
theorem Custody.move {s : State} (custody : Custody s) {native destroyed : List Nat} {stage : Stage}
    (count : ∀ handle, native.count handle + stage.handles.count handle + destroyed.count handle =
      s.heap.native.count handle + s.stage.handles.count handle + s.heap.destroyed.count handle)
    (vars : stage.vars.Perm s.stage.vars) (inUse : ∀ id ∈ stage.inUse, id ∈ s.stage.inUse)
    (failed : ∀ shim locals out status, stage = .leaving shim locals out status → status ≠ 0 → out = [])
    (returned : List (Int × List (Option Nat))) :
    Custody { heap := { s.heap with native, destroyed }, stage, returned } := by
  refine ⟨custody.held.move fun handle => ?_, fun id wrapper found => ?_, fun id member => ?_, failed⟩
  · have same := count handle
    simp only [State.places, List.count_append]
    omega
  · have sound := custody.sound id wrapper found
    exact ⟨sound.counted.trans (vars.count_eq id).symm, sound.reachable, fun member => sound.inUse (inUse id member),
      sound.gone⟩
  · exact custody.known id (vars.mem_iff.mp member)

/-- Native code makes a handle. -/
theorem Custody.create {s : State} (custody : Custody s) :
    Custody { s with heap := { s.heap with
      native := s.heap.native ++ [s.heap.fresh], fresh := s.heap.fresh + 1 } } := by
  refine ⟨custody.held.create fun handle => ?_, custody.sound, custody.known, custody.failed⟩
  simp only [State.places, List.count_append]
  omega

/-- A new wrapper adopts a handle. -/
theorem Custody.adopt {s : State} (custody : Custody s) {handle app shim fresh : Nat} {stage : Stage}
    (alive : app + shim ≠ 0)
    (held : HeldOnce (s.heap.native ++ (s.heap.wrappers.flatMap Wrapper.handles ++ [handle]) ++ stage.handles ++
      s.heap.destroyed) fresh)
    (vars : stage.vars = s.stage.vars ++ List.replicate shim s.heap.wrappers.length)
    (inUse : ∀ id ∈ stage.inUse, id ∈ s.stage.inUse ∨ id = s.heap.wrappers.length)
    (failed : ∀ shim locals out status, stage = .leaving shim locals out status → status ≠ 0 → out = []) :
    Custody { s with heap := { s.heap.initOwned handle app shim with fresh }, stage } := by
  refine ⟨?_, fun id wrapper found => ?_, fun id member => ?_, failed⟩
  · simpa [State.places, HandleHeap.initOwned, Wrapper.handles] using held
  · simp only [HandleHeap.initOwned] at found
    by_cases old : id < s.heap.wrappers.length
    · rw [List.getElem?_append_left old] at found
      have sound := custody.sound id wrapper found
      have other : s.heap.wrappers.length ≠ id := by omega
      refine ⟨?_, sound.reachable, fun member => ?_, sound.gone⟩
      · rw [vars, List.count_append, List.count_replicate, sound.counted]
        simp [other]
      · rcases inUse id member with before | same
        · exact sound.inUse before
        · exact absurd same (Ne.symm other)
    · rw [List.getElem?_append_right (by omega)] at found
      have here : id = s.heap.wrappers.length := by
        have bound := (List.getElem?_eq_some_iff.mp found).1
        simp only [List.length_singleton] at bound
        omega
      subst here
      simp only [Nat.sub_self, List.getElem?_cons_zero, Option.some.injEq] at found
      subst found
      have unknown : s.stage.vars.count s.heap.wrappers.length = 0 := by
        rw [List.count_eq_zero]
        intro member
        exact Nat.lt_irrefl _ (custody.known _ member)
      refine ⟨?_, fun _ => rfl, fun _ => rfl, fun gone => absurd gone alive⟩
      rw [vars, List.count_append, unknown, List.count_replicate_self, Nat.zero_add]
  · simp only [HandleHeap.initOwned, List.length_append, List.length_singleton]
    rw [vars] at member
    rcases List.mem_append.mp member with before | new
    · have bound := custody.known id before
      omega
    · rw [List.eq_of_mem_replicate new]
      omega

/-- The only variable that refers to a wrapper gives up its handle. -/
theorem Custody.take {s : State} (custody : Custody s) {shim : StoreShim} {id : Nat} {pending locals : List Nat}
    {out : List (Option Nat)} {wrapper : Wrapper} (stage : s.stage = .filling shim (id :: pending) locals out)
    (found : s.heap.wrappers[id]? = some wrapper) (only : wrapper.references = 1) :
    Custody { s with
      heap := (s.heap.takeNativeHandle id wrapper).1
      stage := .filling shim pending (id :: locals) (out ++ [wrapper.unsafeNativeHandle]) } := by
  have counted := (custody.sound id wrapper found).counted
  simp only [stage, Stage.vars, List.cons_append, List.count_cons_self, List.count_append] at counted
  unfold Wrapper.references at only
  have unshared : wrapper.app = 0 := by omega
  have moved (j : Nat) : (pending ++ id :: locals).count j = s.stage.vars.count j := by
    simp only [stage, Stage.vars, List.cons_append, List.count_append, List.count_cons]
    omega
  refine ⟨custody.held.move fun handle => ?_, ?_, fun j member => ?_, fun _ _ _ _ same => by cases same⟩
  · have changed := count_flatMap_set Wrapper.handles found { wrapper with unsafeNativeHandle := none } handle
    have given : Wrapper.handles wrapper = wrapper.unsafeNativeHandle.toList := rfl
    have left : Wrapper.handles { wrapper with unsafeNativeHandle := none } = [] := rfl
    rw [given, left, List.count_nil] at changed
    simp only [State.places, HandleHeap.takeNativeHandle, stage, Stage.handles, List.count_append,
      List.reduceOption_append, List.reduceOption_singleton]
    omega
  · refine sound_set custody.sound (fun _ => ?_) ?_
    · refine ⟨?_, fun positive => ?_, fun member => ?_, fun _ => rfl⟩
      · exact (custody.sound id wrapper found).counted.trans (moved id).symm
      · have impossible : 0 < wrapper.app := positive
        omega
      · have again : 0 < pending.count id := List.count_pos_iff.mpr member
        omega
    · intro j other different sound
      refine ⟨sound.counted.trans (moved j).symm, sound.reachable, fun member => ?_, sound.gone⟩
      refine sound.inUse ?_
      rw [stage]
      exact List.mem_cons_of_mem _ member
  · simp only [HandleHeap.takeNativeHandle, List.length_set]
    refine custody.known j ?_
    have present : 0 < (pending ++ id :: locals).count j := List.count_pos_iff.mpr member
    rw [moved] at present
    exact List.count_pos_iff.mp present

/-- A wrapper others refer to keeps its handle, and native code clones it. -/
theorem Custody.clone {s : State} (custody : Custody s) {shim : StoreShim} {id : Nat} {pending locals : List Nat}
    {out : List (Option Nat)} (stage : s.stage = .filling shim (id :: pending) locals out) :
    Custody { s with
      heap := { s.heap with fresh := s.heap.fresh + 1 }
      stage := .filling shim pending (id :: locals) (out ++ [some s.heap.fresh]) } := by
  have moved (j : Nat) : (pending ++ id :: locals).count j = s.stage.vars.count j := by
    simp only [stage, Stage.vars, List.cons_append, List.count_append, List.count_cons]
    omega
  refine ⟨custody.held.create fun handle => ?_, fun j wrapper found => ?_, fun j member => ?_,
    fun _ _ _ _ same => by cases same⟩
  · simp only [State.places, stage, Stage.handles, List.count_append, List.reduceOption_append,
      List.reduceOption_singleton, Option.toList_some]
    omega
  · have sound := custody.sound j wrapper found
    refine ⟨sound.counted.trans (moved j).symm, sound.reachable, fun member => sound.inUse ?_, sound.gone⟩
    rw [stage]
    exact List.mem_cons_of_mem _ member
  · refine custody.known j ?_
    have present : 0 < (pending ++ id :: locals).count j := List.count_pos_iff.mpr member
    rw [moved] at present
    exact List.count_pos_iff.mp present

section Answer

variable (shim : StoreShim)

/-- How many references an answer gets. -/
def answerReferences : Nat := if shim.holdsStruct then 2 else 1

theorem put_alive {heap : HandleHeap} {id : Nat} {wrapper : Wrapper} (alive : wrapper.references ≠ 0) :
    heap.put id wrapper = { heap with wrappers := heap.wrappers.set id wrapper } := if_neg alive

theorem retainAnswer_eq (heap : HandleHeap) (id : Nat) :
    ∃ wrappers : List Wrapper, retainAnswer shim heap id = { heap with wrappers } ∧
      ∀ j : Nat, wrappers[j]? = heap.wrappers[j]?.map fun wrapper =>
        ({ wrapper with shim := wrapper.shim + answerReferences shim * [id].count j } : Wrapper) := by
  unfold retainAnswer
  cases found : heap.wrappers[id]? with
  | none =>
    refine ⟨heap.wrappers, rfl, fun j => ?_⟩
    by_cases same : id = j
    · subst same
      simp [found]
    · simp [same]
  | some wrapper =>
    have alive : ({ wrapper with shim := wrapper.shim + answerReferences shim } : Wrapper).references ≠ 0 := by
      unfold Wrapper.references answerReferences
      split <;> simp
    refine ⟨_, put_alive alive, fun j => ?_⟩
    have bound := (List.getElem?_eq_some_iff.mp found).1
    by_cases same : id = j
    · subst same
      rw [List.getElem?_set_self bound, found]
      simp [answerReferences]
    · simp [same, List.getElem?_set_ne same]

/-- Answering retains, and changes nothing else. -/
theorem retainAnswers_eq (heap : HandleHeap) (ids : List Nat) :
    ∃ wrappers : List Wrapper, ids.foldl (retainAnswer shim) heap = { heap with wrappers } ∧
      ∀ j : Nat, wrappers[j]? = heap.wrappers[j]?.map fun wrapper =>
        ({ wrapper with shim := wrapper.shim + answerReferences shim * ids.count j } : Wrapper) := by
  induction ids generalizing heap with
  | nil => exact ⟨heap.wrappers, rfl, fun j => by simp⟩
  | cons id ids ih =>
    obtain ⟨first, one, atFirst⟩ := retainAnswer_eq shim heap id
    obtain ⟨wrappers, rest, atRest⟩ := ih { heap with wrappers := first }
    refine ⟨wrappers, ?_, fun j => ?_⟩
    · rw [List.foldl_cons, one, rest]
    · have split : (id :: ids).count j = [id].count j + ids.count j := by
        rw [← List.count_append, List.singleton_append]
      rw [atRest, atFirst, Option.map_map, split, Nat.mul_add]
      congr 1
      funext wrapper
      simp only [Function.comp_apply, Nat.add_assoc]

/-- The store answers with wrappers the application reaches. -/
theorem Custody.answer {s : State} (custody : Custody s) {shim : StoreShim} {locals ids : List Nat}
    (stage : s.stage = .calling shim locals)
    (reached : ∀ id ∈ ids, ∃ wrapper, s.heap.wrappers[id]? = some wrapper ∧ s.appReaches id wrapper = true) :
    Custody { s with
      heap := ids.foldl (retainAnswer shim) s.heap
      stage := .filling shim ids (locals ++ if shim.holdsStruct then ids else []) [] } := by
  obtain ⟨wrappers, answered, atPlace⟩ := retainAnswers_eq shim s.heap ids
  have counts (j : Nat) : (ids ++ (locals ++ if shim.holdsStruct then ids else [])).count j =
      s.stage.vars.count j + answerReferences shim * ids.count j := by
    by_cases struct : shim.holdsStruct = true
    · simp only [stage, Stage.vars, List.count_append, answerReferences, struct, if_true]
      omega
    · simp only [stage, Stage.vars, List.count_append, answerReferences, struct, Bool.false_eq_true, if_false,
        List.count_nil]
      omega
  have handles : wrappers.map Wrapper.unsafeNativeHandle = s.heap.wrappers.map Wrapper.unsafeNativeHandle := by
    refine List.ext_getElem? fun j => ?_
    simp [atPlace, Function.comp_def]
  have lengths : wrappers.length = s.heap.wrappers.length := by
    simpa using congrArg List.length handles
  have held_by : wrappers.flatMap Wrapper.handles = s.heap.wrappers.flatMap Wrapper.handles := by
    have both := congrArg (List.flatMap Option.toList) handles
    rw [List.flatMap_map, List.flatMap_map] at both
    exact both
  rw [answered]
  refine ⟨custody.held.move fun handle => ?_, fun j wrapper found => ?_, fun j member => ?_,
    fun _ _ _ _ same => by cases same⟩
  · simp [State.places, held_by, stage, Stage.handles]
  · simp only [atPlace, Option.map_eq_some_iff] at found
    obtain ⟨old, found, rfl⟩ := found
    have sound := custody.sound j old found
    refine ⟨?_, sound.reachable, fun member => ?_, fun gone => ?_⟩
    · exact (congrArg (· + answerReferences shim * ids.count j) sound.counted).trans (counts j).symm
    · obtain ⟨wrapper, there, reaches⟩ := reached j member
      cases Option.some.inj (found.symm.trans there)
      simp only [State.appReaches, stage, Stage.adoptedLocals, Bool.or_eq_true, decide_eq_true_eq,
        List.contains_iff_mem] at reaches
      rcases reaches with app | argument
      · exact sound.reachable (by omega)
      · exact sound.inUse (by rw [stage]; exact argument)
    · refine sound.gone ?_
      unfold Wrapper.references at gone ⊢
      simp only at gone
      omega
  · have present : 0 < (ids ++ (locals ++ if shim.holdsStruct then ids else [])).count j :=
      List.count_pos_iff.mpr member
    rw [counts] at present
    simp only [lengths]
    by_cases answer : j ∈ ids
    · obtain ⟨wrapper, there, _⟩ := reached j answer
      exact (List.getElem?_eq_some_iff.mp there).1
    · rw [List.count_eq_zero.mpr answer, Nat.mul_zero, Nat.add_zero] at present
      exact custody.known j (List.count_pos_iff.mp present)

end Answer

/-- Native code passes handles it owns. -/
theorem Custody.invoke {s s' : State} (custody : Custody s) {shim : StoreShim} {arguments : List Nat}
    (run : StoreShim.invoke s shim arguments = some s') : Custody s' := by
  unfold StoreShim.invoke at run
  split at run
  · rename_i idle
    split at run
    · rename_i passed
      cases run
      refine custody.move (fun handle => ?_) (by rw [idle]; exact .refl _) (fun id member => ?_)
        (fun _ _ _ _ same => by cases same) _
      · have once : arguments.count handle ≤ s.heap.native.count handle := by
          by_cases member : handle ∈ arguments
          · rw [List.count_eq_one_of_mem passed.2.1 member]
            exact List.count_pos_iff.mpr (passed.2.2 handle member)
          · simp [List.count_eq_zero.mpr member]
        simp only [List.count_diff, idle, Stage.handles, List.count_nil]
        omega
      · exact absurd member List.not_mem_nil
    · cases run
  · cases run

/-- The wrappers of the arguments are made one after the other. -/
theorem Custody.adoptNext {s s' : State} (custody : Custody s) (run : StoreShim.adopt s = some s') : Custody s' := by
  unfold StoreShim.adopt at run
  split at run
  · rename_i shim handle arguments locals stage
    cases run
    have held : HeldOnce (s.heap.native ++ (s.heap.wrappers.flatMap Wrapper.handles ++ [handle]) ++ arguments ++
        s.heap.destroyed) s.heap.fresh := by
      refine custody.held.move fun thing => ?_
      have split : (handle :: arguments).count thing = [handle].count thing + arguments.count thing := by
        rw [← List.count_append, List.singleton_append]
      simp only [State.places, stage, Stage.handles, List.count_append, split]
      omega
    refine custody.adopt Nat.one_ne_zero held ?_ (fun id member => ?_) (fun _ _ _ _ same => by cases same)
    · rw [stage]
      rfl
    · rw [stage]
      simpa [Stage.inUse] using member
  · rename_i shim locals stage
    cases run
    refine custody.move (fun handle => ?_) (by rw [stage]; exact .refl _) (fun id member => ?_)
      (fun _ _ _ _ same => by cases same) _
    · simp only [stage, Stage.handles]
    · rw [stage]
      exact member
  · cases run

theorem Custody.throw {s s' : State} (custody : Custody s) (run : StoreShim.storeThrows s = some s') : Custody s' := by
  unfold StoreShim.storeThrows at run
  split at run
  · rename_i shim locals stage
    cases run
    refine custody.move (fun handle => ?_) (by rw [stage]; exact .refl _) (fun id member => ?_)
      (fun _ _ _ _ same _ => by cases same; rfl) _
    · simp [stage, Stage.handles]
    · exact absurd member List.not_mem_nil
  · cases run

theorem Custody.storeReturns {s s' : State} (custody : Custody s) {wrappers : List Nat}
    (run : StoreShim.storeReturns s wrappers = some s') : Custody s' := by
  unfold StoreShim.storeReturns at run
  split at run
  · rename_i shim locals stage
    split at run
    · rename_i allowed
      cases run
      exact custody.answer stage allowed.2
    · cases run
  · cases run

theorem Custody.convert {s s' : State} (custody : Custody s) {cloneFails : Bool}
    (run : StoreShim.convert s cloneFails = some s') : Custody s' := by
  unfold StoreShim.convert at run
  split at run
  · rename_i shim locals out stage
    cases run
    refine custody.move (fun handle => ?_) (by rw [stage]; exact .refl _) (fun id member => ?_)
      (fun _ _ _ _ same failed => by cases same; exact absurd rfl failed) _
    · simp only [stage, Stage.handles]
    · exact absurd member List.not_mem_nil
  · rename_i shim id pending locals out stage
    split at run
    · cases run
    · rename_i wrapper found
      unfold HandleHeap.cloneOrTakeHandle at run
      by_cases only : wrapper.references = 1
      · rw [if_pos only] at run
        cases run
        exact custody.take stage found only
      · rw [if_neg only] at run
        cases cloneFails with
        | false =>
          cases run
          exact custody.clone stage
        | true =>
          cases run
          refine custody.move (fun handle => ?_) (by rw [stage]; exact .refl _) (fun j member => ?_)
            (fun _ _ _ _ same _ => by cases same; rfl) _
          · simp only [stage, Stage.handles, List.count_append, List.reduceOption_nil, List.count_nil]
            omega
          · exact absurd member List.not_mem_nil
  · cases run

/-- A variable of the shim ends. -/
theorem Custody.release {s s' : State} (custody : Custody s) {id : Nat}
    (run : StoreShim.releaseLocal s id = some s') : Custody s' := by
  unfold StoreShim.releaseLocal at run
  split at run
  · cases run
  · rename_i wrapper found
    have sound := custody.sound id wrapper found
    split at run
    · rename_i shim pending locals out stage
      split at run
      · rename_i member
        cases run
        have present := List.count_pos_iff.mpr member
        have counted := sound.counted
        simp only [stage, Stage.vars, List.count_append] at counted
        refine custody.put found rfl (by rw [stage]; rfl) ?_ (fun j different => ?_) (by rw [stage]; rfl) sound.reachable
          (fun j inside => ?_) (fun _ _ _ _ same => by cases same)
        · simp only [Stage.vars, List.count_append, List.count_erase_self]
          omega
        · simp only [stage, Stage.vars, List.count_append, List.count_erase_of_ne different]
        · rw [stage]
          rcases List.mem_append.mp inside with still | other
          · exact List.mem_append_left _ still
          · exact List.mem_append_right _ (List.mem_of_mem_erase other)
      · cases run
    · rename_i shim locals out status stage
      split at run
      · rename_i member
        cases run
        have present := List.count_pos_iff.mpr member
        have counted := sound.counted
        simp only [stage, Stage.vars] at counted
        refine custody.put found rfl (by rw [stage]; rfl) ?_ (fun j different => ?_) (by rw [stage]; rfl) sound.reachable
          (fun j inside => ?_) (fun _ _ _ _ same failed => ?_)
        · simp only [Stage.vars, List.count_erase_self]
          omega
        · simp only [stage, Stage.vars, List.count_erase_of_ne different]
        · rw [stage]
          exact List.mem_of_mem_erase inside
        · cases same
          exact custody.failed _ _ _ _ stage failed
      · cases run
    · cases run

theorem Custody.leave {s s' : State} (custody : Custody s) (run : StoreShim.leave s = some s') : Custody s' := by
  unfold StoreShim.leave at run
  split at run
  · rename_i shim out status stage
    cases run
    refine custody.move (fun handle => ?_) (by rw [stage]; exact .refl _) (fun id member => ?_)
      (fun _ _ _ _ same => by cases same) _
    · by_cases success : status = 0
      · simp [stage, Stage.handles, success]
      · have empty := custody.failed _ _ _ _ stage success
        simp [stage, Stage.handles, success, empty]
    · exact absurd member List.not_mem_nil
  · cases run

/-- What the application does to a wrapper it reaches. -/
theorem Custody.appActs {s s' : State} (custody : Custody s) (app : Nat → Nat) {id : Nat} {allowed : Wrapper → Bool}
    {act : HandleHeap → Nat → Wrapper → HandleHeap}
    (put : ∀ heap id wrapper, act heap id wrapper = heap.put id { wrapper with app := app wrapper.app })
    (holds : ∀ wrapper, s.heap.wrappers[id]? = some wrapper → allowed wrapper = true →
      wrapper.unsafeNativeHandle.isSome)
    (run : StoreShim.appActs s id act allowed = some s') : Custody s' := by
  unfold StoreShim.appActs at run
  split at run
  · rename_i wrapper found
    split at run
    · rename_i permitted
      cases run
      rw [put]
      exact custody.put found rfl rfl (custody.sound id wrapper found).counted (fun _ _ => rfl) rfl
        (fun _ => holds wrapper found permitted) (fun _ member => member) custody.failed
    · cases run
  · cases run

/-- What the application reaches has its handle. -/
theorem Custody.appReaches {s : State} (custody : Custody s) {id : Nat} {wrapper : Wrapper}
    (found : s.heap.wrappers[id]? = some wrapper) (reaches : s.appReaches id wrapper = true) :
    wrapper.unsafeNativeHandle.isSome := by
  have sound := custody.sound id wrapper found
  simp only [State.appReaches, Bool.or_eq_true, decide_eq_true_eq, List.contains_iff_mem] at reaches
  rcases reaches with app | argument
  · exact sound.reachable (by omega)
  · refine sound.inUse ?_
    cases stage : s.stage with
    | calling shim locals =>
      rw [stage] at argument
      exact argument
    | _ => simp [stage, Stage.adoptedLocals] at argument

/-- Every step keeps custody. -/
theorem Custody.next {s s' : State} (custody : Custody s) {event : Event} (run : StoreShim.next s event = some s') :
    Custody s' := by
  cases event with
  | nativeCreates =>
    cases run
    exact custody.create
  | nativeDestroys handle =>
    simp only [StoreShim.next] at run
    split at run
    · rename_i owned
      cases run
      have present := List.count_pos_iff.mpr owned
      refine custody.move (fun other => ?_) (.refl _) (fun _ member => member) custody.failed _
      by_cases same : other = handle
      · subst same
        simp only [List.count_erase_self, List.count_append, List.count_singleton_self]
        omega
      · simp [List.count_erase_of_ne same, Ne.symm same]
    · cases run
  | appCreates =>
    cases run
    refine custody.adopt Nat.one_ne_zero (custody.held.create fun handle => ?_) (by simp) (fun _ member => Or.inl member)
      custody.failed
    simp only [State.places, List.count_append]
    omega
  | appRetains id =>
    exact custody.appActs (· + 1) (fun _ _ _ => rfl) (fun wrapper found reaches => custody.appReaches found reaches) run
  | appReleases id =>
    refine custody.appActs (· - 1) (fun _ _ _ => rfl) (fun wrapper found holds => ?_) run
    refine (custody.sound id wrapper found).reachable ?_
    simp only [decide_eq_true_eq] at holds
    omega
  | invoke shim arguments => exact custody.invoke run
  | adopt => exact custody.adoptNext run
  | storeThrows => exact custody.throw run
  | storeReturns wrappers => exact custody.storeReturns run
  | convert cloneFails => exact custody.convert run
  | release id => exact custody.release run
  | leave => exact custody.leave run

end StoreShim

end SignalPods.LibSignal
