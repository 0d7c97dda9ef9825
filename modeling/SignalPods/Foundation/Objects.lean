import SignalPods.Foundation.Returns

namespace SignalPods.Foundation

/-- A method that works on the objects of a class. A reference is the position
of its object, and new objects come last. -/
abbrev Memory (Object Value : Type) := StateT (List Object) Objc Value

section Memory

variable {Object Value Result : Type}

def newObject (object : Object) : Memory Object Nat := fun heap => .ok (heap.length, heap ++ [object])

def readObject (reference : Nat) : Memory Object Object := fun heap =>
  match heap[reference]? with
  | some object => .ok (object, heap)
  | none => .error .invalidArgumentException

def modifyObject (reference : Nat) (change : Object → Object) : Memory Object Unit := fun heap =>
  .ok ((), heap.modify reference change)

def copyObject (reference : Nat) : Memory Object Nat := do newObject (← readObject reference)

/-- Started in a heap, a method does what a pure one does and leaves the old
objects as they were. -/
def Keeps (old : List Object) (x : Memory Object Value) (heap : List Object) (y : Objc Value) : Prop :=
  ∃ heap', old <+: heap' ∧ x.run heap = y.map fun value => (value, heap')

variable {old heap : List Object} {x : Memory Object Value} {y : Objc Value}

theorem Keeps.pure (kept : old <+: heap) (value : Value) : Keeps old (pure value) heap (.ok value) :=
  ⟨heap, kept, rfl⟩

theorem Keeps.raise (exception : NSException) (raises : x.run heap = .error exception) :
    Keeps old x heap (.error exception) :=
  ⟨old, List.prefix_rfl, raises⟩

/-- What works on no object leaves them all. -/
theorem Keeps.lift (kept : old <+: heap) (y : Objc Value) : Keeps old (liftM y) heap y := by
  refine ⟨heap, kept, ?_⟩
  cases y <;> rfl

theorem Keeps.bind {f : Value → Memory Object Result} {g : Value → Objc Result} (first : Keeps old x heap y)
    (rest : ∀ value heap', old <+: heap' → Keeps old (f value) heap' (g value)) :
    Keeps old (x >>= f) heap (y >>= g) := by
  obtain ⟨heap', kept, run⟩ := first
  cases y with
  | error exception =>
    refine Keeps.raise exception ?_
    rw [StateT.run_bind, run]
    rfl
  | ok value =>
    obtain ⟨heap'', kept', run'⟩ := rest value heap' kept
    refine ⟨heap'', kept', ?_⟩
    rw [StateT.run_bind, run]
    exact run'

theorem Keeps.newObject_bind {object : Object} {f : Nat → Memory Object Result} {z : Objc Result}
    (created : Keeps old (f heap.length) (heap ++ [object]) z) : Keeps old (newObject object >>= f) heap z := created

theorem Keeps.readObject_bind {reference : Nat} {object : Object} {f : Object → Memory Object Result} {z : Objc Result}
    (found : heap[reference]? = some object) (read : Keeps old (f object) heap z) :
    Keeps old (readObject reference >>= f) heap z := by
  obtain ⟨heap', kept, run⟩ := read
  refine ⟨heap', kept, ?_⟩
  rw [StateT.run_bind]
  have here : (readObject reference).run heap = .ok (object, heap) := by
    simp only [readObject, StateT.run, found]
  rw [here]
  exact run

theorem Keeps.copyObject_bind {reference : Nat} {object : Object} {f : Nat → Memory Object Result} {z : Objc Result}
    (found : heap[reference]? = some object) (copied : Keeps old (f heap.length) (heap ++ [object]) z) :
    Keeps old (copyObject reference >>= f) heap z := by
  unfold copyObject
  rw [bind_assoc]
  exact Keeps.readObject_bind found (Keeps.newObject_bind copied)

/-- Only an object that is not among the old ones may be changed. -/
theorem Keeps.modifyObject_bind {reference : Nat} {change : Object → Object} {f : Unit → Memory Object Result}
    {z : Objc Result} (changed : Keeps old (f ()) (heap.modify reference change) z) :
    Keeps old (modifyObject reference change >>= f) heap z := changed

theorem found_of_kept {reference : Nat} {object : Object} (kept : old <+: heap)
    (found : old[reference]? = some object) : heap[reference]? = some object := by
  obtain ⟨new, rfl⟩ := kept
  obtain ⟨bound, _⟩ := List.getElem?_eq_some_iff.mp found
  rw [List.getElem?_append_left bound]
  exact found

theorem prefix_modify {reference : Nat} {change : Object → Object} (kept : old <+: heap)
    (later : old.length ≤ reference) : old <+: heap.modify reference change := by
  obtain ⟨new, rfl⟩ := kept
  refine List.prefix_iff_getElem?.mpr ?_
  intro index bound
  rw [List.getElem?_modify_ne _ _ (by omega), List.getElem?_append_left bound]
  exact List.getElem?_eq_getElem bound

end Memory

end SignalPods.Foundation
