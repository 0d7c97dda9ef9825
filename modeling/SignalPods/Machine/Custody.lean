import Mathlib.Data.List.Basic

namespace SignalPods.Machine

/-- The things numbered below `born` are in one place each, the others in none.
`places` lists what every place holds. -/
def HeldOnce (places : List Nat) (born : Nat) : Prop :=
  ∀ thing, places.count thing = if thing < born then 1 else 0

namespace HeldOnce

variable {places places' : List Nat} {born : Nat}

theorem empty : HeldOnce [] 0 := fun _ => rfl

/-- Moving things about keeps them held once. -/
theorem move (held : HeldOnce places born) (same : ∀ thing, places'.count thing = places.count thing) :
    HeldOnce places' born :=
  fun thing => (same thing).trans (held thing)

/-- One more thing comes into being in one place. -/
theorem create (held : HeldOnce places born)
    (one : ∀ thing, places'.count thing = places.count thing + [born].count thing) :
    HeldOnce places' (born + 1) := by
  intro thing
  rw [one, held thing]
  by_cases fresh : thing = born
  · simp [fresh]
  · have absent : [born].count thing = 0 := by simp [Ne.symm fresh]
    rw [absent]
    by_cases before : thing < born
    · rw [if_pos before, if_pos (by omega)]
    · rw [if_neg before, if_neg (by omega)]

theorem count_eq_one (held : HeldOnce places born) {thing : Nat} (born_before : thing < born) :
    places.count thing = 1 := by
  rw [held thing, if_pos born_before]

end HeldOnce

/-- Changing one of several holders changes what they hold together by what
that one holds. -/
theorem count_flatMap_set {Holder Thing : Type*} [DecidableEq Thing] (holds : Holder → List Thing)
    {holders : List Holder} {i : Nat} {before : Holder} (atPlace : holders[i]? = some before) (after : Holder)
    (thing : Thing) :
    ((holders.set i after).flatMap holds).count thing + (holds before).count thing =
      (holders.flatMap holds).count thing + (holds after).count thing := by
  induction holders generalizing i with
  | nil => simp at atPlace
  | cons first holders ih =>
    cases i with
    | zero =>
      cases atPlace
      simp only [List.set_cons_zero, List.flatMap_cons, List.count_append]
      omega
    | succ i =>
      have shifted : holders[i]? = some before := by simpa using atPlace
      have rest := ih shifted
      simp only [List.set_cons_succ, List.flatMap_cons, List.count_append]
      omega

end SignalPods.Machine
