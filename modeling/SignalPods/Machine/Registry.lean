import Mathlib.Logic.Function.Basic

namespace SignalPods.Machine

variable {Key Owner : Type*}

/-- A registry and the keys its owners keep for themselves say the same. -/
def Agrees (registry : Key → Option Owner) (keyOf : Owner → Option Key) : Prop :=
  ∀ key owner, registry key = some owner ↔ keyOf owner = some key

variable {registry : Key → Option Owner} {keyOf : Owner → Option Key}

/-- A key belongs to exactly one owner or to nobody. -/
theorem Agrees.owner_cases (agrees : Agrees registry keyOf) (key : Key) :
    (∃ owner, registry key = some owner ∧ ∀ other, keyOf other = some key ↔ other = owner) ∨
      (registry key = none ∧ ∀ owner, keyOf owner ≠ some key) := by
  cases found : registry key with
  | none =>
    refine Or.inr ⟨rfl, fun owner held => ?_⟩
    have listed := (agrees key owner).mpr held
    rw [found] at listed
    cases listed
  | some owner =>
    refine Or.inl ⟨owner, rfl, fun other => ?_⟩
    have listed := agrees key other
    rw [found, Option.some.injEq] at listed
    exact listed.symm.trans eq_comm

variable [DecidableEq Key] [DecidableEq Owner]

/-- An owner without a key takes one that is free. -/
theorem Agrees.enter (agrees : Agrees registry keyOf) {key : Key} {owner : Owner} (free : registry key = none)
    (without : keyOf owner = none) :
    Agrees (Function.update registry key (some owner)) (Function.update keyOf owner (some key)) := by
  intro wanted other
  have before := agrees wanted other
  by_cases sameKey : wanted = key
  · subst sameKey
    by_cases sameOwner : other = owner
    · subst sameOwner
      rw [Function.update_self, Function.update_self]
      exact iff_of_true rfl rfl
    · have nobody : keyOf other ≠ some wanted := by
        rw [free] at before
        intro held
        cases before.mpr held
      rw [Function.update_self, Function.update_of_ne sameOwner, Option.some.injEq]
      exact iff_of_false (Ne.symm sameOwner) nobody
  · rw [Function.update_of_ne sameKey]
    by_cases sameOwner : other = owner
    · subst sameOwner
      rw [without] at before
      rw [Function.update_self, before, Option.some.injEq]
      exact iff_of_false (by simp) (Ne.symm sameKey)
    · rwa [Function.update_of_ne sameOwner]

/-- An owner gives its key back. -/
theorem Agrees.leave (agrees : Agrees registry keyOf) {key : Key} {owner : Owner} (held : keyOf owner = some key) :
    Agrees (Function.update registry key none) (Function.update keyOf owner none) := by
  have listed := (agrees key owner).mpr held
  intro wanted other
  have before := agrees wanted other
  by_cases sameKey : wanted = key
  · subst sameKey
    rw [Function.update_self]
    by_cases sameOwner : other = owner
    · subst sameOwner
      rw [Function.update_self]
      exact iff_of_false (by simp) (by simp)
    · rw [listed, Option.some.injEq] at before
      have nobody : keyOf other ≠ some wanted := fun found => sameOwner (before.mpr found).symm
      rw [Function.update_of_ne sameOwner]
      exact iff_of_false (by simp) nobody
  · rw [Function.update_of_ne sameKey]
    by_cases sameOwner : other = owner
    · subst sameOwner
      rw [held, Option.some.injEq] at before
      rw [Function.update_self, before]
      exact iff_of_false (Ne.symm sameKey) (by simp)
    · rwa [Function.update_of_ne sameOwner]

end SignalPods.Machine
