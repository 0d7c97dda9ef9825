import Mathlib.Data.List.Basic

namespace SignalPods.Machine

variable {Error : Type*} (caught : Error → Prop) [DecidablePred caught]

/-- What comes out of nested handlers, the innermost first. A handler that
catches an error throws the one it keeps, and lets the error through when it
keeps none. -/
def unwind (handlers : List (Option Error)) (error : Error) : Error :=
  handlers.foldl (fun error kept => if caught error then kept.getD error else error) error

@[simp] theorem unwind_nil (error : Error) : unwind caught [] error = error := rfl

@[simp] theorem unwind_none (handlers : List (Option Error)) (error : Error) :
    unwind caught (none :: handlers) error = unwind caught handlers error := by
  simp [unwind]

variable {caught}

theorem unwind_append (inner outer : List (Option Error)) (error : Error) :
    unwind caught (inner ++ outer) error = unwind caught outer (unwind caught inner error) :=
  List.foldl_append

theorem unwind_some {error kept : Error} (catches : caught error) (handlers : List (Option Error)) :
    unwind caught (some kept :: handlers) error = unwind caught handlers kept := by
  simp [unwind, catches]

/-- An error no handler catches passes all of them. -/
theorem unwind_of_not_caught {error : Error} (passes : ¬ caught error) (handlers : List (Option Error)) :
    unwind caught handlers error = error := by
  induction handlers with
  | nil => rfl
  | cons kept handlers ih => simpa [unwind, passes] using ih

variable (caught) in
/-- What comes out is what went in or what some handler keeps. -/
theorem unwind_origin (handlers : List (Option Error)) (error : Error) :
    unwind caught handlers error = error ∨ some (unwind caught handlers error) ∈ handlers := by
  induction handlers generalizing error with
  | nil => exact Or.inl rfl
  | cons kept handlers ih =>
    by_cases catches : caught error
    · cases kept with
      | none =>
        rw [unwind_none]
        exact (ih error).imp_right (List.mem_cons_of_mem _)
      | some replacement =>
        rw [unwind_some catches]
        rcases ih replacement with same | inside
        · rw [same]
          exact Or.inr List.mem_cons_self
        · exact Or.inr (List.mem_cons_of_mem _ inside)
    · exact Or.inl (unwind_of_not_caught catches _)

/-- A caught error stays caught exactly when every error kept on its way out is. -/
theorem caught_unwind_iff {error : Error} (catches : caught error) (handlers : List (Option Error)) :
    caught (unwind caught handlers error) ↔ ∀ kept, some kept ∈ handlers → caught kept := by
  induction handlers generalizing error with
  | nil => simp [catches]
  | cons kept handlers ih =>
    cases kept with
    | none => simp [ih catches]
    | some replacement =>
      rw [unwind_some catches]
      by_cases again : caught replacement
      · simp [ih again, again]
      · simp [unwind_of_not_caught again, again]

/-- Handlers outside that keep another error must keep none for a caught error
to get out. -/
theorem unwind_eq_self_iff {error : Error} (catches : caught error) {handlers : List (Option Error)}
    (foreign : some error ∉ handlers) :
    unwind caught handlers error = error ↔ ∀ kept, some kept ∉ handlers := by
  constructor
  · intro same kept member
    induction handlers with
    | nil => exact List.not_mem_nil member
    | cons first handlers ih =>
      cases first with
      | none =>
        rw [unwind_none] at same
        exact ih (fun inside => foreign (List.mem_cons_of_mem _ inside)) same (by simpa using member)
      | some replacement =>
        rw [unwind_some catches] at same
        have different : error ≠ replacement := fun equal => foreign (equal ▸ List.mem_cons_self)
        rcases unwind_origin caught handlers replacement with unchanged | inside
        · exact different (same.symm.trans unchanged)
        · exact foreign (List.mem_cons_of_mem _ (same ▸ inside))
  · intro silent
    rcases unwind_origin caught handlers error with same | inside
    · exact same
    · exact absurd inside (silent _)

/-- An error that one handler alone keeps comes out exactly when the handlers
inside it keep only errors that are caught again, and it is not caught again
itself by a handler outside that keeps one. -/
theorem unwind_eq_kept_iff {error kept : Error} {inner outer : List (Option Error)} (catches : caught error)
    (notInside : some kept ∉ inner) (notOutside : some kept ∉ outer) (different : error ≠ kept) :
    unwind caught (inner ++ some kept :: outer) error = kept ↔
      (∀ other, some other ∈ inner → caught other) ∧ (caught kept → ∀ other, some other ∉ outer) := by
  rw [unwind_append, ← caught_unwind_iff catches inner]
  by_cases reaches : caught (unwind caught inner error)
  · rw [unwind_some reaches]
    by_cases again : caught kept
    · simp [reaches, again, unwind_eq_self_iff again notOutside]
    · simp [reaches, again, unwind_of_not_caught again]
  · rw [unwind_of_not_caught reaches]
    have other : unwind caught inner error ≠ kept := by
      rcases unwind_origin caught inner error with same | inside
      · rw [same]; exact different
      · intro equal
        exact notInside (equal ▸ inside)
    simp [reaches, other]

/-- The same for nested handlers numbered from the inside. -/
theorem unwind_eq_get_iff {error kept : Error} {handlers : List (Option Error)} {i : Nat} (catches : caught error)
    (here : handlers[i]? = some (some kept)) (alone : ∀ j, handlers[j]? = some (some kept) → j = i)
    (different : error ≠ kept) :
    unwind caught handlers error = kept ↔
      (∀ j other, j < i → handlers[j]? = some (some other) → caught other) ∧
        (caught kept → ∀ j other, i < j → handlers[j]? ≠ some (some other)) := by
  have inside (other : Error) : some other ∈ handlers.take i ↔ ∃ j < i, handlers[j]? = some (some other) := by
    simp only [List.mem_iff_getElem?, List.getElem?_take]
    constructor
    · rintro ⟨j, atPlace⟩
      split at atPlace
      · exact ⟨j, ‹_›, atPlace⟩
      · cases atPlace
    · rintro ⟨j, before, atPlace⟩
      exact ⟨j, by rw [if_pos before]; exact atPlace⟩
  have outside (other : Error) : some other ∈ handlers.drop (i + 1) ↔ ∃ j > i, handlers[j]? = some (some other) := by
    simp only [List.mem_iff_getElem?, List.getElem?_drop]
    constructor
    · rintro ⟨j, atPlace⟩
      exact ⟨i + 1 + j, by omega, atPlace⟩
    · rintro ⟨j, after, atPlace⟩
      refine ⟨j - (i + 1), ?_⟩
      have place : i + 1 + (j - (i + 1)) = j := by omega
      rw [place]; exact atPlace
  have split : handlers = handlers.take i ++ some kept :: handlers.drop (i + 1) := by
    obtain ⟨bound, value⟩ := List.getElem?_eq_some_iff.mp here
    rw [← value, ← List.drop_eq_getElem_cons bound, List.take_append_drop]
  have notInside : some kept ∉ handlers.take i := by
    intro member
    obtain ⟨j, before, atPlace⟩ := (inside kept).mp member
    have same := alone j atPlace
    omega
  have notOutside : some kept ∉ handlers.drop (i + 1) := by
    intro member
    obtain ⟨j, after, atPlace⟩ := (outside kept).mp member
    have same := alone j atPlace
    omega
  rw [split, unwind_eq_kept_iff catches notInside notOutside different, ← split]
  simp only [inside, outside, not_exists, not_and]
  constructor
  · rintro ⟨inner, outer⟩
    exact ⟨fun j other before atPlace => inner other ⟨j, before, atPlace⟩,
      fun again j other after => outer again other j after⟩
  · rintro ⟨inner, outer⟩
    refine ⟨?_, fun again other j after => outer again j other after⟩
    rintro other ⟨j, before, atPlace⟩
    exact inner j other before atPlace

end SignalPods.Machine
