import Mathlib.Logic.Function.Basic

namespace SignalPods.Foundation

variable {C K V : Type*}

/-- What a client sees: what was committed when it began, and that with its own changes. -/
structure View (K V : Type*) where
  started : K → V
  current : K → V

/-- What is committed, and what the clients see that have a transaction. -/
structure Snapshots (C K V : Type*) where
  committed : K → V
  views : C → Option (View K V)

/-- Contents with changes over them. -/
def overlay (changes : K → Option V) (contents : K → V) : K → V := fun key => (changes key).getD (contents key)

namespace Snapshots

variable [DecidableEq C]

def see (store : Snapshots C K V) (c : C) (view : Option (View K V)) : Snapshots C K V :=
  { store with views := Function.update store.views c view }

/-- A client begins with what is committed, and ends. -/
inductive Reads (store : Snapshots C K V) (c : C) : Snapshots C K V → Prop where
  | begins (closed : store.views c = none) : Reads store c (store.see c (some ⟨store.committed, store.committed⟩))
  | ends : Reads store c (store.see c none)

/-- A client changes what it sees, if nothing was committed since it began. What it sees
after a change failed or was taken back in part is not said. -/
inductive Writes (store : Snapshots C K V) (c : C) : Snapshots C K V → Prop where
  | changes {view : View K V} (sees : store.views c = some view) (latest : view.started = store.committed)
      (changes : K → Option V) : Writes store c
        (store.see c (some { view with current := overlay changes view.current }))
  | undoes {view : View K V} (sees : store.views c = some view) (latest : view.started = store.committed) :
      Writes store c (store.see c (some { view with current := view.started }))
  | wavers {view : View K V} (sees : store.views c = some view) (latest : view.started = store.committed)
    (current : K → V) :
      Writes store c (store.see c (some { view with current := current }))

/-- A client commits what it sees with its last changes, if nothing was committed since
it began. -/
inductive Commits (store : Snapshots C K V) (c : C) (changes : K → Option V) : Snapshots C K V → Prop where
  | commits {view : View K V} (sees : store.views c = some view) (latest : view.started = store.committed) :
      Commits store c changes { store.see c (some ⟨overlay changes view.current, overlay changes view.current⟩) with
        committed := overlay changes view.current }

def Step (store : Snapshots C K V) (c : C) (store' : Snapshots C K V) : Prop :=
  store' = store ∨ store.Reads c store' ∨ store.Writes c store' ∨ ∃ changes, store.Commits c changes store'

variable {store store' : Snapshots C K V} {c d : C}

theorem see_of_ne (differs : d ≠ c) (view : Option (View K V)) : (store.see c view).views d = store.views d :=
  Function.update_of_ne differs ..

theorem Reads.committed (reads : store.Reads c store') : store'.committed = store.committed := by
  cases reads <;> rfl

theorem Writes.committed (writes : store.Writes c store') : store'.committed = store.committed := by
  cases writes <;> rfl

/-- A client sees the same whatever others do. -/
theorem Step.frame (steps : store.Step c store') (differs : d ≠ c) : store'.views d = store.views d := by
  rcases steps with rfl | reads | writes | ⟨changes, commits⟩
  · rfl
  · cases reads <;> exact see_of_ne differs _
  · cases writes <;> exact see_of_ne differs _
  · cases commits
    exact see_of_ne differs _

end Snapshots

end SignalPods.Foundation
