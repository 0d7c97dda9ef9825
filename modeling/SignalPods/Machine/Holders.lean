import Mathlib.Data.Finset.Card
import Mathlib.Data.Finset.Insert
import Mathlib.Logic.Function.Basic
import Mathlib.Data.Int.Basic

namespace SignalPods.Machine

variable {Holder Thing : Type*} [DecidableEq Thing]

/-- How many of the holders hold a thing. -/
def holders (thing : Holder → Thing) (held : Finset Holder) (wanted : Thing) : Nat :=
  (held.filter fun holder => thing holder = wanted).card

/-- A count that goes with the holders of each thing. -/
def Counts (thing : Holder → Thing) (held : Finset Holder) (count : Thing → Int) : Prop :=
  ∀ wanted, count wanted = holders thing held wanted

variable {thing : Holder → Thing} {held : Finset Holder} {count : Thing → Int} {holder : Holder}

theorem counts_empty (thing : Holder → Thing) : Counts thing ∅ fun _ => 0 := by
  intro wanted
  simp [holders]

theorem Counts.insert [DecidableEq Holder] (counts : Counts thing held count) (new : holder ∉ held) :
    Counts thing (insert holder held) (Function.update count (thing holder) (count (thing holder) + 1)) := by
  intro wanted
  have known := counts wanted
  rw [Function.update_apply, holders, Finset.filter_insert]
  by_cases same : thing holder = wanted
  · have absent : holder ∉ held.filter fun holder => thing holder = wanted := fun member =>
      new (Finset.mem_filter.mp member).1
    rw [if_pos same.symm, if_pos same, Finset.card_insert_of_notMem absent, same, known]
    rfl
  · rw [if_neg (Ne.symm same), if_neg same, known]
    rfl

theorem Counts.erase [DecidableEq Holder] (counts : Counts thing held count) (old : holder ∈ held) :
    Counts thing (held.erase holder) (Function.update count (thing holder) (count (thing holder) - 1)) := by
  intro wanted
  have known := counts wanted
  rw [Function.update_apply, holders, Finset.filter_erase]
  by_cases same : thing holder = wanted
  · have present : holder ∈ held.filter fun holder => thing holder = wanted := Finset.mem_filter.mpr ⟨old, same⟩
    have positive := Finset.card_pos.mpr ⟨holder, present⟩
    rw [if_pos same.symm, Finset.card_erase_of_mem present, same, known, holders]
    omega
  · have absent : holder ∉ held.filter fun holder => thing holder = wanted := fun member =>
      same (Finset.mem_filter.mp member).2
    rw [if_neg (Ne.symm same), Finset.erase_eq_of_notMem absent, known]
    rfl

theorem Counts.congr {other : Holder → Thing} (counts : Counts thing held count)
    (same : ∀ holder ∈ held, other holder = thing holder) : Counts other held count := by
  intro wanted
  have filtered : (held.filter fun holder => other holder = wanted) = held.filter fun holder => thing holder = wanted :=
    Finset.filter_congr fun holder member => by rw [same holder member]
  rw [counts wanted, holders, holders, filtered]

theorem Counts.positive (counts : Counts thing held count) (member : holder ∈ held) : 1 ≤ count (thing holder) := by
  have present : holder ∈ held.filter fun other => thing other = thing holder := Finset.mem_filter.mpr ⟨member, rfl⟩
  have positive := Finset.card_pos.mpr ⟨holder, present⟩
  rw [counts, holders]
  omega

end SignalPods.Machine
