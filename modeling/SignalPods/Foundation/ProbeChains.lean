import Mathlib.Order.Interval.Finset.Nat
import SignalPods.Foundation.LinearProbing

namespace SignalPods.Foundation

section Passing

variable {n : Nat} {K : Type*} {vacant : K} {table : Fin n → K} {h : Fin n}

/-- Slots that are passed have keys of their own, so there are no more of them than keys. -/
theorem passes_le_card {d : Nat} (inside : d ≤ n) (distinct : ∀ s t, table s = table t → table s ≠ vacant → s = t)
    (passes : ∀ e < d, table (forward h e) ≠ vacant) {keys : Finset K}
    (known : ∀ t, table t ≠ vacant → table t ∈ keys) : d ≤ keys.card := by
  have card := Finset.card_le_card_of_injOn (s := Finset.range d) (t := keys) (fun e => table (forward h e))
    (fun e member => known _ (passes e (Finset.mem_range.mp member))) ?_
  · rwa [Finset.card_range] at card
  · intro e here f there same
    have less := Finset.mem_range.mp (Finset.mem_coe.mp here)
    have more := Finset.mem_range.mp (Finset.mem_coe.mp there)
    have slot := distinct _ _ same (passes e less)
    exact forward_inj (less.trans_le inside) (more.trans_le inside) slot

end Passing

section Chains

variable {n : Nat} {K : Type*} [LinearOrder K] (vacant : K) (home : K → Fin n)

/-- Keys that were put in in their order: on the way from the home of a key to its
slot there are only keys before it. -/
structure Chained (table : Fin n → K) : Prop where
  distinct : ∀ s t, table s = table t → table s ≠ vacant → s = t
  reached : ∀ t, table t ≠ vacant → ∃ d < n, forward (home (table t)) d = t ∧
    ∀ e < d, table (forward (home (table t)) e) ≠ vacant ∧ table (forward (home (table t)) e) < table t

variable {vacant home} {table : Fin n → K} {key : K} {h : Fin n}

theorem chained_vacant : Chained vacant home fun _ => vacant :=
  ⟨fun _ _ _ proper => absurd rfl proper, fun _ proper => absurd rfl proper⟩

theorem Chained.update (chained : Chained vacant home table) (last : ∀ s, table s ≠ vacant → table s < key)
    (proper : key ≠ vacant) {d : Nat} (less : d < n) (free : table (forward (home key) d) = vacant)
    (passes : ∀ e < d, table (forward (home key) e) ≠ vacant) :
    Chained vacant home (Function.update table (forward (home key) d) key) := by
  have absent (s : Fin n) : table s ≠ key := by
    intro held
    exact lt_irrefl key (held ▸ last s (held ▸ proper))
  have still (s : Fin n) (taken : table s ≠ vacant) : Function.update table (forward (home key) d) key s = table s := by
    refine Function.update_of_ne ?_ key table
    rintro rfl
    exact taken free
  refine ⟨fun s t same proper' => ?_, fun t proper' => ?_⟩
  · by_cases sHere : s = forward (home key) d
    · by_cases tHere : t = forward (home key) d
      · rw [sHere, tHere]
      · rw [sHere, Function.update_self, Function.update_of_ne tHere] at same
        exact absurd same.symm (absent t)
    · by_cases tHere : t = forward (home key) d
      · rw [tHere, Function.update_self, Function.update_of_ne sHere] at same
        exact absurd same (absent s)
      · rw [Function.update_of_ne sHere] at same proper'
        rw [Function.update_of_ne tHere] at same
        exact chained.distinct s t same proper'
  · by_cases here : t = forward (home key) d
    · rw [here, Function.update_self]
      refine ⟨d, less, rfl, fun e before => ?_⟩
      rw [still _ (passes e before)]
      exact ⟨passes e before, last _ (passes e before)⟩
    · rw [Function.update_of_ne here] at proper' ⊢
      obtain ⟨e, inside, reaches, path⟩ := chained.reached t proper'
      refine ⟨e, inside, reaches, fun f before => ?_⟩
      rw [still _ (path f before).1]
      exact path f before

theorem Chained.congr (chained : Chained vacant home table) (other : K → Fin n)
    (same : ∀ t, table t ≠ vacant → other (table t) = home (table t)) : Chained vacant other table := by
  refine ⟨chained.distinct, fun t proper => ?_⟩
  rw [same t proper]
  exact chained.reached t proper

/-- Without its last keys a table is what it was before they were put in. -/
theorem Chained.prune (chained : Chained vacant home table) (limit : K) :
    Chained vacant home fun t => if limit < table t then vacant else table t := by
  have kept (t : Fin n) (proper : (if limit < table t then vacant else table t) ≠ vacant) :
      ¬ limit < table t ∧ (if limit < table t then vacant else table t) = table t := by
    by_cases later : limit < table t
    · exact absurd (if_pos later) proper
    · exact ⟨later, if_neg later⟩
  refine ⟨fun s t same proper => ?_, fun t proper => ?_⟩
  · obtain ⟨_, here⟩ := kept s proper
    obtain ⟨_, there⟩ := kept t (same ▸ proper)
    rw [here, there] at same
    exact chained.distinct s t same (here ▸ proper)
  · obtain ⟨within, here⟩ := kept t proper
    rw [here] at proper ⊢
    obtain ⟨d, less, reaches, path⟩ := chained.reached t proper
    refine ⟨d, less, reaches, fun e before => ?_⟩
    obtain ⟨taken, earlier⟩ := path e before
    rw [if_neg (not_lt.mpr (earlier.le.trans (not_lt.mp within)))]
    exact ⟨taken, earlier⟩

/-- Where a walk ends, and what is on it: every key whose home it starts at, and only
keys before such a key come before it. -/
theorem Chained.walks (chained : Chained vacant home table) (free : ∃ s, table s = vacant) (h : Fin n) :
    ∃ d < n, table (forward h d) = vacant ∧ (∀ e < d, table (forward h e) ≠ vacant) ∧
      (∀ t, table t ≠ vacant → home (table t) = h → table t ∈ (List.range d).map fun e => table (forward h e)) ∧
      ((List.range d).map fun e => table (forward h e)).Pairwise fun a b => home b = h → a < b := by
  obtain ⟨s, free⟩ := free
  obtain ⟨far, within, rfl⟩ := exists_forward h s
  have exists_free : ∃ d, table (forward h d) = vacant := ⟨far, free⟩
  have first := Nat.find_spec exists_free
  have earlier : ∀ e < Nat.find exists_free, table (forward h e) ≠ vacant := fun e less => Nat.find_min exists_free less
  have less : Nat.find exists_free < n := (Nat.find_min' exists_free free).trans_lt within
  generalize Nat.find exists_free = d at *
  refine ⟨d, less, first, earlier, fun t taken starts => ?_, ?_⟩
  · obtain ⟨e, _, reaches, path⟩ := chained.reached t taken
    rw [starts] at reaches path
    have before : e < d := by
      by_contra beyond
      rcases Nat.lt_or_eq_of_le (not_lt.mp beyond) with passed | here
      · exact (path d passed).1 first
      · rw [here, reaches] at first
        exact taken first
    exact List.mem_map.mpr ⟨e, List.mem_range.mpr before, congrArg table reaches⟩
  · rw [List.pairwise_map]
    refine List.pairwise_lt_range.imp_of_mem ?_
    intro e f _ there order starts
    have before := List.mem_range.mp there
    obtain ⟨g, inside, reaches, path⟩ := chained.reached _ (earlier f before)
    rw [starts] at reaches path
    have same : g = f := forward_inj inside (by omega) reaches
    rw [same] at path
    exact (path e order).2

end Chains

section Folding

variable {K V : Type*} [LinearOrder K] {P : K → Prop} [DecidablePred P]

/-- The last that is taken is the greatest, where nothing greater comes before one. -/
theorem foldl_taken (value : K → V) (start : V) {keys : List K} (ordered : keys.Pairwise fun a b => P b → a < b) :
    (∃ key ∈ keys, P key ∧ keys.foldl (fun taken key => if P key then value key else taken) start = value key ∧
        ∀ other ∈ keys, P other → other ≤ key) ∨
      (keys.foldl (fun taken key => if P key then value key else taken) start = start ∧ ∀ key ∈ keys, ¬ P key) := by
  induction keys using List.reverseRecOn with
  | nil => exact Or.inr ⟨rfl, fun _ member => absurd member List.not_mem_nil⟩
  | append_singleton keys last ih =>
    rw [List.pairwise_append] at ordered
    obtain ⟨ordered, _, across⟩ := ordered
    rw [List.foldl_append, List.foldl_cons, List.foldl_nil]
    by_cases here : P last
    · refine Or.inl ⟨last, by simp, here, if_pos here, fun other member _ => ?_⟩
      rcases List.mem_append.mp member with earlier | same
      · exact (across other earlier last (List.mem_singleton_self last) here).le
      · exact (List.mem_singleton.mp same).le
    · rw [if_neg here]
      rcases ih ordered with ⟨key, member, taken, value, greatest⟩ | ⟨value, absent⟩
      · refine Or.inl ⟨key, List.mem_append_left _ member, taken, value, fun other member' taken' => ?_⟩
        rcases List.mem_append.mp member' with earlier | same
        · exact greatest other earlier taken'
        · exact absurd (List.mem_singleton.mp same ▸ taken') here
      · refine Or.inr ⟨value, fun key member => ?_⟩
        rcases List.mem_append.mp member with earlier | same
        · exact absent key earlier
        · exact List.mem_singleton.mp same ▸ here

end Folding

end SignalPods.Foundation
