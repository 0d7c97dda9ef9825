import Mathlib.Data.List.Sort

namespace SignalPods.Foundation

variable {K : Type*} [LinearOrder K]

/-- Increasing lists merged into one, with what both have once. -/
def mergeDistinct : List K → List K → List K
  | [], second => second
  | first, [] => first
  | a :: first, b :: second =>
    if a ≤ b then
      if a < b then a :: mergeDistinct first (b :: second) else mergeDistinct first (b :: second)
    else b :: mergeDistinct (a :: first) second
termination_by first second => first.length + second.length

theorem mergeDistinct_nil (first : List K) : mergeDistinct first [] = first := by
  cases first <;> simp [mergeDistinct]

theorem mem_mergeDistinct {first second : List K} {k : K} : k ∈ mergeDistinct first second ↔
    k ∈ first ∨ k ∈ second := by
  induction first, second using mergeDistinct.induct with
  | case1 second => simp [mergeDistinct]
  | case2 first => simp [mergeDistinct_nil]
  | case3 a first b second le less ih =>
    rw [mergeDistinct, if_pos le, if_pos less, List.mem_cons, ih, List.mem_cons (l := first), or_assoc]
  | case4 a first b second le less ih =>
    have same : a = b := le_antisymm le (not_lt.mp less)
    rw [mergeDistinct, if_pos le, if_neg less, ih, List.mem_cons, List.mem_cons, same]
    tauto
  | case5 a first b second greater ih =>
    rw [mergeDistinct, if_neg greater, List.mem_cons, ih, List.mem_cons, List.mem_cons]
    tauto

theorem sorted_mergeDistinct {first second : List K} (one : first.Pairwise (· < ·)) (other : second.Pairwise (· < ·)) :
    (mergeDistinct first second).Pairwise (· < ·) := by
  induction first, second using mergeDistinct.induct with
  | case1 second => rwa [mergeDistinct]
  | case2 first => rwa [mergeDistinct_nil]
  | case3 a first b second le less ih =>
    obtain ⟨below, rest⟩ := List.pairwise_cons.mp one
    rw [mergeDistinct, if_pos le, if_pos less]
    refine List.pairwise_cons.mpr ⟨fun k member => ?_, ih rest other⟩
    rcases mem_mergeDistinct.mp member with later | later
    · exact below k later
    · rcases List.mem_cons.mp later with rfl | later
      · exact less
      · exact less.trans ((List.pairwise_cons.mp other).1 k later)
  | case4 a first b second le less ih =>
    rw [mergeDistinct, if_pos le, if_neg less]
    exact ih (List.pairwise_cons.mp one).2 other
  | case5 a first b second greater ih =>
    obtain ⟨below, rest⟩ := List.pairwise_cons.mp other
    rw [mergeDistinct, if_neg greater]
    refine List.pairwise_cons.mpr ⟨fun k member => ?_, ih one rest⟩
    rcases mem_mergeDistinct.mp member with later | later
    · rcases List.mem_cons.mp later with rfl | later
      · exact not_le.mp greater
      · exact (not_le.mp greater).trans ((List.pairwise_cons.mp one).1 k later)
    · exact below k later

theorem mergeDistinct_ne_nil {first second : List K} (some : first ≠ [] ∨ second ≠ []) :
    mergeDistinct first second ≠ [] := by
  intro none
  have empty (k : K) : ¬ (k ∈ first ∨ k ∈ second) := by
    rw [← mem_mergeDistinct, none]
    exact List.not_mem_nil
  rcases some with some | some
  · obtain ⟨k, member⟩ := List.exists_mem_of_ne_nil _ some
    exact empty k (Or.inl member)
  · obtain ⟨k, member⟩ := List.exists_mem_of_ne_nil _ some
    exact empty k (Or.inr member)

inductive SearchTree (K : Type*)
  | leaf
  | node (left : SearchTree K) (key : K) (right : SearchTree K)

namespace SearchTree

/-- The keys from left to right. -/
def toList : SearchTree K → List K
  | leaf => []
  | node left key right => toList left ++ key :: toList right

def find (k : K) : SearchTree K → Bool
  | leaf => false
  | node left key right => if key < k then find k right else if k < key then find k left else true

/-- Among increasing keys one side is enough to search. -/
theorem find_iff {tree : SearchTree K} (sorted : tree.toList.Pairwise (· < ·)) {k : K} :
    tree.find k = true ↔ k ∈ tree.toList := by
  induction tree with
  | leaf => simp [find, toList]
  | node left key right ihLeft ihRight =>
    unfold toList at sorted ⊢
    obtain ⟨leftSorted, rest, before⟩ := List.pairwise_append.mp sorted
    obtain ⟨after, rightSorted⟩ := List.pairwise_cons.mp rest
    have lower (member : k ∈ left.toList) : k < key := before k member key List.mem_cons_self
    rw [find, List.mem_append, List.mem_cons]
    by_cases greater : key < k
    · rw [if_pos greater, ihRight rightSorted]
      have notLeft : k ∉ left.toList := fun member => lt_asymm greater (lower member)
      have notKey : k ≠ key := greater.ne'
      tauto
    · by_cases less : k < key
      · rw [if_neg greater, if_pos less, ihLeft leftSorted]
        have notRight : k ∉ right.toList := fun member => greater (after k member)
        have notKey : k ≠ key := less.ne
        tauto
      · have same : k = key := le_antisymm (not_lt.mp greater) (not_lt.mp less)
        rw [if_neg greater, if_neg less]
        exact iff_of_true rfl (Or.inr (Or.inl same))

end SearchTree

end SignalPods.Foundation
