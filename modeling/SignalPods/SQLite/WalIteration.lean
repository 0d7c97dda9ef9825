import Mathlib.Data.List.TakeWhile
import SignalPods.Foundation.Positional
import SignalPods.SQLite.WalIterator

namespace SignalPods.SQLite

open Foundation

section Digests

variable {aContent : Nat → Nat} {low middle high : Nat} {aLeft aRight : List Nat}

/-- Of the indices in a range, the last of each content, sorted by content. -/
structure Digest (aContent : Nat → Nat) (low high : Nat) (aList : List Nat) : Prop where
  sorted : aList.Pairwise fun x y => aContent x < aContent y
  last : ∀ x ∈ aList, low ≤ x ∧ x < high ∧ ∀ y, x < y → y < high → aContent y ≠ aContent x
  all : ∀ y, low ≤ y → y < high → ∃ x ∈ aList, aContent x = aContent y

theorem digest_singleton (n : Nat) : Digest aContent n (n + 1) [n] where
  sorted := List.pairwise_singleton ..
  last x member := by
    obtain rfl := List.mem_singleton.mp member
    exact ⟨le_rfl, Nat.lt_succ_self x, fun y above below => absurd above (by omega)⟩
  all y above below := ⟨n, List.mem_singleton_self n, by rw [show y = n by omega]⟩

theorem skipLeft_of_lt {dbpage : Nat} (above : ∀ x ∈ aLeft, dbpage < aContent x) :
    skipLeft aContent dbpage aLeft = aLeft := by
  cases aLeft with
  | nil => rfl
  | cons iLeft aLeft =>
    rw [skipLeft, if_neg (above iLeft (List.mem_cons_self ..)).ne']

theorem walMerge_spec (sortedLeft : aLeft.Pairwise fun x y => aContent x < aContent y)
    (sortedRight : aRight.Pairwise fun x y => aContent x < aContent y) :
    ((walMerge aContent aLeft aRight).Pairwise fun x y => aContent x < aContent y) ∧
      ∀ x, x ∈ walMerge aContent aLeft aRight ↔ x ∈ aRight ∨ (x ∈ aLeft ∧ ∀ y ∈ aRight, aContent y ≠ aContent x) := by
  induction aLeft, aRight using walMerge.induct aContent with
  | case1 => simp [walMerge]
  | case2 iRight aRight ih =>
    rw [List.pairwise_cons] at sortedRight
    obtain ⟨sorted, members⟩ := ih sortedLeft sortedRight.2
    rw [walMerge, List.pairwise_cons]
    refine ⟨⟨fun x member => ?_, sorted⟩, fun x => ?_⟩
    · exact sortedRight.1 x (((members x).mp member).resolve_right (by simp))
    · rw [List.mem_cons, members]
      simp
  | case3 iLeft aLeft ih =>
    rw [List.pairwise_cons] at sortedLeft
    rw [skipLeft_of_lt sortedLeft.1] at ih
    obtain ⟨sorted, members⟩ := ih sortedLeft.2 List.Pairwise.nil
    rw [walMerge, skipLeft_of_lt sortedLeft.1, List.pairwise_cons]
    refine ⟨⟨fun x member => ?_, sorted⟩, fun x => ?_⟩
    · exact sortedLeft.1 x (((members x).mp member).resolve_left (by simp)).1
    · rw [List.mem_cons, members]
      simp
  | case4 iLeft aLeft iRight aRight less ih =>
    rw [List.pairwise_cons] at sortedLeft
    rw [skipLeft_of_lt sortedLeft.1] at ih
    obtain ⟨sorted, members⟩ := ih sortedLeft.2 sortedRight
    have beyond : ∀ y ∈ iRight :: aRight, aContent iLeft < aContent y := by
      intro y member
      rcases List.mem_cons.mp member with rfl | later
      · exact less
      · exact less.trans ((List.pairwise_cons.mp sortedRight).1 y later)
    rw [walMerge, if_pos less, skipLeft_of_lt sortedLeft.1, List.pairwise_cons]
    refine ⟨⟨fun x member => ?_, sorted⟩, fun x => ?_⟩
    · exact ((members x).mp member).elim (beyond x) fun inLeft => sortedLeft.1 x inLeft.1
    · rw [List.mem_cons, members, List.mem_cons (l := aLeft)]
      constructor
      · rintro (rfl | inRight | ⟨inLeft, alone⟩)
        · exact Or.inr ⟨Or.inl rfl, fun y member => (beyond y member).ne'⟩
        · exact Or.inl inRight
        · exact Or.inr ⟨Or.inr inLeft, alone⟩
      · rintro (inRight | ⟨rfl | inLeft, alone⟩)
        · exact Or.inr (Or.inl inRight)
        · exact Or.inl rfl
        · exact Or.inr (Or.inr ⟨inLeft, alone⟩)
  | case5 iLeft aLeft iRight aRight notLess ih =>
    rw [List.pairwise_cons] at sortedRight
    have left := List.pairwise_cons.mp sortedLeft
    rw [walMerge, if_neg notLess, List.pairwise_cons]
    by_cases same : aContent iLeft = aContent iRight
    · have skipped : skipLeft aContent (aContent iRight) (iLeft :: aLeft) = aLeft := by rw [skipLeft, if_pos same]
      rw [skipped] at ih ⊢
      obtain ⟨sorted, members⟩ := ih left.2 sortedRight.2
      refine ⟨⟨fun x member => ?_, sorted⟩, fun x => ?_⟩
      · exact ((members x).mp member).elim (sortedRight.1 x) fun inLeft => same ▸ left.1 x inLeft.1
      · rw [List.mem_cons, members, List.mem_cons (l := aRight), List.mem_cons (l := aLeft)]
        constructor
        · rintro (rfl | inRight | ⟨inLeft, alone⟩)
          · exact Or.inl (Or.inl rfl)
          · exact Or.inl (Or.inr inRight)
          · refine Or.inr ⟨Or.inr inLeft, fun y member => ?_⟩
            rcases List.mem_cons.mp member with rfl | later
            · exact (same ▸ left.1 x inLeft).ne
            · exact alone y later
        · rintro ((rfl | inRight) | ⟨rfl | inLeft, alone⟩)
          · exact Or.inl rfl
          · exact Or.inr (Or.inl inRight)
          · exact absurd same.symm (alone iRight (List.mem_cons_self ..))
          · exact Or.inr (Or.inr ⟨inLeft, fun y member => alone y (List.mem_cons_of_mem _ member)⟩)
    · have less : aContent iRight < aContent iLeft := lt_of_le_of_ne (not_lt.mp notLess) (Ne.symm same)
      have beyond : ∀ x ∈ iLeft :: aLeft, aContent iRight < aContent x := by
        intro x member
        rcases List.mem_cons.mp member with rfl | later
        · exact less
        · exact less.trans (left.1 x later)
      rw [skipLeft_of_lt beyond] at ih ⊢
      obtain ⟨sorted, members⟩ := ih sortedLeft sortedRight.2
      refine ⟨⟨fun x member => ?_, sorted⟩, fun x => ?_⟩
      · exact ((members x).mp member).elim (sortedRight.1 x) fun inLeft => beyond x inLeft.1
      · rw [List.mem_cons, members, List.mem_cons (l := aRight)]
        constructor
        · rintro (rfl | inRight | ⟨inLeft, alone⟩)
          · exact Or.inl (Or.inl rfl)
          · exact Or.inl (Or.inr inRight)
          · refine Or.inr ⟨inLeft, fun y member => ?_⟩
            rcases List.mem_cons.mp member with rfl | later
            · exact (beyond x inLeft).ne
            · exact alone y later
        · rintro ((rfl | inRight) | ⟨inLeft, alone⟩)
          · exact Or.inl rfl
          · exact Or.inr (Or.inl inRight)
          · exact Or.inr (Or.inr ⟨inLeft, fun y member => alone y (List.mem_cons_of_mem _ member)⟩)

theorem Digest.merge (left : Digest aContent low middle aLeft) (right : Digest aContent middle high aRight)
    (below : low ≤ middle) (within : middle ≤ high) : Digest aContent low high (walMerge aContent aLeft aRight) := by
  obtain ⟨sorted, members⟩ := walMerge_spec left.sorted right.sorted
  refine ⟨sorted, fun x member => ?_, fun y above less => ?_⟩
  · rcases (members x).mp member with inRight | ⟨inLeft, alone⟩
    · obtain ⟨from_middle, inside, none_after⟩ := right.last x inRight
      exact ⟨below.trans from_middle, inside, none_after⟩
    · obtain ⟨from_low, inside, none_after⟩ := left.last x inLeft
      refine ⟨from_low, inside.trans_le within, fun y later less => ?_⟩
      by_cases early : y < middle
      · exact none_after y later early
      · obtain ⟨z, inRight, same⟩ := right.all y (not_lt.mp early) less
        exact same ▸ alone z inRight
  · by_cases early : y < middle
    · obtain ⟨x, inLeft, same⟩ := left.all y above early
      by_cases shared : ∃ z ∈ aRight, aContent z = aContent x
      · obtain ⟨z, inRight, same'⟩ := shared
        exact ⟨z, (members z).mpr (Or.inl inRight), same'.trans same⟩
      · push Not at shared
        exact ⟨x, (members x).mpr (Or.inr ⟨inLeft, shared⟩), same⟩
    · obtain ⟨x, inRight, same⟩ := right.all y (not_lt.mp early) less
      exact ⟨x, (members x).mpr (Or.inl inRight), same⟩

end Digests

section Counting

variable {aContent : Nat → Nat} {aSub : Nat → List Nat} {k : Nat}

/-- The lists of the bits of a number, each of as many indices as its bit stands for. -/
def Lists (aContent : Nat → Nat) (aSub : Nat → List Nat) (k : Nat) : Prop :=
  ∀ i, k.testBit i = true → Digest aContent (k - k % 2 ^ (i + 1)) (k - k % 2 ^ i) (aSub i)

theorem carryLists_spec (lists : Lists aContent aSub k) {fuel iSub : Nat} {aMerge : List Nat}
    (small : k < 2 ^ (iSub + fuel))
    (ones : k % 2 ^ iSub + 1 = 2 ^ iSub) (digest : Digest aContent (k - k % 2 ^ iSub) (k + 1) aMerge) :
    ∃ last aLast, carryLists aContent aSub k fuel iSub aMerge = (last, aLast) ∧ k.testBit last = false ∧
      k % 2 ^ last + 1 = 2 ^ last ∧ Digest aContent (k - k % 2 ^ last) (k + 1) aLast := by
  induction fuel generalizing iSub aMerge with
  | zero => exact ⟨iSub, aMerge, rfl, Nat.testBit_lt_two_pow small, ones, digest⟩
  | succ fuel ih =>
    rw [carryLists]
    cases bit : k.testBit iSub with
    | false => exact ⟨iSub, aMerge, rfl, bit, ones, digest⟩
    | true =>
      have wider := mod_of_testBit bit
      have inside := Nat.mod_le k (2 ^ (iSub + 1))
      rw [if_pos rfl]
      refine ih (by rwa [Nat.add_right_comm, Nat.add_assoc]) ?_ ((lists iSub bit).merge digest (by omega) (by omega))
      rw [wider, Nat.pow_succ]
      omega

theorem Lists.update (lists : Lists aContent aSub k) {last : Nat} {aLast : List Nat} (zero : k.testBit last = false)
    (ones : k % 2 ^ last + 1 = 2 ^ last) (digest : Digest aContent (k - k % 2 ^ last) (k + 1) aLast) :
    Lists aContent (Function.update aSub last aLast) (k + 1) := by
  have carried := succ_mod_of_carry ones zero
  intro i bit
  rcases Nat.lt_trichotomy i last with below | rfl | above
  · rw [testBit_succ_below ones zero below] at bit
    cases bit
  · have whole : (k + 1) % 2 ^ i = 0 := by
      rw [← Nat.mod_mod_of_dvd (k + 1) (Nat.pow_dvd_pow 2 (Nat.le_succ i)), carried, Nat.mod_self]
    rw [Function.update_self, carried, whole, ← ones]
    rwa [Nat.add_sub_add_right, Nat.sub_zero]
  · rw [testBit_succ_above ones zero above] at bit
    rw [Function.update_of_ne above.ne', succ_mod_above ones zero above,
      succ_mod_above ones zero (Nat.lt_succ_of_lt above)]
    rw [Nat.add_sub_add_right, Nat.add_sub_add_right]
    exact lists i bit

/-- What is put in last has all that is not in the lists of greater bits. -/
theorem fillLists_spec (lists : Lists aContent aSub k) {nList : Nat} (small : k + nList ≤ 2 ^ 13)
    (some_lists : 0 < nList)
    (last : Nat × List Nat) :
    ∃ aSub' iSub aMerge, fillLists aContent nList k aSub last = (aSub', iSub, aMerge) ∧
      Lists aContent aSub' (k + nList) ∧
      Digest aContent (k + nList - (k + nList) % 2 ^ (iSub + 1)) (k + nList) aMerge := by
  induction nList generalizing k aSub last with
  | zero => exact absurd some_lists (lt_irrefl 0)
  | succ nList ih =>
    have less : k < 2 ^ (0 + 13) := by omega
    obtain ⟨iSub, aMerge, carried, zero, ones, digest⟩ := carryLists_spec lists less
      (by rw [Nat.pow_zero, Nat.mod_one]) (by rw [Nat.pow_zero, Nat.mod_one]; exact digest_singleton k)
    have longer := lists.update zero ones digest
    rw [fillLists, carried]
    cases nList with
    | zero =>
      refine ⟨_, iSub, aMerge, rfl, longer, ?_⟩
      rw [succ_mod_of_carry ones zero, ← ones, Nat.add_sub_add_right]
      exact digest
    | succ nList =>
      have rest := ih longer (by omega) (Nat.succ_pos nList) (iSub, aMerge)
      rwa [Nat.add_right_comm, Nat.add_assoc] at rest

theorem mergeLists_spec (lists : Lists aContent aSub k) {fuel iSub : Nat} {aMerge : List Nat}
    (digest : Digest aContent (k - k % 2 ^ iSub) k aMerge) (small : k < 2 ^ (iSub + fuel)) :
    Digest aContent 0 k (mergeLists aContent aSub k fuel iSub aMerge) := by
  induction fuel generalizing iSub aMerge with
  | zero =>
    rw [Nat.add_zero] at small
    rw [Nat.mod_eq_of_lt small, Nat.sub_self] at digest
    exact digest
  | succ fuel ih =>
    rw [mergeLists]
    refine ih ?_ (by rwa [Nat.add_right_comm, Nat.add_assoc])
    cases bit : k.testBit iSub with
    | false =>
      rw [mod_of_not_testBit bit]
      exact digest
    | true =>
      have inside := Nat.mod_le k (2 ^ (iSub + 1))
      have wider := mod_of_testBit bit
      exact (lists iSub bit).merge digest (by omega) (Nat.sub_le ..)

/-- The sort leaves the last index of each content, in the order of the contents. -/
theorem walMergesort_spec {nList : Nat} (some_lists : 0 < nList) (small : nList < 2 ^ 13) :
    Digest aContent 0 nList (walMergesort aContent nList) := by
  have none_yet : Lists aContent (fun _ => []) 0 := fun i bit => by simp at bit
  obtain ⟨aSub, iSub, aMerge, filled, lists, digest⟩ := fillLists_spec none_yet (by omega) some_lists (0, [])
  rw [Nat.zero_add] at lists digest
  rw [walMergesort, filled]
  refine mergeLists_spec lists digest (small.trans_le (Nat.pow_le_pow_right (by decide) ?_))
  omega

end Counting

section Segments

variable {apWiData : Nat → WalIndexPage} {numbers : List Nat} {mxFrame iPrior iHash : Nat} {maps : Nat → Nat}

/-- How many frames of the log are on a page of the index. -/
def entries (mxFrame iHash : Nat) : Nat := min (capacity iHash) (mxFrame - iZero iHash)

theorem Digest.congr {aContent other : Nat → Nat} {low high : Nat} {aList : List Nat}
    (digest : Digest aContent low high aList)
    (same : ∀ x, low ≤ x → x < high → other x = aContent x) : Digest other low high aList := by
  have inside (x : Nat) (member : x ∈ aList) : other x = aContent x :=
    same x (digest.last x member).1 (digest.last x member).2.1
  refine ⟨digest.sorted.imp_of_mem fun left right less => ?_, fun x member => ?_, fun y above less => ?_⟩
  · rwa [inside _ left, inside _ right]
  · obtain ⟨above, less, none_after⟩ := digest.last x member
    refine ⟨above, less, fun y later below => ?_⟩
    rw [inside x member, same y (above.trans later.le) below]
    exact none_after y later below
  · obtain ⟨x, member, equal⟩ := digest.all y above less
    exact ⟨x, member, by rw [inside x member, same y above less, equal]⟩

/-- The indices of a page that are left, after those whose pages come first. -/
def Segment (apWiData : Nat → WalIndexPage) (mxFrame iPrior iHash : Nat) (segment : WalSegment) : Prop :=
  segment.iHash = iHash ∧ ∃ passed,
    Digest (apWiData iHash).aPgno 0 (entries mxFrame iHash) (passed ++ segment.aIndex) ∧
      ∀ x ∈ passed, (apWiData iHash).aPgno x ≤ iPrior

/-- The segments from one page of the index to that of the last frame. -/
def Segments (apWiData : Nat → WalIndexPage) (mxFrame iPrior : Nat) : Nat → List WalSegment → Prop
  | iHash, [] => mxFrame ≤ iZero iHash
  | iHash, segment :: later =>
    Segment apWiData mxFrame iPrior iHash segment ∧ Segments apWiData mxFrame iPrior (iHash + 1) later

/-- The index has the frames of these pages up to one. -/
def Numbered (apWiData : Nat → WalIndexPage) (numbers : List Nat) (mxFrame : Nat) : Prop :=
  ∀ iHash idx, idx < entries mxFrame iHash → (apWiData iHash).aPgno idx = numbers.getD (iZero iHash + idx) 0

theorem Indexes.numbered (indexes : Indexes numbers apWiData) (within : mxFrame ≤ numbers.length) :
    Numbered apWiData numbers mxFrame := by
  intro iHash idx less
  rw [entries] at less
  obtain ⟨rest, filled⟩ := indexes iHash (by omega)
  rw [filled.numbers, getD_append_left (by rw [length_part]; omega), getD_part (by omega)]

theorem Segments.congr {other : Nat → WalIndexPage} {aSegment : List WalSegment}
    (segments : Segments apWiData mxFrame iPrior iHash aSegment) (before : Numbered apWiData numbers mxFrame)
    (after : Numbered other numbers mxFrame) : Segments other mxFrame iPrior iHash aSegment := by
  induction aSegment generalizing iHash with
  | nil => exact segments
  | cons segment later ih =>
    obtain ⟨⟨here, passed, digest, first⟩, rest⟩ := segments
    have same (x : Nat) (_ : 0 ≤ x) (less : x < entries mxFrame iHash) :
        (other iHash).aPgno x = (apWiData iHash).aPgno x := by rw [after iHash x less, before iHash x less]
    refine ⟨⟨here, passed, digest.congr same, fun x member => ?_⟩, ih rest⟩
    have inside := digest.last x (List.mem_append_left _ member)
    rw [same x inside.1 inside.2.1]
    exact first x member

theorem walSegments_spec (maps : Nat → Nat) (apWiData : Nat → WalIndexPage) (iPrior : Nat)
    (proper : 0 < mxFrame) {count : Nat} (top : iHash + count = walFramePage mxFrame + 1) :
    (∃ page, maps page ≠ SQLITE_OK ∧ (walSegments maps apWiData mxFrame count iHash).1 = maps page) ∨
      ((walSegments maps apWiData mxFrame count iHash).1 = SQLITE_OK ∧
        Segments apWiData mxFrame iPrior iHash (walSegments maps apWiData mxFrame count iHash).2) := by
  induction count generalizing iHash with
  | zero =>
    refine Or.inr ⟨rfl, ?_⟩
    rw [Nat.add_zero] at top
    exact top ▸ le_iZero_walFramePage_succ mxFrame
  | succ count ih =>
    rw [walSegments]
    by_cases unmapped : maps iHash ≠ SQLITE_OK
    · rw [if_pos unmapped]
      exact Or.inl ⟨iHash, unmapped, rfl⟩
    · rw [if_neg unmapped]
      have rest : iHash + 1 + count = walFramePage mxFrame + 1 := by omega
      refine (ih rest).imp_right fun ⟨ok, segments⟩ => ⟨ok, ⟨rfl, [], ?_, ?_⟩, segments⟩
      · have below := iZero_walFramePage_lt proper
        have lower : iZero iHash ≤ iZero (walFramePage mxFrame) := iZero_mono (by omega)
        have whole := iZero_add_capacity iHash
        have room := capacity_pos iHash
        have number : (if count = 0 then mxFrame - iZero iHash else capacity iHash) = entries mxFrame iHash := by
          rw [entries]
          split
          · have inside := le_iZero_walFramePage_succ mxFrame
            rw [← top, show iHash + (count + 1) = iHash + 1 by omega] at inside
            omega
          · have later : iZero (iHash + 1) ≤ iZero (walFramePage mxFrame) := iZero_mono (by omega)
            omega
        have small := capacity_le iHash
        rw [show HASHTABLE_NPAGE = 4096 from rfl] at small
        rw [List.nil_append, number]
        refine walMergesort_spec ?_ ?_
        · rw [entries]
          omega
        · rw [entries]
          omega
      · exact fun x member => absurd member List.not_mem_nil

/-- What is left of a segment after the pages up to one are passed. -/
theorem Segment.advance {segment : WalSegment} (state : Segment apWiData mxFrame iPrior iHash segment) :
    (∀ x < entries mxFrame iHash,
        (segment.aIndex.dropWhile fun idx => (apWiData iHash).aPgno idx ≤ iPrior).head? = none →
          (apWiData iHash).aPgno x ≤ iPrior) ∧
      (∀ idx, (segment.aIndex.dropWhile fun idx => (apWiData iHash).aPgno idx ≤ iPrior).head? = some idx →
        idx < entries mxFrame iHash ∧ iPrior < (apWiData iHash).aPgno idx ∧
          (∀ x < entries mxFrame iHash, (apWiData iHash).aPgno x = (apWiData iHash).aPgno idx → x ≤ idx) ∧
          ∀ x < entries mxFrame iHash, iPrior < (apWiData iHash).aPgno x →
            (apWiData iHash).aPgno idx ≤ (apWiData iHash).aPgno x) ∧
      ∀ next, iPrior ≤ next → Segment apWiData mxFrame next iHash
        { segment with aIndex := segment.aIndex.dropWhile fun idx => (apWiData iHash).aPgno idx ≤ iPrior } := by
  obtain ⟨here, passed, digest, first⟩ := state
  have whole := List.takeWhile_append_dropWhile (p := fun idx => decide ((apWiData iHash).aPgno idx ≤ iPrior))
    (l := segment.aIndex)
  have skipped : ∀ x ∈ segment.aIndex.takeWhile fun idx => decide ((apWiData iHash).aPgno idx ≤ iPrior),
      (apWiData iHash).aPgno x ≤ iPrior := by
    intro x member
    have taken := List.mem_takeWhile_imp member
    exact of_decide_eq_true taken
  generalize segment.aIndex.takeWhile (fun idx => decide ((apWiData iHash).aPgno idx ≤ iPrior)) = taken at *
  generalize dropped : segment.aIndex.dropWhile (fun idx => decide ((apWiData iHash).aPgno idx ≤ iPrior)) = left at *
  have before : ∀ x ∈ passed ++ taken, (apWiData iHash).aPgno x ≤ iPrior := fun x member =>
    (List.mem_append.mp member).elim (first x) (skipped x)
  rw [← whole, ← List.append_assoc] at digest
  refine ⟨fun x less nothing => ?_, fun idx found => ?_,
    fun next later => ⟨here, passed ++ taken, digest, fun x member => ?_⟩⟩
  · obtain ⟨y, member, same⟩ := digest.all x (Nat.zero_le x) less
    rw [List.head?_eq_none_iff.mp nothing, List.append_nil] at member
    exact same ▸ before y member
  · obtain ⟨rest, rfl⟩ := List.head?_eq_some_iff.mp found
    have member : idx ∈ passed ++ taken ++ idx :: rest := by simp
    obtain ⟨_, inside, none_after⟩ := digest.last idx member
    have beyond : iPrior < (apWiData iHash).aPgno idx := by
      have stops := List.head?_dropWhile_not (fun idx => decide ((apWiData iHash).aPgno idx ≤ iPrior)) segment.aIndex
      rw [dropped] at stops
      exact not_le.mp (of_decide_eq_false stops)
    refine ⟨inside, beyond, fun x less same => ?_, fun x less above => ?_⟩
    · by_contra later
      exact none_after x (not_le.mp later) less same
    · obtain ⟨y, inDigest, same⟩ := digest.all x (Nat.zero_le x) less
      rw [← same] at above ⊢
      rcases List.mem_append.mp inDigest with early | late
      · exact absurd (before y early) (not_le.mpr above)
      · rcases List.mem_cons.mp late with rfl | inRest
        · exact le_rfl
        · have sorted := (List.pairwise_append.mp digest.sorted).2.1
          exact ((List.pairwise_cons.mp sorted).1 y inRest).le
  · exact (before x member).trans later

/-- The smallest page after one in the frames from a page of the index on, and the last
of its frames. -/
structure Next (numbers : List Nat) (mxFrame iPrior iHash pgno f : Nat) : Prop where
  after : iPrior < pgno
  above : iZero iHash < f
  within : f ≤ mxFrame
  number : numbers.getD (f - 1) 0 = pgno
  last : ∀ g, iZero iHash < g → g ≤ mxFrame → numbers.getD (g - 1) 0 = pgno → g ≤ f
  least : ∀ g, iZero iHash < g → g ≤ mxFrame → iPrior < numbers.getD (g - 1) 0 → pgno ≤ numbers.getD (g - 1) 0

/-- What the smallest page is, or that no page is left. -/
def Outcome (numbers : List Nat) (mxFrame iPrior iHash : Nat) : Option (Nat × Nat) → Prop
  | none => ∀ f, iZero iHash < f → f ≤ mxFrame → numbers.getD (f - 1) 0 ≤ iPrior
  | some (pgno, f) => Next numbers mxFrame iPrior iHash pgno f

theorem segmentsNext_spec (numbered : Numbered apWiData numbers mxFrame) {aSegment : List WalSegment}
    (segments : Segments apWiData mxFrame iPrior iHash aSegment) :
    Outcome numbers mxFrame iPrior iHash (segmentsNext apWiData iPrior aSegment).1 ∧
      ∀ next, iPrior ≤ next → Segments apWiData mxFrame next iHash (segmentsNext apWiData iPrior aSegment).2 := by
  induction aSegment generalizing iHash with
  | nil => exact ⟨fun f above within => absurd (segments.trans_lt above) (not_lt.mpr within), fun _ _ => segments⟩
  | cons segment later ih =>
    obtain ⟨state, rest⟩ := segments
    obtain ⟨outcome, states⟩ := ih rest
    have whole := iZero_add_capacity iHash
    have here (f : Nat) (above : iZero iHash < f) (within : f ≤ mxFrame) (inside : ¬ iZero (iHash + 1) < f) :
        f - 1 - iZero iHash < entries mxFrame iHash ∧
          (apWiData iHash).aPgno (f - 1 - iZero iHash) = numbers.getD (f - 1) 0 := by
      have less : f - 1 - iZero iHash < entries mxFrame iHash := by
        rw [entries]
        omega
      refine ⟨less, (numbered iHash _ less).trans ?_⟩
      rw [show iZero iHash + (f - 1 - iZero iHash) = f - 1 by omega]
    obtain ⟨passes, stops, remains⟩ := state.advance
    obtain ⟨rfl, _⟩ := state
    rw [segmentsNext]
    generalize segmentsNext apWiData iPrior later = result at *
    obtain ⟨found, later'⟩ := result
    refine ⟨?_, fun next above => ⟨?_, states next above⟩⟩
    · dsimp only at outcome ⊢
      cases head : (segment.aIndex.dropWhile fun idx => (apWiData segment.iHash).aPgno idx ≤ iPrior).head? with
      | none =>
        have none_here (f : Nat) (above : iZero segment.iHash < f) (within : f ≤ mxFrame)
          (inside : ¬ iZero (segment.iHash + 1) < f) :
            numbers.getD (f - 1) 0 ≤ iPrior := by
          obtain ⟨less, same⟩ := here f above within inside
          exact same ▸ passes _ less head
        cases found with
        | none =>
          intro f above within
          by_cases inside : iZero (segment.iHash + 1) < f
          · exact outcome f inside within
          · exact none_here f above within inside
        | some found =>
          obtain ⟨pgno, f⟩ := found
          obtain ⟨after, above, within, number, last, least⟩ := outcome
          refine ⟨after, by omega, within, number, fun g above' within' same => ?_, fun g above' within' later => ?_⟩
          · by_cases inside : iZero (segment.iHash + 1) < g
            · exact last g inside within' same
            · exact absurd (none_here g above' within' inside) (by omega)
          · by_cases inside : iZero (segment.iHash + 1) < g
            · exact least g inside within' later
            · exact absurd (none_here g above' within' inside) (by omega)
      | some idx =>
        obtain ⟨less, beyond, last_here, least_here⟩ := stops idx head
        have bounds : iZero segment.iHash + 1 + idx ≤ mxFrame ∧
          iZero segment.iHash + 1 + idx ≤ iZero (segment.iHash + 1) := by
          rw [entries] at less
          omega
        have number : numbers.getD (iZero segment.iHash + 1 + idx - 1) 0 = (apWiData segment.iHash).aPgno idx := by
          rw [numbered segment.iHash idx less,
            show iZero segment.iHash + 1 + idx - 1 = iZero segment.iHash + idx by omega]
        have lasts (g : Nat) (above : iZero segment.iHash < g) (within : g ≤ mxFrame)
          (inside : ¬ iZero (segment.iHash + 1) < g)
            (same : numbers.getD (g - 1) 0 =
              (apWiData segment.iHash).aPgno idx) : g ≤ iZero segment.iHash + 1 + idx := by
          obtain ⟨less', same'⟩ := here g above within inside
          have before := last_here _ less' (same'.trans same)
          omega
        have leasts (g : Nat) (above : iZero segment.iHash < g) (within : g ≤ mxFrame)
          (inside : ¬ iZero (segment.iHash + 1) < g) (later : iPrior < numbers.getD (g - 1) 0) :
          (apWiData segment.iHash).aPgno idx ≤ numbers.getD (g - 1) 0 := by
          obtain ⟨less', same'⟩ := here g above within inside
          rw [← same'] at later ⊢
          exact least_here _ less' later
        cases found with
        | none =>
          refine ⟨beyond, by omega, bounds.1, number, fun g above within same => ?_, fun g above within later => ?_⟩
          · by_cases inside : iZero (segment.iHash + 1) < g
            · have early := outcome g inside within
              omega
            · exact lasts g above within inside same
          · by_cases inside : iZero (segment.iHash + 1) < g
            · exact absurd (outcome g inside within) (not_le.mpr later)
            · exact leasts g above within inside later
        | some found =>
          obtain ⟨pgno, f⟩ := found
          dsimp only
          by_cases smaller : (apWiData segment.iHash).aPgno idx < pgno
          · rw [if_pos smaller]
            refine ⟨beyond, by omega, bounds.1, number, fun g above within same => ?_, fun g above within later => ?_⟩
            · by_cases inside : iZero (segment.iHash + 1) < g
              · have greater := outcome.least g inside within (by omega)
                omega
              · exact lasts g above within inside same
            · by_cases inside : iZero (segment.iHash + 1) < g
              · exact smaller.le.trans (outcome.least g inside within later)
              · exact leasts g above within inside later
          · rw [if_neg smaller]
            have above := outcome.above
            refine ⟨outcome.after, by omega, outcome.within, outcome.number, fun g above' within same => ?_,
              fun g above' within later => ?_⟩
            · by_cases inside : iZero (segment.iHash + 1) < g
              · exact outcome.last g inside within same
              · omega
            · by_cases inside : iZero (segment.iHash + 1) < g
              · exact outcome.least g inside within later
              · exact (not_lt.mp smaller).trans (leasts g above' within inside later)
    · exact remains next above

/-- Each step of an iterator gives the next page with the last of its frames. -/
theorem walIteratorNext_spec (numbered : Numbered apWiData numbers mxFrame) {p : WalIterator}
    (segments : Segments apWiData mxFrame p.iPrior iHash p.aSegment) :
    (walIteratorNext apWiData p = none ∧ ∀ f, iZero iHash < f → f ≤ mxFrame → numbers.getD (f - 1) 0 ≤ p.iPrior) ∨
      ∃ pgno f p', walIteratorNext apWiData p = some (pgno, f, p') ∧ p'.iPrior = pgno ∧
        Next numbers mxFrame p.iPrior iHash pgno f ∧ Segments apWiData mxFrame pgno iHash p'.aSegment := by
  obtain ⟨outcome, states⟩ := segmentsNext_spec numbered segments
  rw [walIteratorNext]
  generalize segmentsNext apWiData p.iPrior p.aSegment = result at *
  obtain ⟨found, aSegment⟩ := result
  cases found with
  | none => exact Or.inl ⟨rfl, outcome⟩
  | some found => exact Or.inr ⟨found.1, found.2, _, rfl, rfl, outcome, states found.1 outcome.after.le⟩

theorem walIteratorInit_spec {granted : Bool} {maps : Nat → Nat} {nBackfill rc : Nat} {pIter : WalIterator}
    (left : nBackfill < mxFrame) (made : walIteratorInit granted maps apWiData mxFrame nBackfill = (rc, some pIter)) :
    pIter.iPrior = 0 ∧ Segments apWiData mxFrame 0 (walFramePage (nBackfill + 1)) pIter.aSegment := by
  have first : walFramePage (nBackfill + 1) ≤ walFramePage mxFrame := walFramePage_mono left
  have top : walFramePage (nBackfill + 1) + (walFramePage mxFrame + 1 - walFramePage (nBackfill + 1)) =
    walFramePage mxFrame + 1 := by
    omega
  rw [walIteratorInit] at made
  split at made
  · cases made
  · dsimp only at made
    rw [Prod.mk.injEq, Option.ite_none_right_eq_some, Option.some.injEq] at made
    obtain ⟨_, ok, rfl⟩ := made
    rcases walSegments_spec maps apWiData 0 (Nat.zero_lt_of_lt left) top with ⟨page, unmapped, refused⟩ | ⟨_, segments⟩
    · exact absurd (refused.symm.trans ok) unmapped
    · exact ⟨rfl, segments⟩

/-- A frame after a page of the index is the last of its page. -/
def LastFrame (numbers : List Nat) (mxFrame iHash pgno f : Nat) : Prop :=
  iZero iHash < f ∧ f ≤ mxFrame ∧ numbers.getD (f - 1) 0 = pgno ∧ ∀ g, f < g → g ≤ mxFrame →
    numbers.getD (g - 1) 0 ≠ pgno

/-- The frames whose pages an iterator has not passed. -/
def remaining (numbers : List Nat) (mxFrame iHash iPrior : Nat) : Finset Nat :=
  (Finset.Icc 1 mxFrame).filter fun f => iZero iHash < f ∧ iPrior < numbers.getD (f - 1) 0

theorem mem_remaining {iPrior f : Nat} :
    f ∈ remaining numbers mxFrame iHash iPrior ↔ iZero iHash < f ∧ f ≤ mxFrame ∧ iPrior < numbers.getD (f - 1) 0 := by
  rw [remaining, Finset.mem_filter, Finset.mem_Icc]
  constructor
  · rintro ⟨⟨_, within⟩, above, later⟩
    exact ⟨above, within, later⟩
  · rintro ⟨above, within, later⟩
    exact ⟨⟨Nat.zero_lt_of_lt above, within⟩, above, later⟩

theorem Next.lastFrame {iPrior pgno f : Nat} (next : Next numbers mxFrame iPrior iHash pgno f) :
    LastFrame numbers mxFrame iHash pgno f :=
  ⟨next.above, next.within, next.number, fun g later within same =>
    absurd (next.last g (next.above.trans later) within same) (not_le.mpr later)⟩

theorem Next.remaining_lt {iPrior pgno f : Nat} (next : Next numbers mxFrame iPrior iHash pgno f) :
    (remaining numbers mxFrame iHash pgno).card < (remaining numbers mxFrame iHash iPrior).card := by
  refine Finset.card_lt_card ⟨fun g member => ?_, fun subset => ?_⟩
  · obtain ⟨above, within, later⟩ := mem_remaining.mp member
    exact mem_remaining.mpr ⟨above, within, next.after.trans later⟩
  · have member := subset (mem_remaining.mpr ⟨next.above, next.within, by rw [next.number]; exact next.after⟩)
    have later := (mem_remaining.mp member).2.2
    rw [next.number] at later
    exact absurd later (lt_irrefl _)

/-- An iterator visits each page that it has not passed once, in order. -/
theorem walIterate_spec (numbered : Numbered apWiData numbers mxFrame) {p : WalIterator}
    (segments : Segments apWiData mxFrame p.iPrior iHash p.aSegment) {fuel : Nat}
    (enough : (remaining numbers mxFrame iHash p.iPrior).card ≤ fuel) :
    ((walIterate apWiData fuel p).Pairwise fun x y => x.1 < y.1) ∧ ∀ pgno f, (pgno, f) ∈ walIterate apWiData fuel p ↔
      p.iPrior < pgno ∧ LastFrame numbers mxFrame iHash pgno f := by
  induction fuel generalizing p with
  | zero =>
    refine ⟨List.Pairwise.nil, fun pgno f => iff_of_false List.not_mem_nil ?_⟩
    rintro ⟨after, above, within, rfl, _⟩
    have none_left := Finset.card_eq_zero.mp (Nat.le_zero.mp enough)
    exact absurd (none_left ▸ mem_remaining.mpr ⟨above, within, after⟩) (Finset.notMem_empty f)
  | succ fuel ih =>
    rw [walIterate]
    rcases walIteratorNext_spec numbered segments with ⟨ended, passed⟩ | ⟨pgno, f, p', found, prior, next, segments'⟩
    · rw [ended]
      refine ⟨List.Pairwise.nil, fun pgno f => iff_of_false List.not_mem_nil ?_⟩
      rintro ⟨after, above, within, rfl, _⟩
      exact absurd (passed f above within) (not_le.mpr after)
    · rw [found]
      dsimp only
      obtain ⟨sorted, members⟩ := ih (prior ▸ segments') (by
        have less := next.remaining_lt
        rw [prior]
        omega)
      rw [prior] at members
      refine ⟨List.pairwise_cons.mpr ⟨fun other member => ((members other.1 other.2).mp member).1, sorted⟩,
        fun pgno' f' => ?_⟩
      rw [List.mem_cons, Prod.mk.injEq, members]
      constructor
      · rintro (⟨rfl, rfl⟩ | ⟨after, last⟩)
        · exact ⟨next.after, next.lastFrame⟩
        · exact ⟨next.after.trans after, last⟩
      · rintro ⟨after, last⟩
        obtain ⟨above, within, same, none_after⟩ := last
        rcases Nat.lt_or_ge pgno pgno' with later | here
        · exact Or.inr ⟨later, above, within, same, none_after⟩
        · have page : pgno' = pgno := le_antisymm here (same ▸ next.least f' above within (same.symm ▸ after))
          subst page
          have frame : f' = f := by
            refine le_antisymm (next.last f' above within same) ?_
            by_contra earlier
            exact none_after f (not_le.mp earlier) next.within next.number
          exact Or.inl ⟨rfl, frame⟩

end Segments

end SignalPods.SQLite
