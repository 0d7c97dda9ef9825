import Mathlib.Algebra.Ring.Nat
import Mathlib.Data.List.Sort
import SignalPods.SQLite.RowSet

namespace SignalPods.SQLite

open Foundation

namespace RowSet

section Sorting

/-- The buckets that are in use are the binary digits of how many lists were put in. -/
def Counts : List (List Int) → Nat → Prop
  | [], n => n = 0
  | bucket :: aBucket, n => (bucket = [] ↔ n % 2 = 0) ∧ Counts aBucket (n / 2)

theorem counts_replicate (length : Nat) : Counts (List.replicate length []) 0 := by
  induction length with
  | zero => rfl
  | succ length ih => exact ⟨iff_of_true rfl rfl, ih⟩

/-- There is a bucket for one more list until their number has too many digits. -/
theorem putBucket_spec {aBucket : List (List Int)} {n : Nat} {pIn : List Int} (counts : Counts aBucket n)
    (sorted : ∀ bucket ∈ aBucket, bucket.Pairwise (· < ·)) (some : pIn ≠ []) (inOrder : pIn.Pairwise (· < ·))
    (room : n + 1 < 2 ^ aBucket.length) :
    ∃ after, putBucket aBucket pIn = .some after ∧ Counts after (n + 1) ∧ after.length = aBucket.length ∧
      (∀ bucket ∈ after, bucket.Pairwise (· < ·)) ∧ ∀ v, v ∈ after.flatten ↔ v ∈ aBucket.flatten ∨ v ∈ pIn := by
  induction aBucket generalizing n pIn with
  | nil => simp at room
  | cons bucket aBucket ih =>
    obtain ⟨empty, rest⟩ := counts
    obtain ⟨bucketSorted, restSorted⟩ := List.forall_mem_cons.mp sorted
    by_cases none : bucket = []
    · have even := empty.mp none
      have half : (n + 1) / 2 = n / 2 := by omega
      refine ⟨pIn :: aBucket, if_pos none, ⟨iff_of_false some (by omega), half ▸ rest⟩, rfl,
        List.forall_mem_cons.mpr ⟨inOrder, restSorted⟩, fun v => ?_⟩
      rw [List.flatten_cons, List.flatten_cons, none, List.nil_append, List.mem_append, or_comm]
    · have odd : n % 2 = 1 := by
        have notEven := mt empty.mpr none
        omega
      have half : (n + 1) / 2 = n / 2 + 1 := by omega
      rw [List.length_cons, Nat.pow_succ] at room
      obtain ⟨after, put, counts, length, afterSorted, members⟩ := ih rest restSorted
        (mergeDistinct_ne_nil (Or.inr some))
        (sorted_mergeDistinct bucketSorted inOrder) (by omega)
      refine ⟨[] :: after, ?_, ⟨iff_of_true rfl (by omega), half ▸ counts⟩, by simp [length],
        List.forall_mem_cons.mpr ⟨.nil, afterSorted⟩, fun v => ?_⟩
      · rw [putBucket, if_neg none, rowSetEntryMerge, put]
        rfl
      · rw [List.flatten_cons, List.nil_append, members, mem_mergeDistinct, List.flatten_cons, List.mem_append]
        tauto

theorem foldlM_putBucket {aBucket : List (List Int)} {n : Nat} {pIn : List Int} (counts : Counts aBucket n)
    (sorted : ∀ bucket ∈ aBucket, bucket.Pairwise (· < ·)) (room : n + pIn.length < 2 ^ aBucket.length) :
    ∃ after, pIn.foldlM (fun aBucket v => putBucket aBucket [v]) aBucket = some after ∧
      (∀ bucket ∈ after, bucket.Pairwise (· < ·)) ∧ ∀ v, v ∈ after.flatten ↔ v ∈ aBucket.flatten ∨ v ∈ pIn := by
  induction pIn generalizing aBucket n with
  | nil => exact ⟨aBucket, rfl, sorted, fun v => by simp⟩
  | cons v pIn ih =>
    rw [List.length_cons] at room
    obtain ⟨middle, put, counts', length, middleSorted, one⟩ := putBucket_spec counts sorted (List.cons_ne_nil v [])
      (List.pairwise_singleton _ v) (by omega)
    obtain ⟨after, run, afterSorted, all⟩ := ih counts' middleSorted (by rw [length]; omega)
    refine ⟨after, ?_, afterSorted, fun w => ?_⟩
    · rw [List.foldlM_cons, put]
      exact run
    · rw [all, one, List.mem_singleton, List.mem_cons, or_assoc]

/-- The buckets are merged into one list. -/
theorem foldl_merge {aBucket : List (List Int)} {pIn : List Int} (sorted : ∀ bucket ∈ aBucket, bucket.Pairwise (· < ·))
    (inOrder : pIn.Pairwise (· < ·)) :
    (aBucket.foldl (fun pIn bucket =>
        if bucket = [] then pIn else if pIn = [] then bucket else rowSetEntryMerge pIn bucket) pIn).Pairwise (· < ·) ∧
      ∀ v, v ∈ aBucket.foldl (fun pIn bucket =>
        if bucket = [] then pIn else if pIn = [] then bucket else rowSetEntryMerge pIn bucket) pIn ↔
        v ∈ pIn ∨ v ∈ aBucket.flatten := by
  induction aBucket generalizing pIn with
  | nil => exact ⟨inOrder, fun v => by simp⟩
  | cons bucket aBucket ih =>
    obtain ⟨bucketSorted, restSorted⟩ := List.forall_mem_cons.mp sorted
    have merged : (if bucket = [] then pIn else if pIn = [] then bucket else rowSetEntryMerge pIn bucket) =
        mergeDistinct pIn bucket := by
      by_cases none : bucket = []
      · rw [if_pos none, none, mergeDistinct_nil]
      · rw [if_neg none]
        by_cases first : pIn = []
        · rw [if_pos first, first, mergeDistinct]
        · rw [if_neg first, rowSetEntryMerge]
    obtain ⟨order, members⟩ := ih restSorted (sorted_mergeDistinct inOrder bucketSorted)
    rw [List.foldl_cons, merged]
    refine ⟨order, fun v => ?_⟩
    rw [members, mem_mergeDistinct, List.flatten_cons, List.mem_append, or_assoc]

/-- What is sorted is in order, each row id once. -/
theorem rowSetEntrySort_spec {pIn : List Int} (room : pIn.length < 2 ^ 40) :
    ∃ list, rowSetEntrySort pIn = some list ∧ list.Pairwise (· < ·) ∧ ∀ v, v ∈ list ↔ v ∈ pIn := by
  have empty : ∀ bucket ∈ List.replicate 40 ([] : List Int), bucket.Pairwise (· < ·) := by
    intro bucket member
    rw [List.eq_of_mem_replicate member]
    exact .nil
  have enough : 0 + pIn.length < 2 ^ (List.replicate 40 ([] : List Int)).length := by
    rw [Nat.zero_add]
    exact room
  obtain ⟨after, run, sorted, members⟩ := foldlM_putBucket (counts_replicate 40) empty enough
  obtain ⟨order, all⟩ := foldl_merge sorted List.Pairwise.nil
  refine ⟨_, ?_, order, fun v => ?_⟩
  · rw [rowSetEntrySort, run]
    rfl
  · rw [all, members]
    simp

end Sorting

section Trees

theorem toList_growTree (iDepth : Nat) (pLeft : SearchTree Int) (list : List Int) :
    (growTree iDepth pLeft list).toList = pLeft.toList ++ list := by
  induction iDepth, pLeft, list using growTree.induct with
  | case1 iDepth pLeft => simp [growTree]
  | case2 iDepth pLeft v list shorter ih =>
    rw [growTree, ih, SearchTree.toList, List.append_assoc, List.cons_append, toList_rowSetNDeepTree]

/-- A tree made of a list has its row ids in order. -/
theorem toList_rowSetListToTree (list : List Int) : (rowSetListToTree list).toList = list := by
  cases list with
  | nil => rfl
  | cons v list => exact toList_growTree 1 _ list

/-- What is put into the forest is in one of its trees or left over. -/
theorem intoForest_spec {trees : List (SearchTree Int)} {p : List Int}
    (sorted : ∀ pTree ∈ trees, pTree.toList.Pairwise (· < ·)) (inOrder : p.Pairwise (· < ·)) :
    (∀ pTree ∈ (intoForest trees p).1, pTree.toList.Pairwise (· < ·)) ∧ (intoForest trees p).2.Pairwise (· < ·) ∧
      ∀ v, (∃ pTree ∈ (intoForest trees p).1, v ∈ pTree.toList) ∨ v ∈ (intoForest trees p).2 ↔
        (∃ pTree ∈ trees, v ∈ pTree.toList) ∨ v ∈ p := by
  induction trees generalizing p with
  | nil => exact ⟨sorted, inOrder, fun v => Iff.rfl⟩
  | cons pTree trees ih =>
    obtain ⟨treeSorted, restSorted⟩ := List.forall_mem_cons.mp sorted
    cases pTree with
    | leaf =>
      refine ⟨List.forall_mem_cons.mpr ⟨?_, restSorted⟩, .nil, fun v => ?_⟩
      · rw [toList_rowSetListToTree]
        exact inOrder
      · simp [intoForest, toList_rowSetListToTree, SearchTree.toList, or_comm]
    | node left key right =>
      obtain ⟨order, rest, members⟩ := ih restSorted (sorted_mergeDistinct treeSorted inOrder)
      refine ⟨List.forall_mem_cons.mpr ⟨.nil, order⟩, rest, fun v => ?_⟩
      have step := members v
      rw [mem_mergeDistinct] at step
      have emptied : v ∉ (SearchTree.leaf : SearchTree Int).toList := List.not_mem_nil
      have merged : intoForest (.node left key right :: trees) p =
          (.leaf :: (intoForest trees (mergeDistinct (SearchTree.node left key right).toList p)).1,
            (intoForest trees (mergeDistinct (SearchTree.node left key right).toList p)).2) := rfl
      rw [merged, List.exists_mem_cons_iff, or_iff_right emptied, step, List.exists_mem_cons_iff, or_left_comm,
        or_assoc]

end Trees

/-- An entry is taken from a chunk, or from a new one if there is one to be had. -/
theorem rowSetEntryAlloc_cases (memory : Memory) (p : RowSet) :
    ∃ granted after pChunk nFresh,
      rowSetEntryAlloc memory p = (granted, after, { p with pChunk := pChunk, nFresh := nFresh }) ∧
      after.live + p.pChunk = memory.live + pChunk ∧ (granted = false → after.mallocFailed = true ∧ pChunk = p.pChunk) ∧
      (after.mallocFailed = false → memory.mallocFailed = false) := by
  by_cases empty : p.nFresh = 0
  · cases failed : memory.mallocFailed with
    | true =>
      -- the connection was refused a block before
      refine ⟨false, memory, p.pChunk, p.nFresh, ?_, rfl, fun _ => ⟨failed, rfl⟩, fun fine => ?_⟩
      · rw [rowSetEntryAlloc, if_pos empty]
        simp [Memory.sqlite3DbMallocRawNN, failed]
      · rw [failed] at fine
        cases fine
    | false =>
      cases granted : memory.grants memory.asked with
      | false =>
        refine ⟨false, { memory with asked := memory.asked + 1, mallocFailed := true }, p.pChunk, p.nFresh, ?_, rfl,
          fun _ => ⟨rfl, rfl⟩, fun fine => absurd fine.symm Bool.false_ne_true⟩
        rw [rowSetEntryAlloc, if_pos empty]
        simp [Memory.sqlite3DbMallocRawNN, Memory.allocate, Memory.request, failed, granted]
      | true =>
        refine ⟨true, { memory with asked := memory.asked + 1, live := memory.live + 1 }, p.pChunk + 1,
          ROWSET_ENTRY_PER_CHUNK - 1, ?_, ?_, fun refused => absurd refused.symm Bool.false_ne_true, fun _ => rfl⟩
        · simp [rowSetEntryAlloc, empty, Memory.sqlite3DbMallocRawNN, Memory.allocate, Memory.request, failed, granted]
        · dsimp only
          omega
  · exact ⟨true, memory, p.pChunk, p.nFresh - 1, if_neg empty, rfl,
      fun refused => absurd refused.symm Bool.false_ne_true, id⟩

section Batches

/-- What a row set is for: tests see what was inserted before the batch number last changed. -/
structure Batches where
  visible : Set Int := ∅
  pending : Set Int := ∅
  batch : Int := 0

def Batches.insert (batches : Batches) (rowid : Int) : Batches :=
  { batches with pending := Insert.insert rowid batches.pending }

open Classical in
noncomputable def Batches.begin (batches : Batches) (iBatch : Int) : Batches :=
  if iBatch = batches.batch then batches
  else { visible := batches.visible ∪ batches.pending, pending := ∅, batch := iBatch }

inductive Use
  | insert (rowid : Int)
  | test (iBatch iRowid : Int)

def Use.perform : Memory × RowSet → Use → Option (Memory × RowSet)
  | (memory, p), insert rowid => some (sqlite3RowSetInsert memory p rowid)
  | (memory, p), test iBatch iRowid => (sqlite3RowSetTest memory p iBatch iRowid).map Prod.snd

noncomputable def Use.inBatches (batches : Batches) : Use → Batches
  | insert rowid => batches.insert rowid
  | test iBatch _ => batches.begin iBatch

/-- The trees hold what is visible and the list what is pending, unless the
connection was refused memory; so many blocks are allocated for them. -/
structure Follows (blocks : Nat) (batches : Batches) (memory : Memory) (p : RowSet) : Prop where
  batch : p.iBatch = batches.batch
  pending : ∀ v ∈ p.pEntry, v ∈ batches.pending
  allPending : memory.mallocFailed = false → ∀ v ∈ batches.pending, v ∈ p.pEntry
  inOrder : p.sorted = true → p.pEntry.Pairwise (· < ·)
  trees : ∀ pTree ∈ p.pForest, pTree.toList.Pairwise (· < ·)
  visible : ∀ v, (∃ pTree ∈ p.pForest, v ∈ pTree.toList) → v ∈ batches.visible
  allVisible : memory.mallocFailed = false → ∀ v ∈ batches.visible, ∃ pTree ∈ p.pForest, v ∈ pTree.toList
  live : memory.live = blocks + p.pChunk

variable {blocks : Nat} {batches : Batches} {memory : Memory} {p : RowSet}

theorem sortedEntries_spec (inOrder : p.sorted = true → p.pEntry.Pairwise (· < ·)) (room : p.pEntry.length < 2 ^ 40) :
    ∃ list, p.sortedEntries = some list ∧ list.Pairwise (· < ·) ∧ ∀ v, v ∈ list ↔ v ∈ p.pEntry := by
  unfold sortedEntries
  by_cases sorted : p.sorted = true
  · rw [if_pos sorted]
    exact ⟨p.pEntry, rfl, inOrder sorted, fun v => Iff.rfl⟩
  · rw [if_neg sorted]
    exact rowSetEntrySort_spec room

/-- A row id put after the last one is in order if the flag is kept. -/
theorem inOrder_append {list : List Int} (rowid : Int) (inOrder : list.Pairwise (· < ·))
    (last : (list.getLast?.all fun last => decide (last < rowid)) = true) : (list ++ [rowid]).Pairwise (· < ·) := by
  rcases List.eq_nil_or_concat list with rfl | ⟨front, v, rfl⟩
  · exact List.pairwise_singleton _ _
  · rw [List.concat_eq_append] at inOrder last ⊢
    have less : v < rowid := by simpa using last
    rw [List.pairwise_append] at inOrder ⊢
    refine ⟨List.pairwise_append.mpr inOrder, List.pairwise_singleton _ _, fun w member x here => ?_⟩
    rw [List.mem_singleton.mp here]
    rcases List.mem_append.mp member with before | here
    · exact (inOrder.2.2 w before v (List.mem_singleton_self v)).trans less
    · rw [List.mem_singleton.mp here]
      exact less

theorem Follows.insert (follows : Follows blocks batches memory p) (rowid : Int) :
    Follows blocks (batches.insert rowid) (sqlite3RowSetInsert memory p rowid).1
      (sqlite3RowSetInsert memory p rowid).2 ∧
      (sqlite3RowSetInsert memory p rowid).2.pEntry.length ≤ p.pEntry.length + 1 := by
  obtain ⟨granted, after, pChunk, nFresh, alloc, counted, refused, earlier⟩ := rowSetEntryAlloc_cases memory p
  obtain ⟨batch, pending, allPending, inOrder, trees, visible, allVisible, live⟩ := follows
  unfold sqlite3RowSetInsert
  rw [alloc]
  cases granted with
  | false =>
    obtain ⟨failed, _⟩ := refused rfl
    refine ⟨⟨batch, fun v member => Or.inr (pending v member), fun ok => absurd (failed.symm.trans ok) (by decide),
      inOrder,
      trees, visible, fun ok => absurd (failed.symm.trans ok) (by decide), ?_⟩, Nat.le_succ _⟩
    show after.live = blocks + pChunk
    omega
  | true =>
    refine ⟨⟨batch, fun v member => ?_, fun ok v member => ?_, fun sorted => ?_, trees, visible,
      fun ok => allVisible (earlier ok), ?_⟩, by simp⟩
    · rcases List.mem_append.mp member with before | here
      · exact Or.inr (pending v before)
      · exact Or.inl (List.mem_singleton.mp here)
    · rcases member with here | before
      · exact List.mem_append_right _ (List.mem_singleton.mpr here)
      · exact List.mem_append_left _ (allPending (earlier ok) v before)
    · rw [Bool.and_eq_true] at sorted
      exact inOrder_append rowid (inOrder sorted.1) sorted.2
    · show after.live = blocks + pChunk
      omega

theorem addTree_spec (memory : Memory) {list : List Int} (trees : ∀ pTree ∈ p.pForest, pTree.toList.Pairwise (· < ·))
    (inOrder : list.Pairwise (· < ·)) :
    ∃ after pForest pChunk nFresh, addTree memory p list =
        (after, { p with pForest := pForest, pChunk := pChunk, nFresh := nFresh }) ∧
      (∀ pTree ∈ pForest, pTree.toList.Pairwise (· < ·)) ∧
      (∀ v, (∃ pTree ∈ pForest, v ∈ pTree.toList) → (∃ pTree ∈ p.pForest, v ∈ pTree.toList) ∨ v ∈ list) ∧
      (after.mallocFailed = false → memory.mallocFailed = false ∧
        ∀ v, (∃ pTree ∈ p.pForest, v ∈ pTree.toList) ∨ v ∈ list → ∃ pTree ∈ pForest, v ∈ pTree.toList) ∧
      after.live + p.pChunk = memory.live + pChunk := by
  unfold addTree
  by_cases none : list = []
  · rw [if_pos none, none]
    refine ⟨memory, p.pForest, p.pChunk, p.nFresh, rfl, trees, fun v => Or.inl, fun ok => ⟨ok, fun v found => ?_⟩, rfl⟩
    exact found.resolve_right List.not_mem_nil
  · obtain ⟨granted, after, pChunk, nFresh, alloc, counted, refused, earlier⟩ := rowSetEntryAlloc_cases memory p
    rw [if_neg none, alloc]
    cases granted with
    | false =>
      obtain ⟨failed, _⟩ := refused rfl
      exact ⟨after, p.pForest, pChunk, nFresh, rfl, trees, fun v => Or.inl,
        fun ok => absurd (failed.symm.trans ok) (by decide), counted⟩
    | true =>
      have last (v : Int) : (∃ pTree ∈ p.pForest ++ [rowSetListToTree list], v ∈ pTree.toList) ↔
          (∃ pTree ∈ p.pForest, v ∈ pTree.toList) ∨ v ∈ list := by
        simp [or_and_right, exists_or, toList_rowSetListToTree]
      refine ⟨after, p.pForest ++ [rowSetListToTree list], pChunk, nFresh, rfl, fun pTree member => ?_,
        fun v => (last v).mp,
        fun ok => ⟨earlier ok, fun v => (last v).mpr⟩, counted⟩
      rcases List.mem_append.mp member with before | here
      · exact trees pTree before
      · rw [List.mem_singleton.mp here, toList_rowSetListToTree]
        exact inOrder

theorem Follows.begin (follows : Follows blocks batches memory p) (room : p.pEntry.length < 2 ^ 40) (iBatch : Int) :
    ∃ after q, startBatch memory p iBatch = some (after, q) ∧ Follows blocks (batches.begin iBatch) after q ∧
      q.pEntry.length ≤ p.pEntry.length := by
  obtain ⟨batch, pending, allPending, inOrder, trees, visible, allVisible, live⟩ := id follows
  unfold startBatch Batches.begin
  rw [← batch]
  by_cases same : iBatch = p.iBatch
  · rw [if_pos same, if_pos same]
    exact ⟨memory, p, rfl, follows, Nat.le_refl _⟩
  rw [if_neg same, if_neg same]
  by_cases none : p.pEntry = []
  · rw [if_pos none]
    refine ⟨memory, { p with iBatch := iBatch }, rfl,
      ⟨rfl, fun v member => ?_, fun _ v member => member.elim, inOrder, trees,
      fun v found => Or.inl (visible v found), fun ok v seen => ?_, live⟩, Nat.le_refl _⟩
    · rw [none] at member
      cases member
    · refine seen.elim (allVisible ok v) fun waiting => ?_
      have member := allPending ok v waiting
      rw [none] at member
      cases member
  · rw [if_neg none]
    obtain ⟨list, entries, listOrder, members⟩ := sortedEntries_spec inOrder room
    obtain ⟨forestOrder, restOrder, moved⟩ := intoForest_spec trees listOrder
    have forest : ∀ pTree ∈ ({ p with pForest := (intoForest p.pForest list).1 } : RowSet).pForest,
        pTree.toList.Pairwise (· < ·) := forestOrder
    obtain ⟨after, pForest, pChunk, nFresh, added, allOrder, only, all, counted⟩ := addTree_spec memory forest restOrder
    refine ⟨after, { p with pForest, pChunk, nFresh, pEntry := [], sorted := true, iBatch }, ?_,
      ⟨rfl, ?_, fun _ v => False.elim,
      fun _ => .nil, allOrder, fun v found => ?_, fun ok v seen => ?_, ?_⟩, Nat.zero_le _⟩
    · rw [sortIntoForest, entries]
      dsimp only [bind, Option.bind]
      rw [added]
      rfl
    · intro v member
      cases member
    · rcases (moved v).mp (only v found) with before | listed
      · exact Or.inl (visible v before)
      · exact Or.inr (pending v ((members v).mp listed))
    · obtain ⟨earlier, back⟩ := all ok
      refine back v ((moved v).mpr (seen.imp (allVisible earlier v) fun waiting => ?_))
      exact (members v).mpr (allPending earlier v waiting)
    · show after.live = blocks + pChunk
      dsimp only at counted
      omega

/-- A test starts its batch and then tells what is visible. -/
theorem Follows.test (follows : Follows blocks batches memory p) (room : p.pEntry.length < 2 ^ 40)
    (iBatch iRowid : Int) :
    ∃ answer after q, sqlite3RowSetTest memory p iBatch iRowid = some (answer, after, q) ∧
      Follows blocks (batches.begin iBatch) after q ∧ q.pEntry.length ≤ p.pEntry.length ∧
      (answer = true → iRowid ∈ (batches.begin iBatch).visible) ∧
      (after.mallocFailed = false → iRowid ∈ (batches.begin iBatch).visible → answer = true) := by
  obtain ⟨after, q, started, begun, fewer⟩ := follows.begin room iBatch
  have tells : (q.pForest.any fun pTree => pTree.find iRowid) = true ↔ ∃ pTree ∈ q.pForest, iRowid ∈ pTree.toList := by
    rw [List.any_eq_true]
    exact exists_congr fun pTree => and_congr_right fun member => SearchTree.find_iff (begun.trees pTree member)
  refine ⟨_, after, q, ?_, begun, fewer, fun found => begun.visible _ (tells.mp found),
    fun ok seen => tells.mpr (begun.allVisible ok _ seen)⟩
  rw [sqlite3RowSetTest, started]
  rfl

theorem follows_init (memory : Memory) (nFresh : Nat) : Follows memory.live {} memory { nFresh := nFresh } where
  batch := rfl
  pending _ member := absurd member List.not_mem_nil
  allPending _ _ member := member.elim
  inOrder _ := .nil
  trees _ member := absurd member List.not_mem_nil
  visible v found := by simp at found
  allVisible _ _ seen := seen.elim
  live := rfl

theorem Follows.run (follows : Follows blocks batches memory p) {uses : List Use}
    (room : p.pEntry.length + uses.length < 2 ^ 40) :
    ∃ after q, uses.foldlM Use.perform (memory, p) = some (after, q) ∧
      Follows blocks (uses.foldl Use.inBatches batches) after q ∧
      q.pEntry.length ≤ p.pEntry.length + uses.length := by
  induction uses generalizing batches memory p with
  | nil => exact ⟨memory, p, rfl, follows, Nat.le_refl _⟩
  | cons use uses ih =>
    rw [List.length_cons] at room
    have one : ∃ middle q, use.perform (memory, p) = some (middle, q) ∧
      Follows blocks (use.inBatches batches) middle q ∧
        q.pEntry.length ≤ p.pEntry.length + 1 := by
      cases use with
      | insert rowid =>
        obtain ⟨inserted, longer⟩ := follows.insert rowid
        exact ⟨_, _, rfl, inserted, longer⟩
      | test iBatch iRowid =>
        obtain ⟨answer, middle, q, tested, begun, fewer, _⟩ := follows.test (by omega) iBatch iRowid
        refine ⟨middle, q, ?_, begun, by omega⟩
        rw [Use.perform, tested]
        rfl
    obtain ⟨middle, q, performed, step, longer⟩ := one
    obtain ⟨after, r, run, follows', length⟩ := ih step (by omega)
    refine ⟨after, r, ?_, follows', by rw [List.length_cons]; omega⟩
    rw [List.foldlM_cons, performed]
    exact run

/-- However inserts and tests with any batch numbers are mixed: a test never finds
what was not inserted before its batch began, finds all that was unless the
connection was refused memory, and clearing the set frees all its blocks. -/
theorem test_sees_earlier_batches (memory : Memory) (nFresh : Nat) {uses : List Use} (room : uses.length < 2 ^ 40) :
    ∃ after q, uses.foldlM Use.perform (memory, { nFresh := nFresh }) = some (after, q) ∧
      (∀ iBatch iRowid, ∃ answer last r, sqlite3RowSetTest after q iBatch iRowid = some (answer, last, r) ∧
        (answer = true → iRowid ∈ ((uses.foldl Use.inBatches {}).begin iBatch).visible) ∧
        (last.mallocFailed = false → iRowid ∈ ((uses.foldl Use.inBatches {}).begin iBatch).visible → answer = true)) ∧
      (sqlite3RowSetClear after q).1.live = memory.live := by
  obtain ⟨after, q, run, follows, length⟩ := (follows_init memory nFresh).run
    (by rw [List.length_nil, Nat.zero_add]; exact room)
  rw [List.length_nil, Nat.zero_add] at length
  refine ⟨after, q, run, fun iBatch iRowid => ?_, ?_⟩
  · obtain ⟨answer, last, r, tested, _, _, only, all⟩ := follows.test (length.trans_lt room) iBatch iRowid
    exact ⟨answer, last, r, tested, only, all⟩
  · have live := follows.live
    dsimp only [sqlite3RowSetClear, Memory.free]
    omega

theorem test_sees_earlier_batches_sameBatch :
    ∃ after q, [Use.insert 3, .test 1 3, .insert 5].foldlM Use.perform (Memory.plenty, { nFresh := 40 }) =
        some (after, q) ∧
      ∃ last r, sqlite3RowSetTest after q 1 5 = some (false, last, r) := by
  obtain ⟨after, q, run, tests, _⟩ := test_sees_earlier_batches Memory.plenty 40
    (show [Use.insert 3, .test 1 3, .insert 5].length < 2 ^ 40 by decide)
  obtain ⟨answer, last, r, tested, only, _⟩ := tests 1 5
  have missing : ¬ answer = true := by
    intro found
    simpa [Use.inBatches, Batches.begin, Batches.insert] using only found
  rw [Bool.not_eq_true] at missing
  exact ⟨after, q, run, last, r, missing ▸ tested⟩

end Batches

section Drawing

/-- So many row ids are asked for, one after the other. -/
def draw : Nat → Memory → RowSet → Option (List (Option Int) × Memory × RowSet)
  | 0, memory, p => some ([], memory, p)
  | n + 1, memory, p => do
    let (first, memory, p) ← sqlite3RowSetNext memory p
    let (rest, memory, p) ← draw n memory p
    return (first :: rest, memory, p)

/-- These row ids are given out next, and what is held for them is freed with the last. -/
structure Gives (blocks : Nat) (list : List Int) (memory : Memory) (p : RowSet) : Prop where
  entries : ∃ q, startNext p = some q ∧ q.pEntry = list ∧ q.next = true ∧ q.pChunk = p.pChunk
  live : memory.live = blocks + p.pChunk
  freed : list = [] → p.pChunk = 0

variable {blocks : Nat} {list : List Int} {memory : Memory} {p : RowSet}

theorem Gives.exhausted (gives : Gives blocks [] memory p) :
    ∃ q, sqlite3RowSetNext memory p = some (none, memory, q) ∧ Gives blocks [] memory q := by
  obtain ⟨q, started, entries, next, chunks⟩ := gives.entries
  refine ⟨q, ?_, ⟨q, if_pos next, entries, next, rfl⟩, by rw [chunks]; exact gives.live, fun _ => by
    rw [chunks]; exact gives.freed rfl⟩
  unfold sqlite3RowSetNext
  rw [started]
  dsimp only [bind, Option.bind]
  rw [entries]
  rfl

theorem Gives.first {v : Int} (gives : Gives blocks (v :: list) memory p) :
    ∃ after q, sqlite3RowSetNext memory p = some (some v, after, q) ∧ Gives blocks list after q := by
  obtain ⟨q, started, entries, next, chunks⟩ := gives.entries
  have live := gives.live
  unfold sqlite3RowSetNext
  rw [started]
  dsimp only [bind, Option.bind]
  rw [entries]
  cases list with
  | nil =>
    have empty : startNext (sqlite3RowSetClear memory { q with pEntry := [] }).2 =
        some { (sqlite3RowSetClear memory { q with pEntry := [] }).2 with
          pEntry := [], sorted := true, next := true } := rfl
    refine ⟨_, _, rfl, ⟨_, empty, rfl, rfl, rfl⟩, ?_, fun _ => rfl⟩
    dsimp only [sqlite3RowSetClear, Memory.free]
    omega
  | cons w list =>
    refine ⟨memory, { q with pEntry := w :: list }, rfl, ⟨_, if_pos next, rfl, next, rfl⟩, ?_, fun none => ?_⟩
    · show memory.live = blocks + q.pChunk
      omega
    · exact absurd none (List.cons_ne_nil w list)

theorem Gives.draw (gives : Gives blocks list memory p) (n : Nat) :
    ∃ after q, draw n memory p = some ((list.map some ++ List.replicate n none).take n, after, q) ∧
      (list.length ≤ n → after.live = blocks) := by
  induction n generalizing list memory p with
  | zero =>
    refine ⟨memory, p, rfl, fun short => ?_⟩
    have empty := List.length_eq_zero_iff.mp (Nat.le_zero.mp short)
    rw [gives.live, gives.freed empty, Nat.add_zero]
  | succ n ih =>
    cases list with
    | nil =>
      obtain ⟨q, next, gives'⟩ := gives.exhausted
      obtain ⟨after, r, rest, freed⟩ := ih gives'
      refine ⟨after, r, ?_, fun _ => freed (Nat.zero_le n)⟩
      rw [RowSet.draw, next]
      dsimp only [bind, Option.bind]
      rw [rest]
      simp [List.replicate_succ]
    | cons v list =>
      obtain ⟨middle, q, next, gives'⟩ := gives.first
      obtain ⟨after, r, rest, freed⟩ := ih gives'
      refine ⟨after, r, ?_, fun short => freed (Nat.le_of_succ_le_succ short)⟩
      rw [RowSet.draw, next]
      dsimp only [bind, Option.bind]
      rw [rest]
      have enough : (list.map some ++ List.replicate (n + 1) none).take n =
          (list.map some ++ List.replicate n none).take n := by
        rw [List.take_append, List.take_append, List.take_replicate, List.take_replicate]
        congr 2
        omega
      rw [List.map_cons, List.cons_append, List.take_succ_cons, enough]
      rfl

/-- Nothing is allocated for a set that has no entries. -/
structure Gathered (blocks : Nat) (batches : Batches) (memory : Memory) (p : RowSet) : Prop where
  follows : Follows blocks batches memory p
  next : p.next = false
  bare : p.pEntry = [] → p.pChunk = 0

variable {batches : Batches}

theorem Gathered.insert (gathered : Gathered blocks batches memory p) (rowid : Int) :
    Gathered blocks (batches.insert rowid) (sqlite3RowSetInsert memory p rowid).1
      (sqlite3RowSetInsert memory p rowid).2 := by
  refine ⟨(gathered.follows.insert rowid).1, ?_, ?_⟩
  all_goals
    obtain ⟨granted, after, pChunk, nFresh, alloc, counted, refused, earlier⟩ := rowSetEntryAlloc_cases memory p
    unfold sqlite3RowSetInsert
    rw [alloc]
    cases granted
  · exact gathered.next
  · exact gathered.next
  · intro none
    obtain ⟨_, same⟩ := refused rfl
    show pChunk = 0
    rw [same]
    exact gathered.bare none
  · intro none
    exact absurd none (by simp)

def insertAll (memory : Memory) (p : RowSet) (rowids : List Int) : Memory × RowSet :=
  rowids.foldl (fun (memory, p) rowid => sqlite3RowSetInsert memory p rowid) (memory, p)

theorem Gathered.insertAll (gathered : Gathered blocks batches memory p) (rowids : List Int) :
    Gathered blocks (rowids.foldl Batches.insert batches) (insertAll memory p rowids).1 (insertAll memory p rowids).2 ∧
      (RowSet.insertAll memory p rowids).2.pEntry.length ≤ p.pEntry.length + rowids.length := by
  induction rowids generalizing batches memory p with
  | nil => exact ⟨gathered, Nat.le_refl _⟩
  | cons rowid rowids ih =>
    obtain ⟨all, length⟩ := ih (gathered.insert rowid)
    have longer := (gathered.follows.insert rowid).2
    refine ⟨all, length.trans ?_⟩
    rw [List.length_cons]
    omega

theorem pending_insert (batches : Batches) (rowids : List Int) (v : Int) :
    v ∈ (rowids.foldl Batches.insert batches).pending ↔ v ∈ batches.pending ∨ v ∈ rowids := by
  induction rowids generalizing batches with
  | nil => simp
  | cons rowid rowids ih =>
    rw [List.foldl_cons, ih, List.mem_cons, Batches.insert, Set.mem_insert_iff]
    tauto

theorem Gathered.gives (gathered : Gathered blocks batches memory p) (room : p.pEntry.length < 2 ^ 40) :
    ∃ list, Gives blocks list memory p ∧ list.Pairwise (· < ·) ∧ ∀ v, v ∈ list ↔ v ∈ p.pEntry := by
  obtain ⟨list, entries, order, members⟩ := sortedEntries_spec gathered.follows.inOrder room
  refine ⟨list, ⟨⟨{ p with pEntry := list, sorted := true, next := true }, ?_, rfl, rfl, rfl⟩, gathered.follows.live,
    fun none => gathered.bare ?_⟩, order, members⟩
  · rw [startNext, if_neg (by rw [gathered.next]; decide), entries]
    rfl
  · exact List.eq_nil_iff_forall_not_mem.mpr fun v member => List.not_mem_nil (none ▸ (members v).mpr member)

/-- Row ids that were inserted in any order, and any number of times, are given out in
strictly increasing order and then no more: all of them, unless the connection was
refused memory. With the last of them every block is freed. -/
theorem next_gives_sorted (memory : Memory) (nFresh : Nat) {rowids : List Int} (room : rowids.length < 2 ^ 40) :
    ∃ list : List Int, list.Pairwise (· < ·) ∧ (∀ v ∈ list, v ∈ rowids) ∧
      ((insertAll memory { nFresh := nFresh } rowids).1.mallocFailed = false → ∀ v ∈ rowids, v ∈ list) ∧
      ∀ n, ∃ after q, draw n (insertAll memory { nFresh := nFresh } rowids).1
        (insertAll memory { nFresh := nFresh } rowids).2 =
          some ((list.map some ++ List.replicate n none).take n, after, q) ∧
        (list.length ≤ n → after.live = memory.live) := by
  have init : Gathered memory.live {} memory { nFresh := nFresh } := ⟨follows_init memory nFresh, rfl, fun _ => rfl⟩
  obtain ⟨gathered, length⟩ := init.insertAll rowids
  rw [List.length_nil, Nat.zero_add] at length
  obtain ⟨list, gives, order, members⟩ := gathered.gives (length.trans_lt room)
  refine ⟨list, order, fun v member => ?_, fun ok v member => ?_, gives.draw⟩
  · have waiting := gathered.follows.pending v ((members v).mp member)
    exact ((pending_insert {} rowids v).mp waiting).elim False.elim id
  · exact (members v).mpr (gathered.follows.allPending ok v ((pending_insert {} rowids v).mpr (Or.inr member)))

theorem next_gives_sorted_repeated :
    ∃ after q, draw 4 (insertAll Memory.plenty { nFresh := 2 } [5, 3, 5]).1
        (insertAll Memory.plenty { nFresh := 2 } [5, 3, 5]).2 =
      some ([some 3, some 5, none, none], after, q) ∧ after.live = 0 := by
  obtain ⟨list, order, only, all, draws⟩ := next_gives_sorted Memory.plenty 2
    (show [(5 : Int), 3, 5].length < 2 ^ 40 by decide)
  have given : list = [3, 5] := by
    refine order.eq_of_mem_iff (by decide) fun v => ⟨fun member => ?_, fun member => ?_⟩
    · have inserted := only v member
      simp only [List.mem_cons, List.not_mem_nil, or_false] at inserted ⊢
      omega
    · refine all (by decide) v ?_
      simp only [List.mem_cons, List.not_mem_nil, or_false] at member ⊢
      omega
  obtain ⟨after, q, drawn, freed⟩ := draws 4
  subst given
  exact ⟨after, q, drawn, freed (by decide)⟩

end Drawing

end RowSet

end SignalPods.SQLite
