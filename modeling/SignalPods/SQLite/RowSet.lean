import SignalPods.Foundation.SearchTrees
import SignalPods.SQLite.Memory

namespace SignalPods.SQLite

open Foundation

def ROWSET_ALLOCATION_SIZE : Nat := 1024

/-- An entry is a row id and two pointers. -/
def ROWSET_ENTRY_PER_CHUNK : Nat := (ROWSET_ALLOCATION_SIZE - 8) / 24

/-- Row ids that were inserted. The entries on the list are their row ids; the last
of them is its last element, and the entries left in a chunk are counted only. -/
structure RowSet where
  pChunk : Nat := 0
  pEntry : List Int := []
  nFresh : Nat
  pForest : List (SearchTree Int) := []
  sorted : Bool := true
  next : Bool := false
  iBatch : Int := 0

namespace RowSet

def sqlite3RowSetClear (memory : Memory) (p : RowSet) : Memory × RowSet :=
  (memory.free p.pChunk,
    { p with pChunk := 0, nFresh := 0, pEntry := [], pForest := [], sorted := true, next := false })

def rowSetEntryAlloc (memory : Memory) (p : RowSet) : Bool × Memory × RowSet :=
  if p.nFresh = 0 then
    let (granted, memory) := memory.sqlite3DbMallocRawNN
    if granted then
      (true, memory, { p with pChunk := p.pChunk + 1, nFresh := ROWSET_ENTRY_PER_CHUNK - 1 })
    else (false, memory, p)
  else (true, memory, { p with nFresh := p.nFresh - 1 })

def sqlite3RowSetInsert (memory : Memory) (p : RowSet) (rowid : Int) : Memory × RowSet :=
  match rowSetEntryAlloc memory p with
  | (false, memory, p) => (memory, p)
  | (true, memory, p) =>
    let inOrder := p.pEntry.getLast?.all fun last => decide (last < rowid)
    (memory, { p with sorted := p.sorted && inOrder, pEntry := p.pEntry ++ [rowid] })

def rowSetEntryMerge (pA pB : List Int) : List Int := mergeDistinct pA pB

/-- A list is put into the first empty bucket, merged with those before it. There is
nothing past the last bucket. -/
def putBucket : List (List Int) → List Int → Option (List (List Int))
  | [], _ => none
  | bucket :: aBucket, pIn =>
    if bucket = [] then some (pIn :: aBucket)
    else (putBucket aBucket (rowSetEntryMerge bucket pIn)).map ([] :: ·)

def rowSetEntrySort (pIn : List Int) : Option (List Int) := do
  let aBucket ← pIn.foldlM (fun aBucket v => putBucket aBucket [v]) (List.replicate 40 [])
  return aBucket.foldl (fun pIn bucket =>
    if bucket = [] then pIn else if pIn = [] then bucket else rowSetEntryMerge pIn bucket) []

/-- A tree of at most this depth from the front of a list, and what is left of it. -/
def rowSetNDeepTree : Nat → List Int → SearchTree Int × List Int
  | iDepth + 2, ppList =>
    if ppList = [] then (.leaf, [])
    else
      let left := rowSetNDeepTree (iDepth + 1) ppList
      match left.2 with
      | [] => (left.1, [])
      | v :: ppList =>
        let right := rowSetNDeepTree (iDepth + 1) ppList
        (.node left.1 v right.1, right.2)
  | _, [] => (.leaf, [])
  | _, v :: ppList => (.node .leaf v .leaf, ppList)

theorem toList_rowSetNDeepTree (iDepth : Nat) (list : List Int) :
    (rowSetNDeepTree iDepth list).1.toList ++ (rowSetNDeepTree iDepth list).2 = list := by
  induction iDepth generalizing list with
  | zero => cases list <;> rfl
  | succ iDepth ih =>
    cases iDepth with
    | zero => cases list <;> rfl
    | succ iDepth =>
      by_cases empty : list = []
      · rw [rowSetNDeepTree, if_pos empty, empty]
        rfl
      · have left := ih list
        rw [rowSetNDeepTree, if_neg empty]
        dsimp only
        split
        · rename_i none
          rw [none] at left
          exact left
        · rename_i v rest found
          rw [found] at left
          have right := ih rest
          rw [SearchTree.toList, List.append_assoc, List.cons_append, right]
          exact left

/-- A tree is made the left side of a deeper one until the list is used up. -/
def growTree (iDepth : Nat) (pLeft : SearchTree Int) : List Int → SearchTree Int
  | [] => pLeft
  | v :: list =>
    have shorter : (rowSetNDeepTree iDepth list).2.length < list.length + 1 := by
      have lengths := congrArg List.length (toList_rowSetNDeepTree iDepth list)
      rw [List.length_append] at lengths
      omega
    growTree (iDepth + 1) (.node pLeft v (rowSetNDeepTree iDepth list).1) (rowSetNDeepTree iDepth list).2
termination_by list => list.length

def rowSetListToTree : List Int → SearchTree Int
  | [] => .leaf
  | v :: list => growTree 1 (.node .leaf v .leaf) list

/-- The first empty tree of the forest is made of a list, merged with those before
it, which are emptied. What is left of the list is returned if none is empty. -/
def intoForest : List (SearchTree Int) → List Int → List (SearchTree Int) × List Int
  | [], p => ([], p)
  | .leaf :: trees, p => (rowSetListToTree p :: trees, [])
  | pTree :: trees, p =>
    let (trees, p) := intoForest trees (rowSetEntryMerge pTree.toList p)
    (.leaf :: trees, p)

def sortedEntries (p : RowSet) : Option (List Int) := if p.sorted then some p.pEntry else rowSetEntrySort p.pEntry

/-- What no tree was empty for becomes the last tree, unless its entry is refused. -/
def addTree (memory : Memory) (p : RowSet) (list : List Int) : Memory × RowSet :=
  if list = [] then (memory, p)
  else
    match rowSetEntryAlloc memory p with
    | (true, memory, p) => (memory, { p with pForest := p.pForest ++ [rowSetListToTree list] })
    | (false, memory, p) => (memory, p)

/-- The entries are sorted into the forest. -/
def sortIntoForest (memory : Memory) (p : RowSet) : Option (Memory × RowSet) := do
  let list ← p.sortedEntries
  let (pForest, rest) := intoForest p.pForest list
  let (memory, p) := addTree memory { p with pForest := pForest } rest
  return (memory, { p with pEntry := [], sorted := true })

def startBatch (memory : Memory) (p : RowSet) (iBatch : Int) : Option (Memory × RowSet) :=
  if iBatch = p.iBatch then some (memory, p)
  else if p.pEntry = [] then some (memory, { p with iBatch := iBatch })
  else (sortIntoForest memory p).map fun (memory, p) => (memory, { p with iBatch := iBatch })

def sqlite3RowSetTest (memory : Memory) (p : RowSet) (iBatch iRowid : Int) : Option (Bool × Memory × RowSet) := do
  let (memory, p) ← startBatch memory p iBatch
  return (p.pForest.any fun pTree => pTree.find iRowid, memory, p)

/-- The list is sorted when its first element is asked for. -/
def startNext (p : RowSet) : Option RowSet :=
  if p.next then some p
  else p.sortedEntries.map fun list => { p with pEntry := list, sorted := true, next := true }

def sqlite3RowSetNext (memory : Memory) (p : RowSet) : Option (Option Int × Memory × RowSet) := do
  let p ← startNext p
  match p.pEntry with
  | [] => return (none, memory, p)
  | [v] => return (some v, sqlite3RowSetClear memory { p with pEntry := [] })
  | v :: list => return (some v, memory, { p with pEntry := list })

end RowSet

end SignalPods.SQLite
