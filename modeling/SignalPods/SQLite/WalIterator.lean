import Mathlib.Data.Nat.Bitwise
import SignalPods.SQLite.WalIndexed

namespace SignalPods.SQLite

section Sorting

variable (aContent : Nat → Nat)

def skipLeft (dbpage : Nat) : List Nat → List Nat
  | [] => []
  | iLeft :: aLeft => if aContent iLeft = dbpage then aLeft else iLeft :: aLeft

theorem length_skipLeft_le (dbpage : Nat) (aLeft : List Nat) :
    (skipLeft aContent dbpage aLeft).length ≤ aLeft.length := by
  cases aLeft with
  | nil => exact le_rfl
  | cons iLeft aLeft =>
    rw [skipLeft]
    split
    · exact Nat.le_succ _
    · exact le_rfl

/-- Two lists of indices, each sorted by what they stand for. Where both have the same,
the left one is left out. -/
def walMerge : List Nat → List Nat → List Nat
  | [], [] => []
  | [], iRight :: aRight => iRight :: walMerge [] aRight
  | iLeft :: aLeft, [] => iLeft :: walMerge (skipLeft aContent (aContent iLeft) aLeft) []
  | iLeft :: aLeft, iRight :: aRight =>
    if aContent iLeft < aContent iRight then iLeft :: walMerge (skipLeft aContent (aContent iLeft) aLeft)
      (iRight :: aRight)
    else iRight :: walMerge (skipLeft aContent (aContent iRight) (iLeft :: aLeft)) aRight
  termination_by aLeft aRight => aLeft.length + aRight.length
  decreasing_by
    · simp
    · exact Nat.add_lt_add_right (Nat.lt_succ_of_le (length_skipLeft_le ..)) _
    · exact Nat.add_lt_add_right (Nat.lt_succ_of_le (length_skipLeft_le ..)) _
    · exact Nat.add_lt_add_of_le_of_lt (length_skipLeft_le ..) (Nat.lt_succ_self _)

/-- The lists that are full are merged with one more index. -/
def carryLists (aSub : Nat → List Nat) (iList : Nat) : Nat → Nat → List Nat → Nat × List Nat
  | 0, iSub, aMerge => (iSub, aMerge)
  | fuel + 1, iSub, aMerge =>
    if iList.testBit iSub then carryLists aSub iList fuel (iSub + 1) (walMerge aContent (aSub iSub) aMerge)
    else (iSub, aMerge)

/-- The state after the indices from one on are put in: the lists, and the last of them. -/
def fillLists : Nat → Nat → (Nat → List Nat) → Nat × List Nat → (Nat → List Nat) × Nat × List Nat
  | 0, _, aSub, last => (aSub, last)
  | nList + 1, iList, aSub, _ =>
    let last := carryLists aContent aSub iList 13 0 [iList]
    fillLists nList (iList + 1) (Function.update aSub last.1 last.2) last

def mergeLists (aSub : Nat → List Nat) (nList : Nat) : Nat → Nat → List Nat → List Nat
  | 0, _, aMerge => aMerge
  | fuel + 1, iSub, aMerge =>
    mergeLists aSub nList fuel (iSub + 1) (if nList.testBit iSub then walMerge aContent (aSub iSub) aMerge else aMerge)

/-- The indices below a number. -/
def walMergesort (nList : Nat) : List Nat :=
  let (aSub, iSub, aMerge) := fillLists aContent nList 0 (fun _ => []) (0, [])
  mergeLists aContent aSub nList (13 - (iSub + 1)) (iSub + 1) aMerge

end Sorting

section Iterating

/-- The indices of a page of the index that were not passed yet. -/
structure WalSegment where
  iHash : Nat
  aIndex : List Nat

structure WalIterator where
  iPrior : Nat
  aSegment : List WalSegment

def walSegments (maps : Nat → Nat) (apWiData : Nat → WalIndexPage) (iLast : Nat) : Nat → Nat → Nat × List WalSegment
  | 0, _ => (SQLITE_OK, [])
  | count + 1, iHash =>
    if maps iHash ≠ SQLITE_OK then (maps iHash, [])
    else
      let nEntry := if count = 0 then iLast - iZero iHash else capacity iHash
      let segment : WalSegment := { iHash := iHash, aIndex := walMergesort (apWiData iHash).aPgno nEntry }
      let (rc, aSegment) := walSegments maps apWiData iLast count (iHash + 1)
      (rc, segment :: aSegment)

def walIteratorInit (granted : Bool) (maps : Nat → Nat) (apWiData : Nat → WalIndexPage) (mxFrame nBackfill : Nat) :
    Nat × Option WalIterator :=
  if granted = false then (SQLITE_NOMEM, none)
  else
    let nSegment := walFramePage mxFrame + 1
    let first := walFramePage (nBackfill + 1)
    let (rc, aSegment) := walSegments maps apWiData mxFrame (nSegment - first) first
    (rc, if rc = SQLITE_OK then some { iPrior := 0, aSegment := aSegment } else none)

/-- The smallest page after one, in the last segment that has it, and its frame. -/
def segmentsNext (apWiData : Nat → WalIndexPage) (iMin : Nat) : List WalSegment → Option (Nat × Nat) × List WalSegment
  | [] => (none, [])
  | segment :: later =>
    let (found, later) := segmentsNext apWiData iMin later
    let aPgno := (apWiData segment.iHash).aPgno
    let aIndex := segment.aIndex.dropWhile fun idx => aPgno idx ≤ iMin
    let found :=
      match aIndex.head?, found with
      | none, found => found
      | some idx, none => some (aPgno idx, iZero segment.iHash + 1 + idx)
      | some idx, some (iRet, piFrame) =>
        if aPgno idx < iRet then some (aPgno idx, iZero segment.iHash + 1 + idx) else some (iRet, piFrame)
    (found, { segment with aIndex := aIndex } :: later)

def walIteratorNext (apWiData : Nat → WalIndexPage) (p : WalIterator) : Option (Nat × Nat × WalIterator) :=
  match segmentsNext apWiData p.iPrior p.aSegment with
  | (none, _) => none
  | (some (iRet, piFrame), aSegment) => some (iRet, piFrame, { iPrior := iRet, aSegment := aSegment })

/-- The pages that a checkpoint visits, and their frames. -/
def walIterate (apWiData : Nat → WalIndexPage) : Nat → WalIterator → List (Nat × Nat)
  | 0, _ => []
  | fuel + 1, pIter =>
    match walIteratorNext apWiData pIter with
    | none => []
    | some (iDbpage, iFrame, pIter) => (iDbpage, iFrame) :: walIterate apWiData fuel pIter

end Iterating

end SignalPods.SQLite
