import SignalPods.Foundation.ProbeChains
import SignalPods.SQLite.Memory

namespace SignalPods.SQLite

open Foundation

def SQLITE_CORRUPT : Nat := 11

def HASHTABLE_NPAGE : Nat := 4096

def HASHTABLE_HASH_1 : Nat := 383

def HASHTABLE_NSLOT : Nat := HASHTABLE_NPAGE * 2

/-- Two copies of the header of 48 bytes, and the checkpoint information of 40. -/
def WALINDEX_HDR_SIZE : Nat := 48 * 2 + 40

def HASHTABLE_NPAGE_ONE : Nat := HASHTABLE_NPAGE - WALINDEX_HDR_SIZE / 4

/-- A page of the wal-index: the database pages of its frames, and the hash table. -/
structure WalIndexPage where
  aPgno : Nat → Nat
  aHash : Fin HASHTABLE_NSLOT → Nat

def WalIndexPage.zero : WalIndexPage := { aPgno := fun _ => 0, aHash := fun _ => 0 }

structure WalIndexHdr where
  iChange : Nat
  mxFrame : Nat
  aSalt : Nat
  deriving DecidableEq

/-- The index and the file of a log as a connection has them: `live` is the header in
shared memory, and `hdr` the copy of the connection. -/
structure Wal (D : Type) where
  apWiData : Nat → WalIndexPage
  frames : Nat → D
  live : WalIndexHdr
  hdr : WalIndexHdr
  minFrame : Nat
  nCkpt : Nat

/-- What the system answers while a set of frames is written: whether the pages of the
index are mapped, whether the header, each page and the whole are written, and what a
write that fails leaves. -/
structure Answers (D : Type) where
  maps : Nat → Nat
  header : Nat
  writes : Nat → Nat
  torn : D
  sync : Nat

section Hashing

def walHash (iPage : Nat) : Fin HASHTABLE_NSLOT :=
  ⟨iPage * HASHTABLE_HASH_1 &&& (HASHTABLE_NSLOT - 1), Nat.lt_of_le_of_lt Nat.and_le_right (by decide)⟩

def walNextHash (iPriorHash : Fin HASHTABLE_NSLOT) : Fin HASHTABLE_NSLOT :=
  ⟨(iPriorHash.val + 1) &&& (HASHTABLE_NSLOT - 1), Nat.lt_of_le_of_lt Nat.and_le_right (by decide)⟩

def walFramePage (iFrame : Nat) : Nat := (iFrame + HASHTABLE_NPAGE - HASHTABLE_NPAGE_ONE - 1) / HASHTABLE_NPAGE

/-- One less than the number of the first frame of a page of the index. -/
def iZero (iHash : Nat) : Nat := if iHash = 0 then 0 else HASHTABLE_NPAGE_ONE + (iHash - 1) * HASHTABLE_NPAGE

/-- The first slot that is not in use, or none after so many that are. -/
def freeSlot (aHash : Fin HASHTABLE_NSLOT → Nat) : Nat → Fin HASHTABLE_NSLOT → Option (Fin HASHTABLE_NSLOT)
  | 0, iKey => if aHash iKey = 0 then some iKey else none
  | nCollide + 1, iKey => if aHash iKey = 0 then some iKey else freeSlot aHash nCollide (walNextHash iKey)

end Hashing

section Searching

/-- The frames that a connection reads: from the first that is not in the database to
the last that there was when it began, or none. -/
structure Snapshot where
  mxFrame : Nat
  minFrame : Nat
  ignored : Bool

/-- The last frame of a database page that is found on the way along the slots. -/
def searchPage (page : WalIndexPage) (iZero : Nat) (snapshot : Snapshot) (pgno : Nat) :
    Nat → Fin HASHTABLE_NSLOT → Nat → Option Nat
  | nCollide, iKey, iRead =>
    if page.aHash iKey = 0 then some iRead
    else
      let iFrame := page.aHash iKey + iZero
      let iRead :=
        if iFrame ≤ snapshot.mxFrame ∧ snapshot.minFrame ≤ iFrame ∧ page.aPgno (page.aHash iKey - 1) = pgno then iFrame
        else iRead
      match nCollide with
      | 0 => none
      | nCollide + 1 => searchPage page iZero snapshot pgno nCollide (walNextHash iKey) iRead

/-- One page of the index, and after it the ones before it. -/
def searchOne (maps : Nat → Nat) (apWiData : Nat → WalIndexPage) (snapshot : Snapshot) (pgno iHash : Nat)
    (before : Nat × Nat) : Nat × Nat :=
  if iHash < walFramePage snapshot.minFrame then (SQLITE_OK, 0)
  else if maps iHash ≠ SQLITE_OK then (maps iHash, 0)
  else
    match searchPage (apWiData iHash) (iZero iHash) snapshot pgno HASHTABLE_NSLOT (walHash pgno) 0 with
    | none => (SQLITE_CORRUPT, 0)
    | some iRead => if iRead ≠ 0 then (SQLITE_OK, iRead) else before

def searchPages (maps : Nat → Nat) (apWiData : Nat → WalIndexPage) (snapshot : Snapshot) (pgno : Nat) : Nat → Nat × Nat
  | 0 => searchOne maps apWiData snapshot pgno 0 (SQLITE_OK, 0)
  | iHash + 1 =>
    searchOne maps apWiData snapshot pgno (iHash + 1) (searchPages maps apWiData snapshot pgno iHash)

def walFindFrame (maps : Nat → Nat) (apWiData : Nat → WalIndexPage) (snapshot : Snapshot) (pgno : Nat) : Nat × Nat :=
  if snapshot.mxFrame = 0 ∨ snapshot.ignored = true then (SQLITE_OK, 0)
  else searchPages maps apWiData snapshot pgno (walFramePage snapshot.mxFrame)

def walFramePgno (apWiData : Nat → WalIndexPage) (iFrame : Nat) : Nat :=
  if walFramePage iFrame = 0 then (apWiData 0).aPgno (iFrame - 1)
  else (apWiData (walFramePage iFrame)).aPgno ((iFrame - 1 - HASHTABLE_NPAGE_ONE) % HASHTABLE_NPAGE)

/-- The search without the hash tables, which an assertion compares with the other. -/
def walFindLinear (apWiData : Nat → WalIndexPage) (minFrame pgno : Nat) : Nat → Nat
  | 0 => 0
  | iTest + 1 =>
    if iTest + 1 < minFrame then 0
    else if walFramePgno apWiData (iTest + 1) = pgno then iTest + 1
    else walFindLinear apWiData minFrame pgno iTest

end Searching

variable {D : Type}

section Writing

/-- What stays of a page of the index if the frames after a limit are removed. -/
def cleanPage (page : WalIndexPage) (iLimit : Nat) : WalIndexPage where
  aPgno i := if i < iLimit then page.aPgno i else 0
  aHash iKey := if iLimit < page.aHash iKey then 0 else page.aHash iKey

def walCleanupHash (pWal : Wal D) : Wal D :=
  if pWal.hdr.mxFrame = 0 then pWal
  else
    let iHash := walFramePage pWal.hdr.mxFrame
    let page := cleanPage (pWal.apWiData iHash) (pWal.hdr.mxFrame - iZero iHash)
    { pWal with apWiData := Function.update pWal.apWiData iHash page }

/-- The page of the index before an entry is put in: the first finds it empty, and what
a writer that stopped in the middle of its transaction has left is removed. -/
def preparePage (pWal : Wal D) (iHash idx : Nat) : Wal D :=
  let pWal := if idx = 1 then { pWal with apWiData := Function.update pWal.apWiData iHash .zero } else pWal
  if (pWal.apWiData iHash).aPgno (idx - 1) ≠ 0 then walCleanupHash pWal else pWal

def walIndexAppend (maps : Nat → Nat) (pWal : Wal D) (iFrame iPage : Nat) : Nat × Wal D :=
  let iHash := walFramePage iFrame
  if maps iHash ≠ SQLITE_OK then (maps iHash, pWal)
  else
    let idx := iFrame - iZero iHash
    let pWal := preparePage pWal iHash idx
    let page := pWal.apWiData iHash
    match freeSlot page.aHash idx (walHash iPage) with
    | none => (SQLITE_CORRUPT, pWal)
    | some iKey =>
      let page : WalIndexPage :=
        { aPgno := Function.update page.aPgno (idx - 1) iPage, aHash := Function.update page.aHash iKey idx }
      (SQLITE_OK, { pWal with apWiData := Function.update pWal.apWiData iHash page })

/-- The pages of a set in turn, if `find` gives the frames that the transaction has
written. A page that has one replaces it, unless it ends the transaction. All others are
put after the last frame, and returned for the index. -/
def writePages (find : Nat → Nat) (iFirst : Nat) (isCommit : Bool) (answers : Answers D) (frames : Nat → D)
    (iFrame : Nat) : List (Nat × D) → Nat × (Nat → D) × List (Nat × D)
  | [] => (SQLITE_OK, frames, [])
  | (pgno, data) :: pList =>
    let rc := answers.writes pList.length
    let data := if rc ≠ SQLITE_OK then answers.torn else data
    let iWrite := if iFirst ≠ 0 ∧ (pList ≠ [] ∨ isCommit = false) then find pgno else 0
    if iFirst ≠ 0 ∧ iFirst ≤ iWrite then
      let frames := Function.update frames iWrite data
      if rc ≠ SQLITE_OK then (rc, frames, []) else writePages find iFirst isCommit answers frames iFrame pList
    else
      let frames := Function.update frames (iFrame + 1) data
      if rc ≠ SQLITE_OK then (rc, frames, [])
      else
        let (rc, frames, appended) := writePages find iFirst isCommit answers frames (iFrame + 1) pList
        (rc, frames, (pgno, data) :: appended)

/-- Copies of the last page, up to the end of a sector. -/
def padFrames (frames : Nat → D) (iFrame : Nat) (pLast : Nat × D) : Nat → (Nat → D) × List (Nat × D)
  | 0 => (frames, [])
  | nExtra + 1 =>
    let (frames, extra) := padFrames (Function.update frames (iFrame + 1) pLast.2) (iFrame + 1) pLast nExtra
    (frames, pLast :: extra)

def padLast (frames : Nat → D) (iFrame : Nat) (appended : List (Nat × D)) (nExtra : Nat) : (Nat → D) × List (Nat × D) :=
  match appended.getLast? with
  | some pLast => padFrames frames (iFrame + appended.length) pLast nExtra
  | none => (frames, [])

def appendFrames (maps : Nat → Nat) (pWal : Wal D) (iFrame : Nat) : List (Nat × D) → Nat × Wal D
  | [] => (SQLITE_OK, pWal)
  | p :: appended =>
    let (rc, pWal) := walIndexAppend maps pWal (iFrame + 1) p.1
    if rc ≠ SQLITE_OK then (rc, pWal) else appendFrames maps pWal (iFrame + 1) appended

/-- The frames that are in the file now are put into the index, and the headers follow. -/
def indexFrames (maps : Nat → Nat) (pWal : Wal D) (appended : List (Nat × D)) (isCommit : Bool) : Nat × Wal D :=
  let (rc, pWal) := appendFrames maps pWal pWal.hdr.mxFrame appended
  if rc ≠ SQLITE_OK then (rc, pWal)
  else
    let hdr := { pWal.hdr with mxFrame := pWal.hdr.mxFrame + appended.length }
    if isCommit then
      let hdr := { hdr with iChange := hdr.iChange + 1 }
      (SQLITE_OK, { pWal with hdr := hdr, live := hdr })
    else (SQLITE_OK, { pWal with hdr := hdr })

/-- A set of pages is written to the log, which is not restarted before. -/
def walFrames (answers : Answers D) (pWal : Wal D) (pList : List (Nat × D)) (isCommit : Bool) (nExtra : Nat) :
    Nat × Wal D :=
  let iFirst := if pWal.hdr ≠ pWal.live then pWal.live.mxFrame + 1 else 0
  let iFrame := pWal.hdr.mxFrame
  if iFrame = 0 ∧ answers.header ≠ SQLITE_OK then (answers.header, pWal)
  else
    let snapshot : Snapshot := { mxFrame := iFrame, minFrame := pWal.minFrame, ignored := false }
    let find pgno := (walFindFrame answers.maps pWal.apWiData snapshot pgno).2
    let (rc, frames, appended) := writePages find iFirst isCommit answers pWal.frames iFrame pList
    if rc ≠ SQLITE_OK then (rc, { pWal with frames := frames })
    else
      let (frames, extra) := padLast frames iFrame appended (if isCommit then nExtra else 0)
      if answers.sync ≠ SQLITE_OK then (answers.sync, { pWal with frames := frames })
      else indexFrames answers.maps { pWal with frames := frames } (appended ++ extra) isCommit

/-- The connection goes back to what is committed. The pages that it had written are
returned. -/
def sqlite3WalUndo (pWal : Wal D) : List Nat × Wal D :=
  let iMax := pWal.hdr.mxFrame
  let pWal := { pWal with hdr := pWal.live }
  ((List.range (iMax - pWal.hdr.mxFrame)).map fun i => walFramePgno pWal.apWiData (pWal.hdr.mxFrame + 1 + i),
    if iMax ≠ pWal.hdr.mxFrame then walCleanupHash pWal else pWal)

def sqlite3WalSavepoint (pWal : Wal D) : Nat × Nat := (pWal.hdr.mxFrame, pWal.nCkpt)

def sqlite3WalSavepointUndo (pWal : Wal D) (aWalData : Nat × Nat) : (Nat × Nat) × Wal D :=
  let aWalData := if aWalData.2 ≠ pWal.nCkpt then (0, pWal.nCkpt) else aWalData
  (aWalData,
    if aWalData.1 < pWal.hdr.mxFrame then walCleanupHash { pWal with hdr := { pWal.hdr with mxFrame := aWalData.1 } }
    else pWal)

/-- The log is written from its start again. -/
def walRestartHdr (pWal : Wal D) : Wal D :=
  let hdr := { pWal.hdr with mxFrame := 0, aSalt := pWal.hdr.aSalt + 1 }
  { pWal with nCkpt := pWal.nCkpt + 1, hdr := hdr, live := hdr }

end Writing

end SignalPods.SQLite
