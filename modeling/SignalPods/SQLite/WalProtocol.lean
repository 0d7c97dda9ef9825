import SignalPods.SQLite.WalIterator

namespace SignalPods.SQLite

def WAL_NREADER : Nat := 5

/-- Where a connection is in the begin of a read transaction. -/
inductive ReadStep where
  | header
  | bypass
  | bypassed
  | scan (i mxI mxReadMark : Nat)
  | mark (i mxI mxReadMark : Nat)
  | lock (mxI mxReadMark : Nat)
  | locked (mxI mxReadMark : Nat)
  | noted (mxI mxReadMark : Nat)

/-- The mark whose lock is held in a step, with others. -/
def ReadStep.holds : ReadStep → Option Nat
  | .bypassed => some 0
  | .locked mxI _ | .noted mxI _ => some mxI
  | _ => none

inductive CheckpointMode where
  | PASSIVE
  | FULL
  | RESTART
  | TRUNCATE
  deriving DecidableEq

/-- Where a connection is in a checkpoint. -/
inductive CheckpointStep where
  | header
  | mark (i mxSafeFrame : Nat)
  | store (i mxSafeFrame y : Nat)
  | iterate (mxSafeFrame : Nat)
  | wait (mxSafeFrame : Nat) (pIter : WalIterator)
  | copy (mxSafeFrame nBackfill : Nat) (pIter : WalIterator)
  | finish

inductive Activity where
  | rest
  | reading (useWal : Bool) (step : ReadStep)
  | checkpointing (eMode : CheckpointMode) (step : CheckpointStep)

/-- A connection, with the points that the pager has noted for its savepoints, the
newest first. -/
structure Connection where
  hdr : WalIndexHdr
  minFrame : Nat
  nCkpt : Nat
  readLock : Option Nat
  writeLock : Bool
  aSavepoint : List (Nat × Nat)
  activity : Activity

/-- What connections share: the index, the log, the marks of the readers, where a mark
that is not used is none, the database, and the locks, which they hold. -/
structure World (n : Nat) (D : Type) where
  apWiData : Nat → WalIndexPage
  frames : Nat → D
  live : WalIndexHdr
  nBackfill : Nat
  aReadMark : Nat → Option Nat
  database : Nat → D
  conns : Fin n → Connection

namespace Connection

/-- Whether a connection holds the lock of a mark with others. -/
def shares (pWal : Connection) (i : Nat) : Bool :=
  pWal.readLock == some i ||
    match pWal.activity with
    | .reading _ step => step.holds == some i
    | _ => false

/-- Whether a connection holds the lock of a mark alone, for longer than one step. -/
def excludes (pWal : Connection) (i : Nat) : Bool :=
  match pWal.activity with
  | .checkpointing _ (.copy ..) => i == 0
  | _ => false

def checkpoints (pWal : Connection) : Bool :=
  match pWal.activity with
  | .checkpointing .. => true
  | _ => false

def rests (pWal : Connection) : Bool :=
  match pWal.activity with
  | .rest => true
  | _ => false

def snapshot (pWal : Connection) : Snapshot :=
  { mxFrame := pWal.hdr.mxFrame, minFrame := pWal.minFrame, ignored := pWal.readLock == some 0 }

/-- What is read before it is locked has changed. -/
def retry (pWal : Connection) (useWal : Bool) : Connection :=
  { pWal with activity := if useWal then .reading true (.scan 1 0 0) else .rest }

end Connection

variable {n : Nat} {D : Type}

namespace World

def set (w : World n D) (c : Fin n) (pWal : Connection) : World n D :=
  { w with conns := Function.update w.conns c pWal }

def proceed (w : World n D) (c : Fin n) (activity : Activity) : World n D :=
  w.set c { w.conns c with activity := activity }

@[simp] theorem set_conns_self (w : World n D) (c : Fin n) (pWal : Connection) : (w.set c pWal).conns c = pWal :=
  Function.update_self ..

theorem set_conns_of_ne (w : World n D) {c d : Fin n} (differs : d ≠ c) (pWal : Connection) :
    (w.set c pWal).conns d = w.conns d :=
  Function.update_of_ne differs ..

@[simp] theorem proceed_conns_self (w : World n D) (c : Fin n) (activity : Activity) :
    (w.proceed c activity).conns c = { w.conns c with activity := activity } :=
  Function.update_self ..

@[simp] theorem proceed_proceed (w : World n D) (c : Fin n) (first second : Activity) :
    (w.proceed c first).proceed c second = w.proceed c second := by
  rw [proceed, set, proceed_conns_self, proceed, set, Function.update_idem]
  rfl

def walLockShared (w : World n D) (c : Fin n) (i : Nat) : Bool := decide (∀ d, d ≠ c → (w.conns d).excludes i = false)

def walLockExclusive (w : World n D) (c : Fin n) (i : Nat) : Bool :=
  decide (∀ d, d ≠ c → (w.conns d).shares i = false ∧ (w.conns d).excludes i = false)

/-- The locks of all marks but the first. -/
def walLockMarks (w : World n D) (c : Fin n) : Bool :=
  (List.range (WAL_NREADER - 1)).all fun i => w.walLockExclusive c (i + 1)

def walOf (w : World n D) (c : Fin n) : Wal D where
  apWiData := w.apWiData
  frames := w.frames
  live := w.live
  hdr := (w.conns c).hdr
  minFrame := (w.conns c).minFrame
  nCkpt := (w.conns c).nCkpt

def withWal (w : World n D) (c : Fin n) (pWal : Wal D) : World n D :=
  { w with
    apWiData := pWal.apWiData, frames := pWal.frames, live := pWal.live
    conns :=
      Function.update w.conns c { w.conns c with hdr := pWal.hdr, minFrame := pWal.minFrame, nCkpt := pWal.nCkpt } }

/-- The content of a database page for a connection that reads. -/
def readDbPage (w : World n D) (c : Fin n) (maps : Nat → Nat) (pgno : Nat) : Nat × Option D :=
  let (rc, iFrame) := walFindFrame maps w.apWiData (w.conns c).snapshot pgno
  if rc ≠ SQLITE_OK then (rc, none)
  else (SQLITE_OK, some (if iFrame ≠ 0 then w.frames iFrame else w.database pgno))

section Reading

/-- The next step of the begin of a read transaction, or its failure. -/
def walTryBeginRead (w : World n D) (c : Fin n) (useWal : Bool) (fails : Bool) : ReadStep → World n D
  | .header =>
    if useWal = false ∧ w.nBackfill = (w.conns c).hdr.mxFrame then w.proceed c (.reading useWal .bypass)
    else w.proceed c (.reading useWal (.scan 1 0 0))
  | .bypass =>
    if fails then w.proceed c .rest
    else if w.walLockShared c 0 then w.proceed c (.reading useWal .bypassed)
    else w.proceed c (.reading useWal (.scan 1 0 0))
  | .bypassed =>
    if w.live ≠ (w.conns c).hdr then w.set c ((w.conns c).retry useWal)
    else w.set c { w.conns c with readLock := some 0, activity := .rest }
  | .scan i mxI mxReadMark =>
    if fails then w.proceed c .rest
    else if i < WAL_NREADER then
      match w.aReadMark i with
      | some thisMark =>
        if mxReadMark ≤ thisMark ∧ thisMark ≤ (w.conns c).hdr.mxFrame then
          w.proceed c (.reading useWal (.scan (i + 1) i thisMark))
        else w.proceed c (.reading useWal (.scan (i + 1) mxI mxReadMark))
      | none => w.proceed c (.reading useWal (.scan (i + 1) mxI mxReadMark))
    else if mxReadMark < (w.conns c).hdr.mxFrame ∨ mxI = 0 then
      w.proceed c (.reading useWal (.mark 1 mxI mxReadMark))
    else w.proceed c (.reading useWal (.lock mxI mxReadMark))
  | .mark i mxI mxReadMark =>
    if fails then w.proceed c .rest
    else if i < WAL_NREADER then
      if w.walLockExclusive c i then
        { w with aReadMark := Function.update w.aReadMark i (some (w.conns c).hdr.mxFrame) }.proceed c
          (.reading useWal (.lock i (w.conns c).hdr.mxFrame))
      else w.proceed c (.reading useWal (.mark (i + 1) mxI mxReadMark))
    else if mxI = 0 then w.set c ((w.conns c).retry useWal)
    else w.proceed c (.reading useWal (.lock mxI mxReadMark))
  | .lock mxI mxReadMark =>
    if fails then w.proceed c .rest
    else if w.walLockShared c mxI then w.proceed c (.reading useWal (.locked mxI mxReadMark))
    else w.set c ((w.conns c).retry useWal)
  | .locked mxI mxReadMark =>
    w.set c { w.conns c with minFrame := w.nBackfill + 1, activity := .reading useWal (.noted mxI mxReadMark) }
  | .noted mxI mxReadMark =>
    if w.aReadMark mxI ≠ some mxReadMark ∨ w.live ≠ (w.conns c).hdr then w.set c ((w.conns c).retry useWal)
    else w.set c { w.conns c with readLock := some mxI, activity := .rest }

end Reading

section Restarting

def walRestartHdr (w : World n D) (c : Fin n) : World n D :=
  { w.withWal c (SQLite.walRestartHdr (w.walOf c)) with
    nBackfill := 0, aReadMark := fun i => if i ≤ 1 then some 0 else none }

/-- Before the first frames of a transaction: if the connection reads the database only,
the log may be written from its start, and is read from then on. -/
def walRestartLog (w : World n D) (c : Fin n) : World n D :=
  let w := if 0 < w.nBackfill ∧ w.walLockMarks c = true then w.walRestartHdr c else w
  w.set c { w.conns c with readLock := none, activity := .reading true (.scan 1 0 0) }

end Restarting

section Checkpointing

/-- The end of a checkpoint. -/
def release (w : World n D) (c : Fin n) : World n D :=
  w.set c { w.conns c with writeLock := false, aSavepoint := [], activity := .rest }

@[simp] theorem release_proceed (w : World n D) (c : Fin n) (activity : Activity) :
    (w.proceed c activity).release c = w.release c := by
  rw [release, set, proceed_conns_self, proceed, set, Function.update_idem]
  rfl

/-- The next step of a checkpoint. If it fails, a page of the database that is written
may have other contents. No page of the log is past the end of a database that never
shrinks, so none is left out and nothing is cut off. -/
def walCheckpoint (w : World n D) (c : Fin n) (eMode : CheckpointMode) (granted : Bool) (maps : Nat → Nat)
    (failed : Option D) : CheckpointStep → World n D
  | .header =>
    if w.nBackfill < (w.conns c).hdr.mxFrame then w.proceed c (.checkpointing eMode (.mark 1 (w.conns c).hdr.mxFrame))
    else w.proceed c (.checkpointing eMode .finish)
  | .mark i mxSafeFrame =>
    if i < WAL_NREADER then
      match w.aReadMark i with
      | some y =>
        if y < mxSafeFrame then w.proceed c (.checkpointing eMode (.store i mxSafeFrame y))
        else w.proceed c (.checkpointing eMode (.mark (i + 1) mxSafeFrame))
      | none => w.proceed c (.checkpointing eMode (.mark (i + 1) mxSafeFrame))
    else w.proceed c (.checkpointing eMode (.iterate mxSafeFrame))
  | .store i mxSafeFrame y =>
    if failed.isSome then w.release c
    else if w.walLockExclusive c i then
      { w with aReadMark := Function.update w.aReadMark i (if i = 1 then some mxSafeFrame else none) }.proceed c
        (.checkpointing eMode (.mark (i + 1) mxSafeFrame))
    else w.proceed c (.checkpointing eMode (.mark (i + 1) y))
  | .iterate mxSafeFrame =>
    if w.nBackfill < mxSafeFrame then
      match walIteratorInit granted maps w.apWiData (w.conns c).hdr.mxFrame w.nBackfill with
      | (_, some pIter) => w.proceed c (.checkpointing eMode (.wait mxSafeFrame pIter))
      | (_, none) => w.release c
    else w.proceed c (.checkpointing eMode .finish)
  | .wait mxSafeFrame pIter =>
    if failed.isSome then w.release c
    else if w.walLockExclusive c 0 then w.proceed c (.checkpointing eMode (.copy mxSafeFrame w.nBackfill pIter))
    else w.proceed c (.checkpointing eMode .finish)
  | .copy mxSafeFrame nBackfill pIter =>
    match walIteratorNext w.apWiData pIter with
    | none =>
      if failed.isSome then w.release c
      else { w with nBackfill := mxSafeFrame }.proceed c (.checkpointing eMode .finish)
    | some (iDbpage, iFrame, pIter) =>
      if iFrame ≤ nBackfill ∨ mxSafeFrame < iFrame then
        if failed.isSome then w.release c else w.proceed c (.checkpointing eMode (.copy mxSafeFrame nBackfill pIter))
      else
        match failed with
        | some torn => { w with database := Function.update w.database iDbpage torn }.release c
        | none =>
          { w with database := Function.update w.database iDbpage (w.frames iFrame) }.proceed c
            (.checkpointing eMode (.copy mxSafeFrame nBackfill pIter))
  | .finish =>
    if eMode = .TRUNCATE ∧ (w.conns c).hdr.mxFrame ≤ w.nBackfill ∧ w.walLockMarks c = true then
      (w.walRestartHdr c).release c
    else w.release c

end Checkpointing

end World

/-- What a connection may do next, with what the system answers. -/
inductive Event (D : Type) where
  | beginRead
  | next (fails : Bool)
  | endRead
  | beginWrite
  | restartLog
  | savepoint
  | frames (answers : Answers D) (pList : List (Nat × D)) (isCommit : Bool) (nExtra : Nat)
  | undo
  | savepointUndo (iSavepoint : Nat)
  | endWrite
  | checkpoint (eMode : CheckpointMode)
  | work (granted : Bool) (maps : Nat → Nat) (failed : Option D)
  | crash

def Event.crashes {D : Type} : Event D → Bool
  | .crash => true
  | _ => false

namespace World

/-- The header of the index is written and read whole. -/
def sqlite3WalBeginReadTransaction (w : World n D) (c : Fin n) : World n D :=
  w.set c { w.conns c with hdr := w.live, activity := .reading false .header }

def sqlite3WalEndReadTransaction (w : World n D) (c : Fin n) : World n D :=
  w.set c { w.conns c with readLock := none, writeLock := false, aSavepoint := [] }

/-- If the database was written to since the connection began to read, it may not write. -/
def sqlite3WalBeginWriteTransaction (w : World n D) (c : Fin n) : World n D :=
  if (∃ d, d ≠ c ∧ (w.conns d).writeLock = true) ∨ (w.conns c).hdr ≠ w.live then w
  else w.set c { w.conns c with writeLock := true }

def sqlite3WalEndWriteTransaction (w : World n D) (c : Fin n) : World n D :=
  w.set c { w.conns c with writeLock := false, aSavepoint := [] }

def sqlite3WalFrames (w : World n D) (c : Fin n) (answers : Answers D) (pList : List (Nat × D)) (isCommit : Bool)
    (nExtra : Nat) : World n D :=
  let (rc, pWal) := walFrames answers (w.walOf c) pList isCommit nExtra
  let w := w.withWal c pWal
  if rc = SQLITE_OK ∧ isCommit = true then w.set c { w.conns c with aSavepoint := [] } else w

def openSavepoint (w : World n D) (c : Fin n) : World n D :=
  w.set c { w.conns c with aSavepoint := sqlite3WalSavepoint (w.walOf c) :: (w.conns c).aSavepoint }

def walUndo (w : World n D) (c : Fin n) : World n D :=
  let w := w.withWal c (sqlite3WalUndo (w.walOf c)).2
  w.set c { w.conns c with aSavepoint := [] }

/-- The savepoints that are newer than the one that the connection goes back to are
closed. -/
def walSavepointUndo (w : World n D) (c : Fin n) (iSavepoint : Nat) : World n D :=
  match (w.conns c).aSavepoint.drop iSavepoint with
  | [] => w
  | aWalData :: older =>
    let (aWalData, pWal) := sqlite3WalSavepointUndo (w.walOf c) aWalData
    let w := w.withWal c pWal
    w.set c { w.conns c with aSavepoint := aWalData :: older }

/-- The process of a connection ends, and all its locks are free. The index stays as
long as another connection has it open. -/
def crash (w : World n D) (c : Fin n) : World n D :=
  w.set c { w.conns c with readLock := none, writeLock := false, aSavepoint := [], activity := .rest }

/-- Only one connection checkpoints at a time. One that cannot have the write lock does
what it can without. -/
def sqlite3WalCheckpoint (w : World n D) (c : Fin n) (eMode : CheckpointMode) : World n D :=
  if ∃ d, d ≠ c ∧ (w.conns d).checkpoints = true then w
  else
    let writeLock := decide (eMode ≠ .PASSIVE ∧ ∀ d, d ≠ c → (w.conns d).writeLock = false)
    w.set c
      { w.conns c with
        hdr := w.live, writeLock := writeLock
        activity := .checkpointing (if writeLock then eMode else .PASSIVE) .header }

/-- A step of a connection, where it may take it. -/
def step (w : World n D) (c : Fin n) : Event D → Option (World n D)
  | .beginRead =>
    if (w.conns c).rests ∧ (w.conns c).readLock = none ∧ (w.conns c).writeLock = false then
      some (w.sqlite3WalBeginReadTransaction c)
    else none
  | .next fails =>
    match (w.conns c).activity with
    | .reading useWal step => some (w.walTryBeginRead c useWal fails step)
    | _ => none
  | .endRead => if (w.conns c).rests then some (w.sqlite3WalEndReadTransaction c) else none
  | .beginWrite =>
    if (w.conns c).rests ∧ (w.conns c).readLock ≠ none ∧ (w.conns c).writeLock = false then
      some (w.sqlite3WalBeginWriteTransaction c)
    else none
  | .restartLog =>
    if (w.conns c).rests ∧ (w.conns c).writeLock = true ∧ (w.conns c).readLock = some 0 then some (w.walRestartLog c)
    else none
  | .savepoint =>
    if (w.conns c).rests ∧ (w.conns c).writeLock = true ∧ (w.conns c).readLock ≠ none then some (w.openSavepoint c)
    else none
  | .frames answers pList isCommit nExtra =>
    if (w.conns c).rests ∧ (w.conns c).writeLock = true ∧ (w.conns c).readLock ≠ none ∧ (w.conns c).readLock ≠ some 0 ∧
        ∀ p ∈ pList, p.1 ≠ 0 then
      some (w.sqlite3WalFrames c answers pList isCommit nExtra)
    else none
  | .undo => if (w.conns c).rests ∧ (w.conns c).writeLock = true then some (w.walUndo c) else none
  | .savepointUndo iSavepoint =>
    if (w.conns c).rests ∧ (w.conns c).writeLock = true then some (w.walSavepointUndo c iSavepoint) else none
  -- The frames that were written are committed, or the connection has gone back.
  | .endWrite =>
    if (w.conns c).rests ∧ (w.conns c).writeLock = true ∧ (w.conns c).hdr = w.live then
      some (w.sqlite3WalEndWriteTransaction c)
    else none
  | .checkpoint eMode =>
    if (w.conns c).rests ∧ (w.conns c).readLock = none ∧ (w.conns c).writeLock = false then
      some (w.sqlite3WalCheckpoint c eMode)
    else none
  | .work granted maps failed =>
    match (w.conns c).activity with
    | .checkpointing eMode step => some (w.walCheckpoint c eMode granted maps failed step)
    | _ => none
  | .crash => some (w.crash c)

end World

end SignalPods.SQLite
