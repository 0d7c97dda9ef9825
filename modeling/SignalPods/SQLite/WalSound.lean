import SignalPods.SQLite.WalIteration
import SignalPods.SQLite.WalLog
import SignalPods.SQLite.WalProtocol

namespace SignalPods.SQLite

variable {n : Nat} {D : Type}

section Values

variable {base : Nat → D} {log log' : List (Nat × D)} {pgno low high : Nat}

/-- The database page of a frame of a log. -/
def number (log : List (Nat × D)) (f : Nat) : Nat := (log.map Prod.fst).getD (f - 1) 0

/-- The content of a page after so many frames. -/
def valueAt (base : Nat → D) (log : List (Nat × D)) (mxFrame pgno : Nat) : D :=
  (latest (log.take mxFrame) pgno).getD (base pgno)

theorem number_of_take (same : log'.take high = log.take high) {f : Nat} (positive : 0 < f) (within : f ≤ high) :
    number log' f = number log f := by
  have first (xs : List (Nat × D)) : number xs f = ((xs.take high).map Prod.fst).getD (f - 1) 0 := by
    rw [number, List.map_take, List.getD_eq_getElem?_getD, List.getD_eq_getElem?_getD,
      List.getElem?_take_of_lt (by omega)]
  rw [first, first, same]

theorem valueAt_of_take (same : log'.take high = log.take high) (less : low ≤ high) :
    valueAt base log' low pgno = valueAt base log low pgno := by
  have shorter := congrArg (List.take low) same
  rw [List.take_take, List.take_take, Nat.min_eq_left less] at shorter
  rw [valueAt, valueAt, shorter]

/-- The content of a page is the same before frames of other pages. -/
theorem valueAt_eq (less : low ≤ high) (absent : ∀ f, low < f → f ≤ high → number log f ≠ pgno) :
    valueAt base log high pgno = valueAt base log low pgno := by
  have split : log.take high = log.take low ++ (log.take high).drop low := by
    have whole := List.take_append_drop low (log.take high)
    rw [List.take_take, Nat.min_eq_left less] at whole
    exact whole.symm
  have none_after : latest ((log.take high).drop low) pgno = none := by
    refine latest_eq_none fun p member found => ?_
    obtain ⟨i, inside, here⟩ := List.getElem_of_mem member
    rw [List.length_drop, List.length_take] at inside
    rw [List.getElem_drop, List.getElem_take] at here
    refine absent (low + i + 1) (by omega) (by omega) ?_
    rw [number, Nat.add_sub_cancel, List.getD_eq_getElem _ _ (by rw [List.length_map]; omega), List.getElem_map,
      here, found]
  rw [valueAt, split, latest_append, none_after]
  rfl

/-- The content of a page in the last of its frames. -/
theorem valueAt_frame {frames : Nat → D} (content : Contents frames log) {f : Nat} (positive : 0 < f)
    (within : f ≤ high) (inside : high ≤ log.length) (last : ∀ g, f < g → g ≤ high → number log g ≠ number log f) :
    valueAt base log high (number log f) = frames f := by
  have less : f - 1 < log.length := by omega
  have here : number log f = log[f - 1].1 := by
    rw [number, List.getD_eq_getElem _ _ (by rw [List.length_map]; omega), List.getElem_map]
  have kept : frames f = log[f - 1].2 := by
    have found := content (f - 1) log[f - 1] (List.getElem?_eq_getElem less)
    rwa [Nat.sub_add_cancel positive] at found
  rw [valueAt_eq within last, valueAt, ← Nat.sub_add_cancel positive, List.take_succ_eq_append_getElem less,
    latest_append, Nat.sub_add_cancel positive, here, kept]
  rw [show [log[f - 1]] = [(log[f - 1].1, log[f - 1].2)] from rfl, latest_singleton, if_pos rfl]
  rfl

end Values

section Invariant

variable (base : Nat → D) (log : List (Nat × D)) (w : World n D)

/-- Up to which frame a connection reads what is committed. -/
def floor (live : WalIndexHdr) (pWal : Connection) : Nat := min pWal.hdr.mxFrame live.mxFrame

/-- A page that has no frame from the first that is read to the last is in the database
as it was after the last. -/
def Covers (low high : Nat) : Prop :=
  ∀ pgno, (∀ f, 0 < f → low ≤ f → f ≤ high → number log f ≠ pgno) → w.database pgno = valueAt base log high pgno

/-- The log as the connection has it that writes to it. -/
def ownWal : Wal D where
  apWiData := w.apWiData
  frames := w.frames
  live := w.live
  hdr := { w.live with mxFrame := log.length }
  minFrame := 0
  nCkpt := 0

/-- The numbers that a connection has noted in the begin of a read transaction. -/
def Begins (pWal : Connection) : ReadStep → Prop
  | .header => True
  | .bypass | .bypassed => pWal.hdr = w.live → w.nBackfill = w.live.mxFrame
  | .scan i mxI mxReadMark | .mark i mxI mxReadMark => 0 < i ∧ mxI < WAL_NREADER ∧ mxReadMark ≤ pWal.hdr.mxFrame
  | .lock mxI mxReadMark | .locked mxI mxReadMark => 0 < mxI ∧ mxI < WAL_NREADER ∧ mxReadMark ≤ pWal.hdr.mxFrame
  | .noted mxI mxReadMark =>
    (0 < mxI ∧ mxI < WAL_NREADER ∧ mxReadMark ≤ pWal.hdr.mxFrame) ∧ pWal.minFrame ≤ w.nBackfill + 1

/-- The frames up to one that is safe are not all in the database yet, and none of them
was overwritten. -/
def Begun (pWal : Connection) (mxSafeFrame : Nat) : Prop :=
  pWal.hdr.mxFrame ≤ w.live.mxFrame ∧ w.nBackfill < pWal.hdr.mxFrame ∧ mxSafeFrame ≤ pWal.hdr.mxFrame

/-- What a checkpoint knows of its frames, and has written of them. -/
def Checkpoints (pWal : Connection) : CheckpointStep → Prop
  | .header | .finish => True
  | .mark i mxSafeFrame => Begun w pWal mxSafeFrame ∧ 0 < i
  | .store i mxSafeFrame y => Begun w pWal mxSafeFrame ∧ 0 < i ∧ i < WAL_NREADER ∧ y < mxSafeFrame
  | .iterate mxSafeFrame => Begun w pWal mxSafeFrame
  | .wait mxSafeFrame pIter =>
    Begun w pWal mxSafeFrame ∧ w.nBackfill < mxSafeFrame ∧ pIter.iPrior = 0 ∧
      Segments w.apWiData pWal.hdr.mxFrame 0 (walFramePage (w.nBackfill + 1)) pIter.aSegment
  | .copy mxSafeFrame nBackfill pIter =>
    Begun w pWal mxSafeFrame ∧ nBackfill = w.nBackfill ∧ w.nBackfill < mxSafeFrame ∧
      Segments w.apWiData pWal.hdr.mxFrame pIter.iPrior (walFramePage (w.nBackfill + 1)) pIter.aSegment ∧
      ∀ f, w.nBackfill < f → f ≤ mxSafeFrame → number log f ≤ pIter.iPrior →
        (∀ g, f < g → g ≤ pWal.hdr.mxFrame → number log g ≠ number log f) → w.database (number log f) = w.frames f

/-- What holds of one connection. -/
structure Fits (pWal : Connection) : Prop where
  salt : pWal.hdr.aSalt ≤ w.live.aSalt
  change : pWal.hdr.iChange ≤ w.live.iChange
  rests : pWal.readLock ≠ none → pWal.activity = .rest
  older : pWal.readLock ≠ none ∨ pWal.activity ≠ .rest → pWal.writeLock = false → pWal.hdr.aSalt = w.live.aSalt →
    pWal.hdr.mxFrame ≤ w.live.mxFrame
  writer : pWal.writeLock = true → pWal.hdr = { w.live with mxFrame := log.length } ∧
    ((∀ i, i ≠ 0 → pWal.readLock ≠ some i) → log.length = w.live.mxFrame)
  savepoints : ∀ p ∈ pWal.aSavepoint, pWal.writeLock = true ∧ p.2 ≤ pWal.nCkpt ∧
    (p.2 = pWal.nCkpt → w.live.mxFrame ≤ p.1) ∧ (p.2 ≠ pWal.nCkpt → w.live.mxFrame = 0)
  ignores : pWal.readLock = some 0 → pWal.hdr = w.live → w.nBackfill = w.live.mxFrame
  reader : ∀ i, i ≠ 0 → pWal.readLock = some i → i < WAL_NREADER ∧ pWal.hdr.aSalt = w.live.aSalt ∧
    pWal.minFrame ≤ w.nBackfill + 1 ∧ (∃ m, w.aReadMark i = some m ∧ m ≤ floor w.live pWal) ∧
    Covers base log w pWal.minFrame (floor w.live pWal)
  begins : ∀ useWal step, pWal.activity = .reading useWal step → Begins w pWal step
  checkpoints : ∀ eMode step, pWal.activity = .checkpointing eMode step →
    (eMode ≠ .PASSIVE → pWal.writeLock = true) ∧ Checkpoints log w pWal step

/-- The frames that a checkpoint takes as safe, for a reader that has the lock of a mark. -/
def Safe (activity : Activity) (i floor : Nat) : Prop :=
  match activity with
  | .checkpointing _ (.mark j mxSafeFrame) => i < j → mxSafeFrame ≤ floor
  | .checkpointing _ (.store j mxSafeFrame y) => (i < j → mxSafeFrame ≤ floor) ∧ (i = j → y ≤ floor)
  | .checkpointing _ (.iterate mxSafeFrame) => mxSafeFrame ≤ floor
  | .checkpointing _ (.wait mxSafeFrame _) => mxSafeFrame ≤ floor
  | .checkpointing _ (.copy mxSafeFrame _ _) => mxSafeFrame ≤ floor
  | _ => True

/-- What holds of two connections. -/
structure Compatible (live : WalIndexHdr) (pWal other : Connection) : Prop where
  writers : pWal.writeLock = true → other.writeLock = false
  checkpointers : pWal.checkpoints = true → other.checkpoints = false
  locks : ∀ i, pWal.excludes i = true → other.shares i = false
  safe : ∀ i, i ≠ 0 → other.readLock = some i → Safe pWal.activity i (floor live other)

/-- The invariant of a world: its log, and the database as it was when the log was
begun. -/
structure Sound : Prop where
  logged : Logged log (ownWal log w)
  backfilled : w.nBackfill ≤ w.live.mxFrame
  fresh : Covers base log w (w.nBackfill + 1) w.live.mxFrame
  quiet : (∀ c, (w.conns c).writeLock = false) → log.length = w.live.mxFrame
  fits : ∀ c, Fits base log w (w.conns c)
  compatible : ∀ c d, c ≠ d → Compatible w.live (w.conns c) (w.conns d)

end Invariant

section Moving

variable {base : Nat → D} {log : List (Nat × D)} {w : World n D} {c : Fin n} {pWal pWal' other : Connection}

theorem Safe.mono {activity : Activity} {i low high : Nat} (safe : Safe activity i low) (less : low ≤ high) :
    Safe activity i high := by
  cases activity with
  | rest => trivial
  | reading => trivial
  | checkpointing eMode step =>
    cases step with
    | header => trivial
    | finish => trivial
    | mark => exact fun before => (safe before).trans less
    | store => exact ⟨fun before => (safe.1 before).trans less, fun here => (safe.2 here).trans less⟩
    | iterate => exact le_trans safe less
    | wait => exact le_trans safe less
    | copy => exact le_trans safe less

/-- A connection that has no more locks than before, and knows no more to be safe. -/
structure Weaker (pWal pWal' : Connection) : Prop where
  writeLock : pWal'.writeLock = pWal.writeLock
  checkpoints : pWal'.checkpoints = true → pWal.checkpoints = true
  excludes : ∀ i, pWal'.excludes i = true → pWal.excludes i = true
  shares : ∀ i, pWal'.shares i = true → pWal.shares i = true
  safe : ∀ i floor, Safe pWal.activity i floor → Safe pWal'.activity i floor
  readLock : ∀ i, i ≠ 0 → pWal'.readLock = some i → pWal.readLock = some i ∧ pWal'.hdr = pWal.hdr

theorem Compatible.left {live : WalIndexHdr} (compatible : Compatible live pWal other) (weaker : Weaker pWal pWal') :
    Compatible live pWal' other where
  writers locked := compatible.writers (weaker.writeLock ▸ locked)
  checkpointers busy := compatible.checkpointers (weaker.checkpoints busy)
  locks i held := compatible.locks i (weaker.excludes i held)
  safe i nonzero held := weaker.safe i _ (compatible.safe i nonzero held)

theorem Compatible.right {live : WalIndexHdr} (compatible : Compatible live other pWal) (weaker : Weaker pWal pWal') :
    Compatible live other pWal' where
  writers locked := weaker.writeLock ▸ compatible.writers locked
  checkpointers busy := Bool.eq_false_iff.mpr fun busy' =>
    Bool.eq_false_iff.mp (compatible.checkpointers busy) (weaker.checkpoints busy')
  locks i held := Bool.eq_false_iff.mpr fun shared => Bool.eq_false_iff.mp (compatible.locks i held)
    (weaker.shares i shared)
  safe i nonzero held := by
    obtain ⟨held, same⟩ := weaker.readLock i nonzero held
    rw [floor, same]
    exact compatible.safe i nonzero held

/-- One connection changes, and nothing that is shared. -/
theorem Sound.put (sound : Sound base log w) (fits : Fits base log w pWal')
    (left : ∀ d, d ≠ c → Compatible w.live pWal' (w.conns d)) (right : ∀ d, d ≠ c → Compatible w.live (w.conns d) pWal')
    (quiet : pWal'.writeLock = false → (w.conns c).writeLock = true → log.length = w.live.mxFrame) :
    Sound base log (w.set c pWal') := by
  have here := w.set_conns_self c pWal'
  have there (d : Fin n) (differs : d ≠ c) := w.set_conns_of_ne differs pWal'
  refine ⟨sound.logged, sound.backfilled, sound.fresh, fun unlocked => ?_, fun d => ?_, fun d e differs => ?_⟩
  · have free := unlocked c
    rw [here] at free
    cases locked : (w.conns c).writeLock with
    | true => exact quiet free locked
    | false =>
      refine sound.quiet fun d => ?_
      by_cases same : d = c
      · rw [same, locked]
      · rw [← there d same]
        exact unlocked d
  · by_cases same : d = c
    · rw [same, here]
      exact ⟨fits.1, fits.2, fits.3, fits.4, fits.5, fits.6, fits.7, fits.8, fits.9, fits.10⟩
    · rw [there d same]
      have fits := sound.fits d
      exact ⟨fits.1, fits.2, fits.3, fits.4, fits.5, fits.6, fits.7, fits.8, fits.9, fits.10⟩
  · by_cases first : d = c
    · rw [first, here, there e (fun same => differs (first.trans same.symm))]
      exact left e fun same => differs (first.trans same.symm)
    · rw [there d first]
      by_cases second : e = c
      · rw [second, here]
        exact right d first
      · rw [there e second]
        exact sound.compatible d e differs

theorem Sound.move (sound : Sound base log w) (fits : Fits base log w pWal') (weaker : Weaker (w.conns c) pWal') :
    Sound base log (w.set c pWal') := by
  refine sound.put fits (fun d differs => ?_) (fun d differs => ?_) fun unlocked locked => ?_
  · exact (sound.compatible c d differs.symm).left weaker
  · exact (sound.compatible d c differs).right weaker
  · rw [weaker.writeLock, locked] at unlocked
    cases unlocked

/-- A connection that holds no read lock goes on. -/
theorem Fits.proceed (fits : Fits base log w pWal) (unlocked : pWal.readLock = none) (busy : pWal.activity ≠ .rest)
    {activity : Activity} (begins : ∀ useWal step, activity = .reading useWal step → Begins w pWal step)
    (checkpoints : ∀ eMode step, activity = .checkpointing eMode step →
      (eMode ≠ .PASSIVE → pWal.writeLock = true) ∧ Checkpoints log w pWal step) :
    Fits base log w { pWal with activity := activity } where
  salt := fits.salt
  change := fits.change
  rests held := absurd unlocked held
  older _ := fits.older (Or.inr busy)
  writer := fits.writer
  savepoints := fits.savepoints
  ignores := fits.ignores
  reader i nonzero held := by
    have held : pWal.readLock = some i := held
    rw [unlocked] at held
    cases held
  begins useWal step here := by
    have begun := begins useWal step here
    cases step <;> exact begun
  checkpoints eMode step here := by
    obtain ⟨mode, known⟩ := checkpoints eMode step here
    refine ⟨mode, ?_⟩
    cases step <;> exact known

theorem Fits.unlocked (fits : Fits base log w pWal) (busy : pWal.activity ≠ .rest) : pWal.readLock = none := by
  by_contra held
  exact busy (fits.rests held)

end Moving

section Extending

variable {base : Nat → D} {log log' : List (Nat × D)} {w w' : World n D} {c : Fin n} {pWal other : Connection}

/-- Only the log changed, after what is committed, and more of it may be committed. -/
structure Extends (log : List (Nat × D)) (w : World n D) (log' : List (Nat × D)) (w' : World n D) : Prop where
  before : Logged log (ownWal log w)
  after : Logged log' (ownWal log' w')
  kept : log'.take w.live.mxFrame = log.take w.live.mxFrame
  grows : w.live.mxFrame ≤ w'.live.mxFrame
  salt : w'.live.aSalt = w.live.aSalt
  live : w'.live = w.live ∨ w.live.iChange < w'.live.iChange
  nBackfill : w'.nBackfill = w.nBackfill
  aReadMark : w'.aReadMark = w.aReadMark
  database : w'.database = w.database

theorem Covers.extends {low high high' : Nat} (covers : Covers base log w low high)
    (kept : log'.take high = log.take high)
    (grows : high ≤ high') (reaches : low ≤ high + 1) (database : w'.database = w.database) :
    Covers base log' w' low high' := by
  intro pgno absent
  rw [database, covers pgno fun f positive above within => ?_]
  · rw [valueAt_eq grows fun f later within => absent f (by omega) (by omega) within, valueAt_of_take kept le_rfl]
  · rw [← number_of_take kept positive within]
    exact absent f positive above (within.trans grows)

theorem Covers.lower {low lower high : Nat} (covers : Covers base log w low high) (less : lower ≤ low) :
    Covers base log w lower high :=
  fun pgno absent => covers pgno fun f positive above within => absent f positive (less.trans above) within

theorem Numbered.take {apWiData : Nat → WalIndexPage} {numbers : List Nat} {mxFrame k : Nat}
    (numbered : Numbered apWiData numbers mxFrame) (less : mxFrame ≤ k) : Numbered apWiData
      (numbers.take k) mxFrame := by
  intro iHash idx inside
  rw [numbered iHash idx inside, List.getD_eq_getElem?_getD, List.getD_eq_getElem?_getD, List.getElem?_take_of_lt]
  rw [entries] at inside
  omega

theorem Logged.numbered (logged : Logged log (ownWal log w)) {mxFrame : Nat} (within : mxFrame ≤ w.live.mxFrame) :
    Numbered w.apWiData ((log.take w.live.mxFrame).map Prod.fst) mxFrame := by
  rw [List.map_take]
  refine (logged.index.numbered ?_).take within
  rw [List.length_map]
  exact within.trans logged.committed

theorem Extends.frames (extends_ : Extends log w log' w') {f : Nat} (positive : 0 < f) (within : f ≤ w.live.mxFrame) :
    w'.frames f = w.frames f := by
  have inside : f - 1 < log.length := by
    have committed : w.live.mxFrame ≤ log.length := extends_.before.committed
    omega
  have first (xs : List (Nat × D)) : xs[f - 1]? = (xs.take w.live.mxFrame)[f - 1]? := by
    rw [List.getElem?_take_of_lt (by omega)]
  have here := List.getElem?_eq_getElem inside
  have there : log'[f - 1]? = some log[f - 1] := by rw [first, extends_.kept, ← first, here]
  have old := extends_.before.content (f - 1) _ here
  have new := extends_.after.content (f - 1) _ there
  rw [Nat.sub_add_cancel positive] at old new
  exact new.trans old.symm

theorem Begins.extends {step : ReadStep} (begins : Begins w pWal step) (extends_ : Extends log w log' w')
    (change : pWal.hdr.iChange ≤ w.live.iChange) : Begins w' pWal step := by
  have same (current : pWal.hdr = w.live → w.nBackfill = w.live.mxFrame) (here : pWal.hdr = w'.live) :
      w'.nBackfill = w'.live.mxFrame := by
    rcases extends_.live with still | later
    · rw [extends_.nBackfill, still]
      exact current (here.trans still)
    · rw [here] at change
      exact absurd change (not_le.mpr later)
  cases step with
  | bypass => exact same begins
  | bypassed => exact same begins
  | noted =>
    rw [Begins, extends_.nBackfill]
    exact begins
  | header => trivial
  | scan => exact begins
  | mark => exact begins
  | lock => exact begins
  | locked => exact begins

theorem Begun.extends {mxSafeFrame : Nat} (begun : Begun w pWal mxSafeFrame) (extends_ : Extends log w log' w') :
    Begun w' pWal mxSafeFrame :=
  ⟨begun.1.trans extends_.grows, extends_.nBackfill.symm ▸ begun.2.1, begun.2.2⟩

theorem Checkpoints.extends {step : CheckpointStep} (checkpoints : Checkpoints log w pWal step)
    (extends_ : Extends log w log' w') : Checkpoints log' w' pWal step := by
  have segments (iPrior iHash : Nat) (aSegment : List WalSegment) (within : pWal.hdr.mxFrame ≤ w.live.mxFrame)
      (old : Segments w.apWiData pWal.hdr.mxFrame iPrior iHash aSegment) :
      Segments w'.apWiData pWal.hdr.mxFrame iPrior iHash aSegment := by
    have before := extends_.before.numbered within
    have after := (extends_.after.numbered (within.trans extends_.grows)).take within
    rw [← List.map_take, List.take_take, Nat.min_eq_left extends_.grows, extends_.kept] at after
    exact old.congr before after
  cases step with
  | header => trivial
  | finish => trivial
  | mark => exact ⟨checkpoints.1.extends extends_, checkpoints.2⟩
  | store => exact ⟨checkpoints.1.extends extends_, checkpoints.2⟩
  | iterate => exact Begun.extends checkpoints extends_
  | wait mxSafeFrame pIter =>
    obtain ⟨begun, less, prior, state⟩ := checkpoints
    rw [Checkpoints, extends_.nBackfill]
    exact ⟨begun.extends extends_, less, prior, segments _ _ _ begun.1 state⟩
  | copy mxSafeFrame nBackfill pIter =>
    obtain ⟨begun, same, less, state, written⟩ := checkpoints
    rw [Checkpoints, extends_.nBackfill, extends_.database]
    refine ⟨begun.extends extends_, same, less, segments _ _ _ begun.1 state, fun f above within passed last => ?_⟩
    have inside : f ≤ w.live.mxFrame := (within.trans begun.2.2).trans begun.1
    have numbers (g : Nat) (positive : 0 < g) (reaches : g ≤ pWal.hdr.mxFrame) : number log' g = number log g :=
      number_of_take extends_.kept positive (reaches.trans begun.1)
    have here := numbers f (by omega) (within.trans begun.2.2)
    rw [here] at passed ⊢
    rw [extends_.frames (by omega) inside]
    refine written f above within passed fun g later reaches => ?_
    have other := last g later reaches
    rwa [numbers g (by omega) reaches, here] at other

/-- What a connection knows that does not write stays. -/
theorem Fits.extends (fits : Fits base log w pWal) (reads : pWal.writeLock = false) (extends_ : Extends log w log' w') :
    Fits base log' w' pWal where
  salt := extends_.salt ▸ fits.salt
  change := fits.change.trans (extends_.live.elim (fun same => same ▸ le_rfl) Nat.le_of_lt)
  rests := fits.rests
  older active _ same := (fits.older active reads (extends_.salt ▸ same)).trans extends_.grows
  writer locked := by rw [reads] at locked; cases locked
  savepoints p member := by have locked := (fits.savepoints p member).1; rw [reads] at locked; cases locked
  ignores held := by
    have begins : Begins w pWal .bypass := fits.ignores held
    exact begins.extends extends_ fits.change
  reader i nonzero held := by
    obtain ⟨below, salt, low, ⟨m, marked, less⟩, covers⟩ := fits.reader i nonzero held
    have old := fits.older (Or.inl (by rw [held]; simp)) reads salt
    have same : floor w.live pWal = pWal.hdr.mxFrame := Nat.min_eq_left old
    have same' : floor w'.live pWal = pWal.hdr.mxFrame := Nat.min_eq_left (old.trans extends_.grows)
    rw [same] at less covers
    rw [extends_.nBackfill, extends_.aReadMark, extends_.salt, same']
    refine ⟨below, salt, low, ⟨m, marked, less⟩, fun pgno absent => ?_⟩
    rw [extends_.database, valueAt_of_take extends_.kept old]
    refine covers pgno fun f positive above within => ?_
    rw [← number_of_take extends_.kept positive (within.trans old)]
    exact absent f positive above within
  begins useWal step here := (fits.begins useWal step here).extends extends_ fits.change
  checkpoints eMode step here := ⟨(fits.checkpoints eMode step here).1,
    (fits.checkpoints eMode step here).2.extends extends_⟩

/-- The connection that writes changes the log, and rests. -/
theorem Sound.extends (sound : Sound base log w) (extends_ : Extends log w log' w')
    (alone : ∀ d, d ≠ c → (w.conns d).writeLock = false) (conns : w'.conns = Function.update w.conns c pWal)
    (fits : Fits base log' w' pWal) (rests : pWal.activity = .rest)
    (readLock : ∀ i, pWal.readLock = some i → (w.conns c).readLock = some i ∧
      floor w.live (w.conns c) ≤ floor w'.live pWal)
    (quiet : pWal.writeLock = false → log'.length = w'.live.mxFrame) : Sound base log' w' := by
  have here : w'.conns c = pWal := by rw [conns, Function.update_self]
  have there (d : Fin n) (differs : d ≠ c) : w'.conns d = w.conns d := by rw [conns, Function.update_of_ne differs]
  have wider (other : Connection) : floor w.live other ≤ floor w'.live other :=
    min_le_min_left _ extends_.grows
  have inactive : pWal.checkpoints = false ∧ ∀ i, pWal.excludes i = false := by
    simp only [Connection.checkpoints, Connection.excludes, rests, implies_true, and_self]
  refine ⟨extends_.after, ?_, ?_, fun unlocked => ?_, fun d => ?_, fun d e differs => ?_⟩
  · rw [extends_.nBackfill]
    exact sound.backfilled.trans extends_.grows
  · rw [extends_.nBackfill]
    exact sound.fresh.extends extends_.kept extends_.grows (Nat.succ_le_succ sound.backfilled) extends_.database
  · refine quiet ?_
    rw [← here]
    exact unlocked c
  · by_cases same : d = c
    · rwa [same, here]
    · rw [there d same]
      exact (sound.fits d).extends (alone d same) extends_
  · by_cases first : d = c
    · have second : e ≠ c := fun same => differs (first.trans same.symm)
      rw [first, here, there e second]
      refine ⟨fun _ => alone e second, fun busy => ?_, fun i held => ?_, fun i _ _ => by rw [rests]; trivial⟩
      · rw [inactive.1] at busy
        cases busy
      · rw [inactive.2 i] at held
        cases held
    · rw [there d first]
      have compatible := sound.compatible d e differs
      by_cases second : e = c
      · subst second
        rw [here]
        refine ⟨fun locked => ?_, fun _ => inactive.1, fun i held => ?_, fun i nonzero held => ?_⟩
        · rw [alone d first] at locked
          cases locked
        · have free := compatible.locks i held
          simp only [Connection.shares, rests, Bool.or_false, Bool.or_eq_false_iff, beq_eq_false_iff_ne] at free ⊢
          exact fun held => free.1 (readLock i held).1
        · obtain ⟨held, more⟩ := readLock i held
          exact (compatible.safe i nonzero held).mono more
      · rw [there e second]
        exact ⟨compatible.writers, compatible.checkpointers, compatible.locks, fun i nonzero held =>
          (compatible.safe i nonzero held).mono (wider _)⟩

end Extending

end SignalPods.SQLite
