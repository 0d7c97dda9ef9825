import SignalPods.SQLite.WalCheckpoints

namespace SignalPods.SQLite

variable {n : Nat} {D : Type} {base : Nat → D} {log : List (Nat × D)} {w : World n D} {c : Fin n}

section Restarting

theorem lockMarks_spec (free : w.walLockMarks c = true) {d : Fin n} (differs : d ≠ c) {i : Nat} (positive : 0 < i)
    (below : i < WAL_NREADER) : (w.conns d).shares i = false := by
  rw [World.walLockMarks, List.all_eq_true] at free
  have lock := free (i - 1) (List.mem_range.mpr (by omega))
  rw [Nat.sub_add_cancel positive] at lock
  have lock : ∀ d, d ≠ c → (w.conns d).shares i = false ∧ (w.conns d).excludes i = false := of_decide_eq_true lock
  exact (lock d differs).1

/-- With all frames in the database and no other reader of the log, the log begins again
from what the database has. -/
theorem Sound.walRestartHdr (sound : Sound base log w) (writes : (w.conns c).writeLock = true)
    (length : log.length = w.live.mxFrame) (whole : w.nBackfill = w.live.mxFrame) (free : w.walLockMarks c = true)
    (database_only : ∀ i, i ≠ 0 → (w.conns c).readLock ≠ some i)
    (idle : ∀ eMode step, (w.conns c).activity = .checkpointing eMode step → step = .finish)
    (settled : ∀ useWal step, (w.conns c).activity ≠ .reading useWal step) :
    Sound w.database [] (w.walRestartHdr c) := by
  have fits := sound.fits c
  have hdr : (w.conns c).hdr = w.live := by
    rw [(fits.writer writes).1, length]
  have salt : (w.walRestartHdr c).live.aSalt = w.live.aSalt + 1 := congrArg (WalIndexHdr.aSalt · + 1) hdr
  have change : (w.walRestartHdr c).live.iChange = w.live.iChange := by
    show (w.conns c).hdr.iChange = w.live.iChange
    rw [hdr]
  have self : (w.walRestartHdr c).conns c =
      { w.conns c with hdr := (w.walRestartHdr c).live, nCkpt := (w.conns c).nCkpt + 1 } := Function.update_self ..
  have rest (d : Fin n) (differs : d ≠ c) : (w.walRestartHdr c).conns d = w.conns d := Function.update_of_ne differs ..
  have covers (low high : Nat) : Covers w.database [] (w.walRestartHdr c) low high := by
    intro pgno _
    rw [valueAt, List.take_nil]
    rfl
  refine ⟨?_, le_rfl, covers _ _, fun _ => rfl, fun d => ?_, fun d e differs => ?_⟩
  · exact ⟨rfl, le_rfl, indexes_nil, fun _ member => absurd member List.not_mem_nil,
      fun _ _ here => absurd here (by simp)⟩
  · by_cases same : d = c
    · subst same
      rw [self]
      refine ⟨le_rfl, le_rfl, fits.rests, fun _ _ _ => le_rfl, fun _ => ⟨rfl, fun _ => rfl⟩, fun p member => ?_,
        fun _ _ => rfl, fun i nonzero held => absurd held (database_only i nonzero),
        fun useWal step here => absurd here (settled useWal step), fun eMode step here => ?_⟩
      · obtain ⟨locked, older, _⟩ := fits.savepoints p member
        refine ⟨locked, older.trans (Nat.le_succ _), fun same => ?_, fun _ => rfl⟩
        rw [same] at older
        exact absurd older (Nat.not_succ_le_self _)
      · obtain rfl := idle eMode step here
        exact ⟨(fits.checkpoints eMode _ here).1, trivial⟩
    · rw [rest d same]
      have reads : (w.conns d).writeLock = false := (sound.compatible c d (Ne.symm same)).writers writes
      have old := sound.fits d
      have stale (current : (w.conns d).hdr = (w.walRestartHdr c).live) : False := by
        have less := old.salt
        rw [current, salt] at less
        exact Nat.not_succ_le_self _ less
      have unshared {i : Nat} (positive : 0 < i) (below : i < WAL_NREADER) := lockMarks_spec free same positive below
      refine ⟨?_, ?_, old.rests, fun _ _ current => ?_, fun locked => ?_, fun p member => ?_,
        fun _ current => (stale current).elim,
        fun i nonzero held => ?_, fun useWal step here => ?_, fun eMode step here => ?_⟩
      · rw [salt]
        exact old.salt.trans (Nat.le_succ _)
      · rw [change]
        exact old.change
      · have less := old.salt
        rw [current, salt] at less
        exact absurd less (Nat.not_succ_le_self _)
      · rw [reads] at locked
        cases locked
      · have locked := (old.savepoints p member).1
        rw [reads] at locked
        cases locked
      · have shared := unshared (Nat.pos_of_ne_zero nonzero) (old.reader i nonzero held).1
        rw [Connection.shares, held, beq_self_eq_true, Bool.true_or] at shared
        cases shared
      · have begun := old.begins useWal step here
        have holds {i : Nat} (held : step.holds = some i) (positive : 0 < i) (below : i < WAL_NREADER) : False := by
          have shared := unshared positive below
          rw [shares_of_holds here held] at shared
          cases shared
        cases step with
        | header => trivial
        | bypass => exact fun current => (stale current).elim
        | bypassed => exact fun current => (stale current).elim
        | scan => exact begun
        | mark => exact begun
        | lock => exact begun
        | locked => exact begun
        | noted => exact (holds rfl begun.1.1 begun.1.2.1).elim
      · obtain ⟨mode, known⟩ := old.checkpoints eMode step here
        have ended {mxSafeFrame : Nat} (begun : Begun w (w.conns d) mxSafeFrame) : False := by
          have := begun.1
          have := begun.2.1
          omega
        refine ⟨mode, ?_⟩
        cases step with
        | header => trivial
        | finish => trivial
        | mark => exact (ended known.1).elim
        | store => exact (ended known.1).elim
        | iterate => exact (ended known).elim
        | wait => exact (ended known.1).elim
        | copy => exact (ended known.1).elim
  · -- Only the header of the connection differs, which reads no mark.
    have old := sound.compatible d e differs
    have others (f : Fin n) : ((w.walRestartHdr c).conns f).writeLock = (w.conns f).writeLock ∧
        ((w.walRestartHdr c).conns f).checkpoints = (w.conns f).checkpoints ∧
        (∀ i, ((w.walRestartHdr c).conns f).excludes i = (w.conns f).excludes i) ∧
        (∀ i, ((w.walRestartHdr c).conns f).shares i = (w.conns f).shares i) ∧
        ((w.walRestartHdr c).conns f).readLock = (w.conns f).readLock := by
      by_cases same : f = c
      · subst same
        rw [self]
        exact ⟨rfl, rfl, fun _ => rfl, fun _ => rfl, rfl⟩
      · rw [rest f same]
        exact ⟨rfl, rfl, fun _ => rfl, fun _ => rfl, rfl⟩
    refine ⟨fun locked => ?_, fun busy => ?_, fun i held => ?_, fun i nonzero held => ?_⟩
    · rw [(others e).1]
      exact old.writers ((others d).1 ▸ locked)
    · rw [(others e).2.1]
      exact old.checkpointers ((others d).2.1 ▸ busy)
    · rw [(others e).2.2.2.1]
      exact old.locks i ((others d).2.2.1 i ▸ held)
    · rw [(others e).2.2.2.2] at held
      by_cases same : e = c
      · exact absurd (same ▸ held) (database_only i nonzero)
      · have shared := lockMarks_spec free same (Nat.pos_of_ne_zero nonzero) ((sound.fits e).reader i nonzero held).1
        rw [Connection.shares, held, beq_self_eq_true, Bool.true_or] at shared
        cases shared

/-- The connection reads the log from now on, which may begin again. -/
theorem Sound.reread (sound : Sound base log w)
    (quiet : (w.conns c).writeLock = true → log.length = w.live.mxFrame)
    (older : (w.conns c).writeLock = false → (w.conns c).hdr.mxFrame ≤ w.live.mxFrame) :
    Sound base log (w.set c { w.conns c with readLock := none, activity := .reading true (.scan 1 0 0) }) := by
  have fits := sound.fits c
  refine sound.move ⟨fits.salt, fits.change, fun held => absurd rfl held, fun _ reads _ => older reads,
    fun locked => ⟨(fits.writer locked).1, fun _ => quiet locked⟩, fits.savepoints, fun held => by (cases held),
    fun _ _ held => by (cases held), fun _ _ same => ?_, fun _ _ same => by (cases same)⟩
    ⟨rfl, fun busy => by (cases busy), fun _ held => by (cases held), fun _ held => by (cases held),
      fun _ _ _ => trivial, fun _ _ held => by (cases held)⟩
  cases same
  exact ⟨Nat.one_pos, by decide, Nat.zero_le _⟩

/-- The log has begun again, as all its frames were in the database. -/
structure Restarted (w : World n D) (c : Fin n) (w' : World n D) : Prop where
  whole : w.nBackfill = w.live.mxFrame
  free : w.walLockMarks c = true
  sound : Sound w.database [] w'
  mxFrame : w'.live.mxFrame = 0
  database : w'.database = w.database
  conns : ∀ d, d ≠ c → w'.conns d = w.conns d

theorem walRestartHdr_conns (w : World n D) (c : Fin n) :
    (w.walRestartHdr c).conns c = { w.conns c with hdr := (w.walRestartHdr c).live, nCkpt := (w.conns c).nCkpt + 1 } ∧
      ∀ d, d ≠ c → (w.walRestartHdr c).conns d = w.conns d :=
  ⟨Function.update_self .., fun _ differs => Function.update_of_ne differs ..⟩

theorem Sound.walRestartLog (sound : Sound base log w) (rests : (w.conns c).activity = .rest)
    (writes : (w.conns c).writeLock = true) (ignores : (w.conns c).readLock = some 0) :
    Restarted w c (w.walRestartLog c) ∨ (Sound base log (w.walRestartLog c) ∧ w.walRestartLog c =
      w.set c { w.conns c with readLock := none, activity := .reading true (.scan 1 0 0) }) := by
  have fits := sound.fits c
  have none_held : ∀ i, i ≠ 0 → (w.conns c).readLock ≠ some i := fun i nonzero held =>
    nonzero (Option.some.inj (held.symm.trans ignores))
  have length : log.length = w.live.mxFrame := (fits.writer writes).2 none_held
  have hdr : (w.conns c).hdr = w.live := by
    rw [(fits.writer writes).1, length]
  have whole := fits.ignores ignores hdr
  rw [World.walRestartLog]
  split
  · rename_i restarts
    obtain ⟨self, others⟩ := walRestartHdr_conns w c
    have restarted := sound.walRestartHdr writes length whole restarts.2 none_held
      (fun _ _ busy => by rw [rests] at busy; cases busy) (fun _ _ busy => by rw [rests] at busy; cases busy)
    refine Or.inl ⟨whole, restarts.2, restarted.reread (fun _ => rfl) (fun _ => by rw [self]), rfl, rfl,
      fun d differs => ?_⟩
    rw [World.set_conns_of_ne _ differs, others d differs]
  · exact Or.inr ⟨sound.reread (fun _ => length) (fun _ => by rw [hdr]), rfl⟩

/-- A checkpoint that is to truncate the log begins it again at its end. -/
theorem Sound.walCheckpoint_finish (sound : Sound base log w) {eMode : CheckpointMode}
    (here : (w.conns c).activity = .checkpointing eMode .finish) (granted : Bool) (maps : Nat → Nat)
      (failed : Option D) :
    Restarted w c (w.walCheckpoint c eMode granted maps failed .finish) ∨
      (Sound base log (w.walCheckpoint c eMode granted maps failed .finish) ∧
        w.walCheckpoint c eMode granted maps failed .finish = w.release c) := by
  have fits := sound.fits c
  have unlocked := fits.unlocked (busy_of_checkpoints here)
  have none_held (i : Nat) (_ : i ≠ 0) : (w.conns c).readLock ≠ some i := by rw [unlocked]; simp
  rw [World.walCheckpoint]
  split
  · rename_i restarts
    obtain ⟨truncates, passed, free⟩ := restarts
    have writes := (fits.checkpoints eMode .finish here).1 (by rw [truncates]; simp)
    obtain ⟨hdr, length⟩ := fits.writer writes
    have length := length none_held
    have whole : w.nBackfill = w.live.mxFrame := by
      rw [hdr, length] at passed
      exact le_antisymm sound.backfilled passed
    obtain ⟨self, others⟩ := walRestartHdr_conns w c
    have restarted := sound.walRestartHdr writes length whole free none_held
      (fun _ _ busy => by rw [here] at busy; cases busy; rfl) (fun _ _ busy => by rw [here] at busy; cases busy)
    have still : ((w.walRestartHdr c).conns c).activity = .checkpointing eMode .finish := by
      rw [self]
      exact here
    refine Or.inl ⟨whole, free, restarted.release still, rfl, rfl, fun d differs => ?_⟩
    rw [World.release, World.set_conns_of_ne _ differs, others d differs]
  · exact Or.inr ⟨sound.release here, rfl⟩

end Restarting

section Leaving

/-- Without the connection that wrote, the log is what is committed. -/
theorem Sound.crash (sound : Sound base log w) :
    ∃ log', Sound base log' (w.crash c) ∧ log'.take w.live.mxFrame = log.take w.live.mxFrame ∧
      ((w.conns c).writeLock = false → log' = log) := by
  have fits := sound.fits c
  cases locked : (w.conns c).writeLock with
  | false =>
    refine ⟨log, ?_, rfl, fun _ => rfl⟩
    refine sound.move ⟨fits.salt, fits.change, fun held => absurd rfl held, fun active _ _ => ?_,
      fun locked => by (cases locked),
      fun _ member => absurd member List.not_mem_nil, fun held => by (cases held), fun _ _ held => by (cases held),
      fun _ _ same => by (cases same), fun _ _ same => by (cases same)⟩
      ⟨locked.symm, fun busy => by (cases busy), fun _ held => by (cases held), fun _ held => by (cases held),
        fun _ _ _ => trivial, fun _ _ held => by (cases held)⟩
    exact active.elim (fun held => absurd rfl held) fun idle => absurd rfl idle
  | true =>
    have committed : w.live.mxFrame ≤ log.length := sound.logged.committed
    have length : (log.take w.live.mxFrame).length = w.live.mxFrame := List.length_take_of_le committed
    have shorter : Logged (log.take w.live.mxFrame) (ownWal (log.take w.live.mxFrame) (w.crash c)) := by
      have taken := sound.logged.take committed le_rfl
      refine ⟨rfl, ?_, taken.index, taken.proper, taken.content⟩
      rw [length]
      exact le_rfl
    refine ⟨log.take w.live.mxFrame, sound.extends ⟨sound.logged, shorter, ?_, le_rfl, rfl, Or.inl rfl, rfl, rfl, rfl⟩
      (fun d differs => (sound.compatible c d differs.symm).writers locked) rfl ?_ rfl (fun _ held => by (cases held))
      (fun _ => length), ?_, fun free => by (cases free)⟩
    · rw [List.take_take, Nat.min_self]
    · refine ⟨fits.salt, fits.change, fun held => absurd rfl held, fun active _ _ => ?_,
        fun locked => by (cases locked),
        fun _ member => absurd member List.not_mem_nil, fun held => by (cases held), fun _ _ held => by (cases held),
        fun _ _ same => by (cases same), fun _ _ same => by (cases same)⟩
      exact active.elim (fun held => absurd rfl held) fun idle => absurd rfl idle
    · rw [List.take_take, Nat.min_self]

theorem endRead_eq_crash (rests : (w.conns c).activity = .rest) : w.sqlite3WalEndReadTransaction c = w.crash c := by
  rw [World.crash, ← rests]
  rfl

end Leaving

section Writing

variable {log' : List (Nat × D)} {pWal : Wal D}

theorem Sound.walOf (sound : Sound base log w) (writes : (w.conns c).writeLock = true) : Logged log (w.walOf c) :=
  ⟨((sound.fits c).writer writes).1, sound.logged.committed, sound.logged.index, sound.logged.proper,
    sound.logged.content⟩

/-- The connection that writes leaves another log, with what is committed, or commits
all of it. -/
theorem Sound.write (sound : Sound base log w) (writes : (w.conns c).writeLock = true)
    (rests : (w.conns c).activity = .rest)
    (logged : Logged log' pWal) (kept : log'.take w.live.mxFrame = log.take w.live.mxFrame)
    (minFrame : pWal.minFrame = (w.conns c).minFrame)
    (live : pWal.live = w.live ∨ pWal.live = { w.live with iChange := w.live.iChange + 1, mxFrame := log'.length })
    (quiet : (∀ i, i ≠ 0 → (w.conns c).readLock ≠ some i) → log'.length = w.live.mxFrame ∧ pWal.live = w.live)
    (aSavepoint : List (Nat × Nat))
    (savepoints : ∀ p ∈ aSavepoint, p.2 ≤ pWal.nCkpt ∧ (p.2 = pWal.nCkpt → pWal.live.mxFrame ≤ p.1) ∧
      (p.2 ≠ pWal.nCkpt → pWal.live.mxFrame = 0)) :
    Sound base log' ((w.withWal c pWal).set c { (w.withWal c pWal).conns c with aSavepoint := aSavepoint }) := by
  have fits := sound.fits c
  have committed : w.live.mxFrame ≤ log.length := sound.logged.committed
  have longer : w.live.mxFrame ≤ log'.length := by
    have length := congrArg List.length kept
    rw [List.length_take_of_le committed, List.length_take] at length
    omega
  have grows : w.live.mxFrame ≤ pWal.live.mxFrame := live.elim (fun same => same ▸ le_rfl) fun more => more ▸ longer
  have salt : pWal.live.aSalt = w.live.aSalt := live.elim (fun same => same ▸ rfl) fun more => more ▸ rfl
  have change : w.live.iChange ≤ pWal.live.iChange := live.elim
    (fun same => same ▸ le_rfl) fun more => more ▸ Nat.le_succ _
  have hdr : pWal.hdr = { pWal.live with mxFrame := log'.length } := logged.header
  have self : (w.withWal c pWal).conns c =
      { w.conns c with hdr := pWal.hdr, minFrame := pWal.minFrame, nCkpt := pWal.nCkpt } := Function.update_self ..
  rw [self]
  have length : (w.conns c).hdr.mxFrame = log.length := by rw [(fits.writer writes).1]
  have old : floor w.live (w.conns c) = w.live.mxFrame := by
    rw [floor, length, Nat.min_eq_right committed]
  have new (pWal' : Connection) (same : pWal'.hdr = pWal.hdr) : floor pWal.live pWal' = pWal.live.mxFrame := by
    rw [floor, same, hdr, Nat.min_eq_right logged.committed]
  have extends_ : Extends log w log' ((w.withWal c pWal).set c { { w.conns c with
      hdr := pWal.hdr, minFrame := pWal.minFrame, nCkpt := pWal.nCkpt } with aSavepoint := aSavepoint }) := by
    refine ⟨sound.logged, ⟨rfl, logged.committed, logged.index, logged.proper, logged.content⟩, kept, grows, salt,
      ?_, rfl, rfl, rfl⟩
    exact live.imp id fun more => by
      show w.live.iChange < pWal.live.iChange
      rw [more]
      exact Nat.lt_succ_self _
  refine sound.extends extends_ (fun d differs => (sound.compatible c d differs.symm).writers writes)
    (Function.update_idem ..)
    ⟨?_, ?_, fits.rests, fun _ reads => ?_, fun _ => ⟨hdr, fun none_held => ?_⟩,
      fun p member => ⟨writes, savepoints p member⟩,
      fun held current => ?_, fun i nonzero held => ?_, fun useWal step busy => ?_, fun eMode step busy => ?_⟩ rests
    (fun i held => ⟨held, ?_⟩) fun reads => ?_
  · rw [hdr]
    exact le_rfl
  · rw [hdr]
    exact le_rfl
  · have reads : (w.conns c).writeLock = false := reads
    rw [writes] at reads
    cases reads
  · obtain ⟨same, still⟩ := quiet none_held
    show log'.length = pWal.live.mxFrame
    rw [same, still]
  · have none_held : ∀ i, i ≠ 0 → (w.conns c).readLock ≠ some i := fun i nonzero other =>
      nonzero (Option.some.inj (other.symm.trans held))
    show w.nBackfill = pWal.live.mxFrame
    rw [(quiet none_held).2]
    refine fits.ignores held ?_
    rw [(fits.writer writes).1, (fits.writer writes).2 none_held]
  · obtain ⟨below, sameSalt, low, ⟨m, marked, less⟩, covers⟩ := fits.reader i nonzero held
    rw [old] at less covers
    have same := new { { w.conns c with hdr := pWal.hdr, minFrame := pWal.minFrame, nCkpt := pWal.nCkpt } with
      aSavepoint := aSavepoint } rfl
    refine ⟨below, by rw [hdr]; rfl, minFrame ▸ low, ⟨m, marked, ?_⟩, ?_⟩
    · exact le_trans (less.trans grows) same.ge
    · show Covers base log' _ pWal.minFrame (floor pWal.live _)
      rw [same, minFrame]
      exact covers.extends kept grows (low.trans (Nat.succ_le_succ sound.backfilled)) rfl
  · have busy : (w.conns c).activity = .reading useWal step := busy
    rw [rests] at busy
    cases busy
  · have busy : (w.conns c).activity = .checkpointing eMode step := busy
    rw [rests] at busy
    cases busy
  · rw [old]
    exact grows.trans (new _ rfl).ge
  · have reads : (w.conns c).writeLock = false := reads
    rw [writes] at reads
    cases reads

theorem withWal_eq (w : World n D) (c : Fin n) (pWal : Wal D) :
    w.withWal c pWal =
      (w.withWal c pWal).set c { (w.withWal c pWal).conns c with aSavepoint := (w.conns c).aSavepoint } := by
  have self : (w.withWal c pWal).conns c =
      { w.conns c with hdr := pWal.hdr, minFrame := pWal.minFrame, nCkpt := pWal.nCkpt } := Function.update_self ..
  rw [self, World.set, World.withWal]
  simp only [Function.update_idem]

theorem sqlite3WalUndo_same (pWal : Wal D) : (SQLite.sqlite3WalUndo pWal).2.minFrame = pWal.minFrame ∧
    (SQLite.sqlite3WalUndo pWal).2.nCkpt = pWal.nCkpt ∧ (SQLite.sqlite3WalUndo pWal).2.live = pWal.live := by
  rw [SQLite.sqlite3WalUndo]
  dsimp only
  split
  · rw [walCleanupHash_same]
    exact ⟨rfl, rfl, rfl⟩
  · exact ⟨rfl, rfl, rfl⟩

theorem sqlite3WalSavepointUndo_same (pWal : Wal D) (aWalData : Nat × Nat) :
    (SQLite.sqlite3WalSavepointUndo pWal aWalData).2.minFrame = pWal.minFrame ∧
      (SQLite.sqlite3WalSavepointUndo pWal aWalData).2.nCkpt = pWal.nCkpt ∧
      (SQLite.sqlite3WalSavepointUndo pWal aWalData).2.live = pWal.live := by
  rw [SQLite.sqlite3WalSavepointUndo]
  dsimp only
  generalize (if aWalData.2 ≠ pWal.nCkpt then (0, pWal.nCkpt) else aWalData) = point
  split
  · rw [walCleanupHash_same]
    exact ⟨rfl, rfl, rfl⟩
  · exact ⟨rfl, rfl, rfl⟩

/-- The log of a connection that reads the database only, or nothing, is committed. -/
theorem Sound.settled (sound : Sound base log w) (writes : (w.conns c).writeLock = true)
    (none_held : ∀ i, i ≠ 0 → (w.conns c).readLock ≠ some i) : log.length = w.live.mxFrame :=
  ((sound.fits c).writer writes).2 none_held

theorem Sound.walUndo (sound : Sound base log w) (writes : (w.conns c).writeLock = true)
    (rests : (w.conns c).activity = .rest) :
    Sound base (log.take w.live.mxFrame) (w.walUndo c) := by
  obtain ⟨minFrame, _, live⟩ := sqlite3WalUndo_same (w.walOf c)
  refine sound.write writes rests (sound.walOf writes).sqlite3WalUndo.2 ?_ minFrame (Or.inl live)
    (fun none_held => ⟨?_, live⟩) []
    fun _ member => absurd member List.not_mem_nil
  · show (log.take w.live.mxFrame).take w.live.mxFrame = log.take w.live.mxFrame
    rw [List.take_take, Nat.min_self]
  · show (log.take w.live.mxFrame).length = w.live.mxFrame
    exact List.length_take_of_le (sound.settled writes none_held).ge

theorem Sound.walSavepointUndo (sound : Sound base log w) (writes : (w.conns c).writeLock = true)
    (rests : (w.conns c).activity = .rest) (iSavepoint : Nat) :
    ∃ log', Sound base log' (w.walSavepointUndo c iSavepoint) ∧ log'.take w.live.mxFrame = log.take w.live.mxFrame := by
  have fits := sound.fits c
  rw [World.walSavepointUndo]
  split
  · exact ⟨log, sound, rfl⟩
  · rename_i aWalData older dropped
    have members (p : Nat × Nat) (member : p ∈ aWalData :: older) : p ∈ (w.conns c).aSavepoint :=
      List.mem_of_mem_drop (dropped ▸ member)
    obtain ⟨_, less, kept, restarted⟩ := fits.savepoints aWalData (members _ List.mem_cons_self)
    obtain ⟨minFrame, nCkpt, live⟩ := sqlite3WalSavepointUndo_same (w.walOf c) aWalData
    have logged := (sound.walOf writes).sqlite3WalSavepointUndo kept restarted
    obtain ⟨point, data⟩ : ∃ point, point = (SQLite.sqlite3WalSavepointUndo (w.walOf c) aWalData).1 := ⟨_, rfl⟩
    have committed : w.live.mxFrame ≤ point.1 ∧ point.2 = (w.conns c).nCkpt := by
      rw [data, SQLite.sqlite3WalSavepointUndo]
      dsimp only
      split
      · exact ⟨(restarted ‹_›).le, rfl⟩
      · exact ⟨kept (not_not.mp ‹_›), not_not.mp ‹_›⟩
    rw [← data] at logged
    refine ⟨log.take point.1, ?_, ?_⟩
    · dsimp only
      rw [← data]
      refine sound.write writes rests logged ?_ minFrame (Or.inl live)
        (fun none_held => ⟨?_, live⟩) _ fun p member => ?_
      · rw [List.take_take, Nat.min_eq_left committed.1]
      · rw [List.length_take, sound.settled writes none_held, Nat.min_eq_right committed.1]
      · rw [nCkpt, live]
        rcases List.mem_cons.mp member with rfl | member
        · exact ⟨committed.2.le, fun _ => committed.1, fun differs => absurd committed.2 differs⟩
        · exact (fits.savepoints p (members p (List.mem_cons_of_mem _ member))).2
    · rw [List.take_take, Nat.min_eq_left committed.1]

/-- A set of frames adds its pages to what the connection sees, and commits it if it is
to. If it fails, what is committed is as before. -/
theorem Sound.sqlite3WalFrames (sound : Sound base log w) (writes : (w.conns c).writeLock = true)
    (rests : (w.conns c).activity = .rest) {i : Nat} (nonzero : i ≠ 0) (held : (w.conns c).readLock = some i)
    {pList : List (Nat × D)} (pages : ∀ p ∈ pList, p.1 ≠ 0) (answers : Answers D) (isCommit : Bool) (nExtra : Nat) :
    ∃ log', Sound base log' (w.sqlite3WalFrames c answers pList isCommit nExtra) ∧
      log'.take w.live.mxFrame = log.take w.live.mxFrame ∧
      (((walFrames answers (w.walOf c) pList isCommit nExtra).1 = SQLITE_OK ∧
          (∀ pgno, latest log' pgno = (latest pList pgno).or (latest log pgno)) ∧
          (w.sqlite3WalFrames c answers pList isCommit nExtra).live.mxFrame =
            if isCommit then log'.length else w.live.mxFrame) ∨
        ((walFrames answers (w.walOf c) pList isCommit nExtra).1 ≠ SQLITE_OK ∧
          (w.sqlite3WalFrames c answers pList isCommit nExtra).live = w.live)) := by
  have fits := sound.fits c
  obtain ⟨rc, pWal, log', put, logged, kept, minFrame, nCkpt, outcome⟩ :=
    (sound.walOf writes).walFrames pages answers isCommit nExtra
  have none_held (free : ∀ j, j ≠ 0 → (w.conns c).readLock ≠ some j) : False := free i nonzero held
  have live : pWal.live = w.live ∨ pWal.live =
    { w.live with iChange := w.live.iChange + 1, mxFrame := log'.length } := by
    rcases outcome with ⟨_, _, more⟩ | ⟨_, same, _⟩
    · cases isCommit with
      | true => exact Or.inr more
      | false => exact Or.inl more
    · exact Or.inl same
  have written (aSavepoint : List (Nat × Nat)) (savepoints : ∀ p ∈ aSavepoint, p.2 ≤ pWal.nCkpt ∧
      (p.2 = pWal.nCkpt → pWal.live.mxFrame ≤ p.1) ∧ (p.2 ≠ pWal.nCkpt → pWal.live.mxFrame = 0)) :=
    sound.write writes rests logged kept minFrame live (fun free => (none_held free).elim) aSavepoint savepoints
  have still (same : pWal.live = w.live) (p : Nat × Nat) (member : p ∈ (w.conns c).aSavepoint) : p.2 ≤ pWal.nCkpt ∧
      (p.2 = pWal.nCkpt → pWal.live.mxFrame ≤ p.1) ∧ (p.2 ≠ pWal.nCkpt → pWal.live.mxFrame = 0) := by
    rw [nCkpt, same]
    exact (fits.savepoints p member).2
  refine ⟨log', ?_, kept, ?_⟩
  · rw [World.sqlite3WalFrames, put]
    dsimp only
    split
    · exact written [] fun _ member => absurd member List.not_mem_nil
    · rename_i open_
      rw [withWal_eq]
      refine written _ (still ?_)
      rcases outcome with ⟨ok, _, more⟩ | ⟨_, same, _⟩
      · cases isCommit with
        | true => exact absurd ⟨ok, rfl⟩ open_
        | false => exact more
      · exact same
  · have same : (w.sqlite3WalFrames c answers pList isCommit nExtra).live = pWal.live := by
      rw [World.sqlite3WalFrames, put]
      dsimp only
      split <;> rfl
    rw [same, put]
    rcases outcome with ⟨ok, contents, more⟩ | ⟨refused, same, _⟩
    · refine Or.inl ⟨ok, contents, ?_⟩
      rw [more]
      cases isCommit <;> rfl
    · exact Or.inr ⟨refused.1, same⟩

end Writing

section Transactions

theorem Sound.sqlite3WalBeginWriteTransaction (sound : Sound base log w) (rests : (w.conns c).activity = .rest)
    (reads : (w.conns c).writeLock = false) : Sound base log (w.sqlite3WalBeginWriteTransaction c) := by
  have fits := sound.fits c
  rw [World.sqlite3WalBeginWriteTransaction]
  split
  · exact sound
  · rename_i free
    push Not at free
    obtain ⟨others, current⟩ := free
    have length : log.length = w.live.mxFrame := by
      refine sound.quiet fun d => ?_
      by_cases same : d = c
      · rw [same, reads]
      · exact Bool.eq_false_iff.mpr (others d same)
    refine sound.put ⟨fits.salt, fits.change, fits.rests, fun _ locked => by (cases locked),
      fun _ => ⟨?_, fun _ => length⟩,
      fun p member => ?_, fits.ignores, fits.reader, fits.begins, fun eMode step busy => ?_⟩ (fun d differs => ?_)
      (fun d differs => ?_) fun locked _ => by cases locked
    · rw [length]
      exact current
    · have locked := (fits.savepoints p member).1
      rw [reads] at locked
      cases locked
    · have busy : (w.conns c).activity = .checkpointing eMode step := busy
      rw [rests] at busy
      cases busy
    · have compatible := sound.compatible c d differs.symm
      exact ⟨fun _ => Bool.eq_false_iff.mpr (others d differs), compatible.checkpointers, compatible.locks,
        compatible.safe⟩
    · have compatible := sound.compatible d c differs
      exact ⟨fun locked => absurd locked (others d differs), compatible.checkpointers, compatible.locks,
        compatible.safe⟩

theorem Sound.sqlite3WalEndWriteTransaction (sound : Sound base log w) (rests : (w.conns c).activity = .rest)
    (writes : (w.conns c).writeLock = true) (current : (w.conns c).hdr = w.live) :
    Sound base log (w.sqlite3WalEndWriteTransaction c) := by
  have fits := sound.fits c
  have length : log.length = w.live.mxFrame := by
    have hdr := (fits.writer writes).1
    rw [current] at hdr
    exact (congrArg WalIndexHdr.mxFrame hdr).symm
  refine sound.put ⟨fits.salt, fits.change, fits.rests, fun _ _ _ => ?_, fun locked => by (cases locked),
    fun _ member => absurd member List.not_mem_nil, fits.ignores, fits.reader, fits.begins, fun eMode step busy => ?_⟩
    (fun d differs => ?_) (fun d differs => ?_) fun _ _ => length
  · rw [current]
  · have busy : (w.conns c).activity = .checkpointing eMode step := busy
    rw [rests] at busy
    cases busy
  · have compatible := sound.compatible c d differs.symm
    exact ⟨fun locked => by (cases locked), compatible.checkpointers, compatible.locks, compatible.safe⟩
  · have compatible := sound.compatible d c differs
    exact ⟨fun _ => rfl, compatible.checkpointers, compatible.locks, compatible.safe⟩

theorem Sound.openSavepoint (sound : Sound base log w) (writes : (w.conns c).writeLock = true) :
    Sound base log (w.openSavepoint c) := by
  have fits := sound.fits c
  refine sound.move ⟨fits.salt, fits.change, fits.rests, fits.older, fits.writer, fun p member => ?_, fits.ignores,
    fits.reader, fits.begins, fits.checkpoints⟩
    ⟨rfl, id, fun _ => id, fun _ => id, fun _ _ => id, fun _ _ held => ⟨held, rfl⟩⟩
  rcases List.mem_cons.mp member with rfl | member
  · refine ⟨writes, le_rfl, fun _ => ?_, fun differs => absurd rfl differs⟩
    show w.live.mxFrame ≤ (w.conns c).hdr.mxFrame
    rw [(fits.writer writes).1]
    exact sound.logged.committed
  · exact fits.savepoints p member

theorem Sound.sqlite3WalCheckpoint (sound : Sound base log w) (unlocked : (w.conns c).readLock = none)
    (reads : (w.conns c).writeLock = false) (eMode : CheckpointMode) : Sound base log
      (w.sqlite3WalCheckpoint c eMode) := by
  have fits := sound.fits c
  rw [World.sqlite3WalCheckpoint]
  split
  · exact sound
  · rename_i alone
    push Not at alone
    have alone (d : Fin n) (differs : d ≠ c) : (w.conns d).checkpoints = false :=
      Bool.eq_false_iff.mpr (alone d differs)
    dsimp only
    generalize granted : decide (eMode ≠ .PASSIVE ∧ ∀ d, d ≠ c → (w.conns d).writeLock = false) = writeLock
    have others (locked : writeLock = true) (d : Fin n) (differs : d ≠ c) : (w.conns d).writeLock = false := by
      rw [locked, decide_eq_true_iff] at granted
      exact granted.2 d differs
    refine sound.put ⟨le_rfl, le_rfl, fun held => absurd unlocked held, fun _ _ _ => le_rfl, fun locked => ?_,
      fun p member => ?_, fun held => ?_, fun i _ held => ?_, fun _ _ busy => by (cases busy),
      fun mode step busy => ?_⟩ (fun d differs => ?_) (fun d differs => ?_) fun _ locked => ?_
    · have length : log.length = w.live.mxFrame := by
        refine sound.quiet fun d => ?_
        by_cases same : d = c
        · rw [same, reads]
        · exact others locked d same
      exact ⟨by rw [length], fun _ => length⟩
    · have locked := (fits.savepoints p member).1
      rw [reads] at locked
      cases locked
    · have held : (w.conns c).readLock = some 0 := held
      rw [unlocked] at held
      cases held
    · have held : (w.conns c).readLock = some i := held
      rw [unlocked] at held
      cases held
    · cases busy
      refine ⟨fun active => ?_, trivial⟩
      by_contra free
      exact active (if_neg free)
    · exact ⟨fun locked => others locked d differs, fun _ => alone d differs, fun _ held => by (cases held),
        fun _ _ _ => by
        trivial⟩
    · have compatible := sound.compatible d c differs
      refine ⟨fun locked => ?_, fun busy => ?_, fun j _ => ?_, fun j _ held => ?_⟩
      · by_contra granted
        have free := others (Bool.eq_true_of_not_eq_false granted) d differs
        rw [locked] at free
        cases free
      · rw [alone d differs] at busy
        cases busy
      · simp only [Connection.shares, unlocked, Bool.or_false, beq_eq_false_iff_ne, ne_eq, reduceCtorEq,
          not_false_eq_true]
      · have held : (w.conns c).readLock = some j := held
        rw [unlocked] at held
        cases held
    · rw [reads] at locked
      cases locked

end Transactions

end SignalPods.SQLite
