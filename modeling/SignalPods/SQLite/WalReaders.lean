import SignalPods.SQLite.WalSound

namespace SignalPods.SQLite

variable {n : Nat} {D : Type} {base : Nat → D} {log : List (Nat × D)} {w : World n D} {c : Fin n} {pWal : Connection}

theorem rests_iff : pWal.rests = true ↔ pWal.activity = .rest := by
  rw [Connection.rests]
  cases pWal.activity <;> simp

section Weakening

theorem weaker_rest (pWal : Connection) (hdr : WalIndexHdr) (aSavepoint : List (Nat × Nat)) :
    Weaker pWal { pWal with hdr := hdr, readLock := none, aSavepoint := aSavepoint, activity := .rest } where
  writeLock := rfl
  checkpoints busy := by cases busy
  excludes _ held := by cases held
  shares _ held := by cases held
  safe _ _ _ := trivial
  readLock _ _ held := by cases held

/-- A step without a lock, or with the one that is held. -/
theorem weaker_reading (unlocked : pWal.readLock = none) (hdr : WalIndexHdr) (minFrame : Nat)
    (useWal : Bool) {step : ReadStep}
    (kept : ∀ i, step.holds = some i → pWal.shares i = true) :
    Weaker pWal { pWal with hdr := hdr, minFrame := minFrame, activity := .reading useWal step } where
  writeLock := rfl
  checkpoints busy := by cases busy
  excludes _ held := by cases held
  shares i held := by
    simp only [Connection.shares, unlocked, Bool.or_eq_true, beq_iff_eq, reduceCtorEq, false_or] at held
    exact kept i held
  safe _ _ _ := trivial
  readLock i _ held := by
    have held : pWal.readLock = some i := held
    rw [unlocked] at held
    cases held

theorem shares_of_holds {useWal : Bool} {step : ReadStep} (here : pWal.activity = .reading useWal step) {i : Nat}
    (held : step.holds = some i) : pWal.shares i = true := by
  simp only [Connection.shares, here, held, beq_self_eq_true, Bool.or_true]

theorem retry_eq (pWal : Connection) (useWal : Bool) :
    pWal.retry useWal = { pWal with activity := if useWal then .reading true (.scan 1 0 0) else .rest } := rfl

end Weakening

section Beginning

/-- A connection goes on without a lock, or with the one that it has. -/
theorem Sound.read (sound : Sound base log w) {useWal : Bool} {step step' : ReadStep}
    (here : (w.conns c).activity = .reading useWal step) (begins : Begins w (w.conns c) step')
    (kept : ∀ i, step'.holds = some i → step.holds = some i) : Sound base log
      (w.proceed c (.reading useWal step')) := by
  have busy : (w.conns c).activity ≠ .rest := by rw [here]; simp
  have unlocked := (sound.fits c).unlocked busy
  refine sound.move ((sound.fits c).proceed unlocked busy (fun _ _ same => ?_) fun _ _ same => ?_) ?_
  · cases same
    exact begins
  · cases same
  · exact weaker_reading unlocked _ _ useWal fun i held => shares_of_holds here (kept i held)

theorem Sound.stop (sound : Sound base log w) (busy : (w.conns c).activity ≠ .rest) :
    Sound base log (w.proceed c .rest) := by
  have unlocked := (sound.fits c).unlocked busy
  refine sound.move ((sound.fits c).proceed unlocked busy (fun _ _ same => ?_) fun _ _ same => ?_) ?_
  · cases same
  · cases same
  · have weaker := weaker_rest (w.conns c) (w.conns c).hdr (w.conns c).aSavepoint
    rw [← unlocked] at weaker
    exact weaker

theorem Sound.retry (sound : Sound base log w) {useWal : Bool} {step : ReadStep}
    (here : (w.conns c).activity = .reading useWal step) : Sound base log (w.set c ((w.conns c).retry useWal)) := by
  have busy : (w.conns c).activity ≠ .rest := by rw [here]; simp
  rw [retry_eq]
  cases useWal with
  | false => exact sound.stop busy
  | true => exact sound.read here ⟨Nat.one_pos, by decide, Nat.zero_le _⟩ fun _ held => by cases held

/-- A lock is taken that no other connection holds alone. -/
theorem Sound.lock (sound : Sound base log w) {useWal : Bool} {step step' : ReadStep}
    (here : (w.conns c).activity = .reading useWal step) (begins : Begins w (w.conns c) step') {i : Nat}
    (takes : step'.holds = some i) (free : w.walLockShared c i = true) :
    Sound base log (w.proceed c (.reading useWal step')) := by
  have busy : (w.conns c).activity ≠ .rest := by rw [here]; simp
  have unlocked := (sound.fits c).unlocked busy
  have free : ∀ d, d ≠ c → (w.conns d).excludes i = false := of_decide_eq_true free
  refine sound.put ((sound.fits c).proceed unlocked busy (fun _ _ same => ?_) fun _ _ same => ?_) (fun d differs => ?_)
    (fun d differs => ?_) fun open_ locked => ?_
  · cases same
    exact begins
  · cases same
  · have compatible := sound.compatible c d differs.symm
    exact ⟨compatible.writers, fun busy => by (cases busy), fun _ held => by (cases held), fun _ _ _ => trivial⟩
  · have compatible := sound.compatible d c differs
    refine ⟨compatible.writers, fun _ => rfl, fun j held => ?_, fun j _ held => ?_⟩
    · simp only [Connection.shares, unlocked, takes, Bool.or_eq_false_iff, beq_eq_false_iff_ne, ne_eq, reduceCtorEq,
        not_false_eq_true, Option.some.injEq, true_and]
      rintro rfl
      rw [free d differs] at held
      cases held
    · have held : (w.conns c).readLock = some j := held
      rw [unlocked] at held
      cases held
  · have open_ : (w.conns c).writeLock = false := open_
    rw [locked] at open_
    cases open_

/-- A mark changes whose lock nobody has. -/
theorem Sound.remark (sound : Sound base log w) {i : Nat} (free : ∀ d, (w.conns d).shares i = false)
    (value : Option Nat) :
    Sound base log { w with aReadMark := Function.update w.aReadMark i value } := by
  refine ⟨sound.logged, sound.backfilled, sound.fresh, sound.quiet, fun d => ?_, sound.compatible⟩
  have fits := sound.fits d
  refine ⟨fits.salt, fits.change, fits.rests, fits.older, fits.writer, fits.savepoints, fits.ignores,
    fun j nonzero held => ?_,
    fun useWal step here => ?_, fun eMode step here => ?_⟩
  · have other : j ≠ i := by
      rintro rfl
      have shared := free d
      rw [Connection.shares, held, beq_self_eq_true, Bool.true_or] at shared
      cases shared
    dsimp only
    rw [Function.update_of_ne other]
    exact fits.reader j nonzero held
  · have begun := fits.begins useWal step here
    cases step <;> exact begun
  · obtain ⟨mode, known⟩ := fits.checkpoints eMode step here
    refine ⟨mode, ?_⟩
    cases step <;> exact known

theorem Sound.sqlite3WalBeginReadTransaction (sound : Sound base log w) (unlocked : (w.conns c).readLock = none)
    (reads : (w.conns c).writeLock = false) :
    Sound base log (w.sqlite3WalBeginReadTransaction c) := by
  have fits := sound.fits c
  refine sound.move ⟨le_rfl, le_rfl, fun held => absurd unlocked held, fun _ _ _ => le_rfl, fun locked => ?_,
    fun p member => ?_, fun _ here => ?_, fun i _ held => ?_, fun _ _ same => ?_, fun _ _ same => by (cases same)⟩
    (weaker_reading unlocked _ _ false fun _ held => by (cases held))
  · have locked : (w.conns c).writeLock = true := locked
    rw [reads] at locked
    cases locked
  · have locked := (fits.savepoints p member).1
    rw [reads] at locked
    cases locked
  · have held : (w.conns c).readLock = some 0 := ‹_›
    rw [unlocked] at held
    cases held
  · have held : (w.conns c).readLock = some i := held
    rw [unlocked] at held
    cases held
  · cases same
    trivial

end Beginning

section Verifying

/-- What a checkpoint takes as safe is committed. -/
theorem Fits.safe (fits : Fits base log w pWal) (i : Nat) : Safe pWal.activity i w.live.mxFrame := by
  cases here : pWal.activity with
  | rest => trivial
  | reading => trivial
  | checkpointing eMode step =>
    have known := (fits.checkpoints eMode step here).2
    have committed {mxSafeFrame : Nat} (begun : Begun w pWal mxSafeFrame) : mxSafeFrame ≤ w.live.mxFrame :=
      begun.2.2.trans begun.1
    cases step with
    | header => trivial
    | finish => trivial
    | mark => exact fun _ => committed known.1
    | store => exact ⟨fun _ => committed known.1, fun _ => known.2.2.2.le.trans (committed known.1)⟩
    | iterate => exact committed known
    | wait => exact committed known.1
    | copy => exact committed known.1

/-- The connection reads from now on. -/
theorem Sound.verify (sound : Sound base log w) {useWal : Bool} {mxI mxReadMark : Nat}
    (here : (w.conns c).activity = .reading useWal (.noted mxI mxReadMark)) (mark : w.aReadMark mxI = some mxReadMark)
    (current : w.live = (w.conns c).hdr) :
    Sound base log (w.set c { w.conns c with readLock := some mxI, activity := .rest }) := by
  have fits := sound.fits c
  have busy : (w.conns c).activity ≠ .rest := by rw [here]; simp
  have unlocked := fits.unlocked busy
  obtain ⟨⟨positive, below, less⟩, low⟩ := fits.begins useWal _ here
  have same : floor w.live { w.conns c with readLock := some mxI, activity := .rest } = w.live.mxFrame := by
    rw [floor, ← current, Nat.min_self]
  refine sound.put ⟨fits.salt, fits.change, fun _ => rfl, fun _ => fits.older (Or.inr busy), fun locked => ?_,
    fits.savepoints, fun held => ?_, fun i nonzero held => ?_, fun _ _ same => by (cases same),
    fun _ _ same => by (cases same)⟩
    (fun d differs => ?_) (fun d differs => ?_) fun open_ locked => ?_
  · obtain ⟨hdr, quiet⟩ := fits.writer locked
    exact ⟨hdr, fun _ => quiet fun i _ held => by rw [unlocked] at held; cases held⟩
  · exact absurd (Option.some.inj held) positive.ne'
  · obtain rfl := Option.some.inj held
    rw [same]
    refine ⟨below, by rw [current], low, ⟨mxReadMark, mark, ?_⟩, sound.fresh.lower low⟩
    rw [current]
    exact less
  · have compatible := sound.compatible c d differs.symm
    exact ⟨compatible.writers, fun busy => by (cases busy), fun _ held => by (cases held), fun _ _ _ => trivial⟩
  · have compatible := sound.compatible d c differs
    refine ⟨compatible.writers, fun _ => rfl, fun j held => ?_, fun j _ held => ?_⟩
    · have free := compatible.locks j held
      simpa only [Connection.shares, unlocked, here, ReadStep.holds, Bool.or_false, beq_eq_false_iff_ne, ne_eq,
        Bool.or_eq_false_iff, reduceCtorEq, not_false_eq_true, true_and] using free
    · rw [same]
      exact (sound.fits d).safe j
  · have open_ : (w.conns c).writeLock = false := open_
    rw [locked] at open_
    cases open_

/-- The connection reads the database only from now on. -/
theorem Sound.bypass (sound : Sound base log w) {useWal : Bool}
    (here : (w.conns c).activity = .reading useWal .bypassed) :
    Sound base log (w.set c { w.conns c with readLock := some 0, activity := .rest }) := by
  have fits := sound.fits c
  have busy : (w.conns c).activity ≠ .rest := by rw [here]; simp
  have unlocked := fits.unlocked busy
  refine sound.move ⟨fits.salt, fits.change, fun _ => rfl, fun _ => fits.older (Or.inr busy), fun locked => ?_,
    fits.savepoints, fun _ => fits.begins useWal _ here,
    fun i nonzero held => absurd (Option.some.inj held).symm nonzero,
    fun _ _ same => by (cases same), fun _ _ same => by (cases same)⟩
    ⟨rfl, fun busy => by (cases busy), fun _ held => by (cases held), fun i held => ?_, fun _ _ _ => trivial,
      fun i nonzero held => ?_⟩
  · obtain ⟨hdr, quiet⟩ := fits.writer locked
    exact ⟨hdr, fun _ => quiet fun i _ held => by rw [unlocked] at held; cases held⟩
  · simp only [Connection.shares, Bool.or_false, beq_iff_eq] at held
    exact shares_of_holds here held
  · exact absurd (Option.some.inj held).symm nonzero

end Verifying

section Steps

/-- No step of the begin of a read transaction breaks the invariant. -/
theorem Sound.walTryBeginRead (sound : Sound base log w) {useWal : Bool} {step : ReadStep} (fails : Bool)
    (here : (w.conns c).activity = .reading useWal step) : Sound base log (w.walTryBeginRead c useWal fails step) := by
  have busy : (w.conns c).activity ≠ .rest := by rw [here]; simp
  have begun := (sound.fits c).begins useWal step here
  have scanning : Begins w (w.conns c) (.scan 1 0 0) := ⟨Nat.one_pos, by decide, Nat.zero_le _⟩
  have unheld {a b c : Nat} (i : Nat) (held : (ReadStep.scan a b c).holds = some i) : step.holds =
    some i := by cases held
  cases step with
  | header =>
    rw [World.walTryBeginRead]
    split
    · rename_i whole
      exact sound.read here (fun current => by rw [whole.2, current]) fun _ held => by cases held
    · exact sound.read here scanning unheld
  | bypass =>
    rw [World.walTryBeginRead]
    split
    · exact sound.stop busy
    · split
      · exact sound.lock here begun rfl ‹_›
      · exact sound.read here scanning unheld
  | bypassed =>
    rw [World.walTryBeginRead]
    split
    · exact sound.retry here
    · exact sound.bypass here
  | scan i mxI mxReadMark =>
    obtain ⟨positive, below, less⟩ := begun
    rw [World.walTryBeginRead]
    split
    · exact sound.stop busy
    · split
      · split
        · split
          · exact sound.read here ⟨Nat.succ_pos i, ‹_›, (‹_ ∧ _› : _ ∧ _).2⟩ unheld
          · exact sound.read here ⟨Nat.succ_pos i, below, less⟩ unheld
        · exact sound.read here ⟨Nat.succ_pos i, below, less⟩ unheld
      · split
        · exact sound.read here ⟨Nat.one_pos, below, less⟩ fun _ held => by cases held
        · rename_i found
          push Not at found
          exact sound.read here ⟨Nat.pos_of_ne_zero found.2, below, less⟩ fun _ held => by cases held
  | mark i mxI mxReadMark =>
    obtain ⟨positive, below, less⟩ := begun
    rw [World.walTryBeginRead]
    split
    · exact sound.stop busy
    · split
      · split
        · rename_i inside free
          have free : ∀ d, d ≠ c → (w.conns d).shares i = false ∧
            (w.conns d).excludes i = false := of_decide_eq_true free
          have every (d : Fin n) : (w.conns d).shares i = false := by
            by_cases same : d = c
            · rw [same, Connection.shares, here, (sound.fits c).unlocked busy]
              rfl
            · exact (free d same).1
          exact (sound.remark every (some (w.conns c).hdr.mxFrame)).read here ⟨positive, inside,
            le_rfl⟩ fun _ held => by
            cases held
        · exact sound.read here ⟨Nat.succ_pos i, below, less⟩ fun _ held => by cases held
      · split
        · exact sound.retry here
        · exact sound.read here ⟨Nat.pos_of_ne_zero ‹_›, below, less⟩ fun _ held => by cases held
  | lock mxI mxReadMark =>
    rw [World.walTryBeginRead]
    split
    · exact sound.stop busy
    · split
      · exact sound.lock here begun rfl ‹_›
      · exact sound.retry here
  | locked mxI mxReadMark =>
    have fits := sound.fits c
    have unlocked := fits.unlocked busy
    rw [World.walTryBeginRead]
    refine sound.move ⟨fits.salt, fits.change, fun held => absurd unlocked held, fun _ => fits.older (Or.inr busy),
      fits.writer, fits.savepoints, fits.ignores, fun i _ held => ?_, fun _ _ same => ?_,
      fun _ _ same => by (cases same)⟩
      (weaker_reading unlocked _ _ useWal fun i held => shares_of_holds here held)
    · have held : (w.conns c).readLock = some i := held
      rw [unlocked] at held
      cases held
    · cases same
      exact ⟨begun, le_rfl⟩
  | noted mxI mxReadMark =>
    rw [World.walTryBeginRead]
    split
    · exact sound.retry here
    · rename_i changed
      push Not at changed
      exact sound.verify here changed.1 changed.2

end Steps

end SignalPods.SQLite
