import SignalPods.Foundation.Snapshots
import SignalPods.SQLite.WalWriters

namespace SignalPods.SQLite

open Foundation

variable {n : Nat} {D : Type} {base base' : Nat → D} {log log' : List (Nat × D)} {w w' : World n D} {c : Fin n}
  {pWal : Connection}

section Reading

/-- The content of a page in a snapshot. -/
def World.readPage (w : World n D) (snapshot : Snapshot) (pgno : Nat) : D :=
  let iFrame := (walFindFrame (fun _ => SQLITE_OK) w.apWiData snapshot pgno).2
  if iFrame ≠ 0 then w.frames iFrame else w.database pgno

/-- What a connection would read that began now. -/
def World.committed (w : World n D) : Nat → D :=
  w.readPage { mxFrame := w.live.mxFrame, minFrame := w.nBackfill + 1, ignored := false }

/-- What a connection reads, which may be about to begin again. -/
def World.sees (w : World n D) (pWal : Connection) : Nat → D :=
  if pWal.readLock = none then w.committed else w.readPage pWal.snapshot

/-- The same, of the log and of the database as it was when the log was begun. -/
def seen (base : Nat → D) (log : List (Nat × D)) (w : World n D) (pWal : Connection) : Nat → D :=
  if pWal.readLock = none then valueAt base log w.live.mxFrame
  else if pWal.readLock = some 0 then w.database
  else valueAt base log pWal.hdr.mxFrame

theorem Sound.within (sound : Sound base log w) {i : Nat} (nonzero : i ≠ 0) (held : (w.conns c).readLock = some i) :
    (w.conns c).hdr.mxFrame ≤ log.length := by
  have fits := sound.fits c
  cases locked : (w.conns c).writeLock with
  | true => rw [(fits.writer locked).1]
  | false =>
    have salt := (fits.reader i nonzero held).2.1
    exact (fits.older (Or.inl (by rw [held]; simp)) locked salt).trans sound.logged.committed

theorem snapshot_ignored {i : Nat} (held : pWal.readLock = some i) : pWal.snapshot.ignored = decide (i = 0) := by
  rw [Connection.snapshot, held]
  simp only [beq_eq_decide, Option.some.injEq]

/-- A page that is read is the one that is seen, if the index is mapped. -/
theorem Sound.walFindFrame (sound : Sound base log w) (reads : (w.conns c).readLock ≠ none) (maps : Nat → Nat)
    (pgno : Nat) :
    (∃ iHash, maps iHash ≠ SQLITE_OK ∧
      SQLite.walFindFrame maps w.apWiData (w.conns c).snapshot pgno = (maps iHash, 0)) ∨
      ∃ f, SQLite.walFindFrame maps w.apWiData (w.conns c).snapshot pgno = (SQLITE_OK, f) ∧
        (if f ≠ 0 then w.frames f else w.database pgno) = seen base log w (w.conns c) pgno := by
  obtain ⟨i, held⟩ := Option.ne_none_iff_exists'.mp reads
  rw [seen, if_neg reads]
  by_cases zero : i = 0
  · subst zero
    rw [SQLite.walFindFrame, if_pos (Or.inr (by rw [snapshot_ignored held]; rfl)), if_pos held]
    exact Or.inr ⟨0, rfl, rfl⟩
  · have used : (w.conns c).snapshot.ignored = false := by
      rw [snapshot_ignored held]
      exact decide_eq_false zero
    rw [if_neg (by rw [held]; simpa using zero)]
    obtain ⟨_, _, low, _, covers⟩ := (sound.fits c).reader i zero held
    refine (sound.logged.find (w.conns c).snapshot (sound.within zero held) used maps pgno).imp id ?_
    rintro ⟨f, found, outcome⟩
    refine ⟨f, found, ?_⟩
    rcases outcome with ⟨nonzero, here⟩ | ⟨rfl, absent⟩
    · have here : latest (log.take (w.conns c).hdr.mxFrame) pgno = some (w.frames f) := here
      rw [if_pos nonzero, valueAt, here]
      rfl
    · have none_here (f : Nat) (positive : 0 < f) (above : (w.conns c).minFrame ≤ f)
        (within : f ≤ (w.conns c).hdr.mxFrame) :
          number log f ≠ pgno := fun same => absent f ⟨positive, above, within, same⟩
      have less : floor w.live (w.conns c) ≤ (w.conns c).hdr.mxFrame := Nat.min_le_left ..
      have backfilled := sound.backfilled
      rw [if_neg (by simp), covers pgno fun f positive above within => none_here f positive above (within.trans less)]
      refine (valueAt_eq less fun f later within => none_here f (by omega) ?_ within).symm
      rw [floor] at later
      omega

theorem Sound.committed_eq (sound : Sound base log w) : w.committed = valueAt base log w.live.mxFrame := by
  funext pgno
  rw [World.committed, World.readPage]
  rcases sound.logged.find ⟨w.live.mxFrame, w.nBackfill + 1, false⟩ sound.logged.committed rfl
    (fun _ => SQLITE_OK) pgno with
    ⟨_, unmapped, _⟩ | ⟨f, found, outcome⟩
  · exact absurd rfl unmapped
  · have found : SQLite.walFindFrame (fun _ => SQLITE_OK) w.apWiData ⟨w.live.mxFrame, w.nBackfill + 1, false⟩ pgno =
        (SQLITE_OK, f) := found
    rw [found]
    dsimp only
    rcases outcome with ⟨nonzero, here⟩ | ⟨rfl, absent⟩
    · have here : latest (log.take w.live.mxFrame) pgno = some (w.frames f) := here
      rw [if_pos nonzero, valueAt, here]
      rfl
    · rw [if_neg (by simp)]
      exact sound.fresh pgno fun f positive above within same => absent f ⟨positive, above, within, same⟩

theorem Sound.sees_eq (sound : Sound base log w) : w.sees (w.conns c) = seen base log w (w.conns c) := by
  rw [World.sees]
  split
  · rename_i unlocked
    rw [seen, if_pos unlocked, sound.committed_eq]
  · rename_i reads
    funext pgno
    rw [World.readPage]
    rcases sound.walFindFrame reads (fun _ => SQLITE_OK) pgno with ⟨_, unmapped, _⟩ | ⟨f, found, here⟩
    · exact absurd rfl unmapped
    · rw [found]
      exact here

theorem Sound.readDbPage (sound : Sound base log w) (reads : (w.conns c).readLock ≠ none) (maps : Nat → Nat)
    (pgno : Nat) :
    (∃ iHash, maps iHash ≠ SQLITE_OK ∧ w.readDbPage c maps pgno = (maps iHash, none)) ∨
      w.readDbPage c maps pgno = (SQLITE_OK, some (w.sees (w.conns c) pgno)) := by
  rw [World.readDbPage, sound.sees_eq]
  rcases sound.walFindFrame reads maps pgno with ⟨iHash, unmapped, found⟩ | ⟨f, found, here⟩
  · rw [found]
    exact Or.inl ⟨iHash, unmapped, if_pos unmapped⟩
  · rw [found, ← here]
    exact Or.inr (if_neg (not_not_intro rfl))

/-- A connection whose header is the live one sees what is committed. -/
theorem Sound.sees_of_current (sound : Sound base log w) (current : (w.conns c).hdr = w.live) :
    w.sees (w.conns c) = w.committed := by
  rw [sound.sees_eq, sound.committed_eq, seen]
  split
  · rfl
  · split
    · rename_i ignores
      have whole := (sound.fits c).ignores ignores current
      funext pgno
      exact sound.fresh pgno fun f _ above within => absurd (above.trans within) (by omega)
    · rw [current]

end Reading

section Showing

/-- Whether a connection has a transaction. -/
def Connection.transacts (pWal : Connection) : Bool := pWal.readLock.isSome || (pWal.writeLock && !pWal.checkpoints)

def World.view (w : World n D) (pWal : Connection) : Option (View Nat D) :=
  if pWal.transacts then
    some { started := if pWal.writeLock then w.committed else w.sees pWal, current := w.sees pWal }
  else none

/-- The snapshots of a world. -/
def World.shown (w : World n D) : Snapshots (Fin n) Nat D where
  committed := w.committed
  views c := w.view (w.conns c)

/-- A step of a connection that others do not see while they read. -/
structure Spares (w : World n D) (c : Fin n) (w' : World n D) : Prop where
  conns : ∀ d, d ≠ c → w'.conns d = w.conns d
  reading : ∀ d, d ≠ c → (w.conns d).readLock ≠ none → w'.sees (w.conns d) = w.sees (w.conns d)
  writing : ∀ d, d ≠ c → (w.conns d).writeLock = true → w'.committed = w.committed

theorem Spares.view (spares : Spares w c w') {d : Fin n} (differs : d ≠ c) : w'.view (w'.conns d) = w.view
    (w.conns d) := by
  rw [spares.conns d differs, World.view, World.view]
  split
  · rename_i transacts
    cases unlocked : (w.conns d).readLock with
    | none =>
      have writes : (w.conns d).writeLock = true := by
        rw [Connection.transacts, unlocked, Option.isSome_none, Bool.false_or, Bool.and_eq_true] at transacts
        exact transacts.1
      rw [World.sees, World.sees, if_pos unlocked, if_pos unlocked, spares.writing d differs writes]
    | some i =>
      have same := spares.reading d differs (by rw [unlocked]; simp)
      rw [same]
      cases writes : (w.conns d).writeLock with
      | true => rw [spares.writing d differs writes]
      | false => simp only [Bool.false_eq_true, if_false]
  · rfl

theorem Spares.shown (spares : Spares w c w') :
    w'.shown = { w.shown.see c (w'.view (w'.conns c)) with committed := w'.committed } := by
  rw [World.shown, World.shown, Snapshots.see]
  refine congrArg (Snapshots.mk w'.committed) (funext fun d => ?_)
  dsimp only
  by_cases same : d = c
  · subst same
    rw [Function.update_self]
  · rw [Function.update_of_ne same, spares.view same]

theorem Spares.silent (spares : Spares w c w') (committed : w'.committed = w.committed)
    (view : w'.view (w'.conns c) = w.view (w.conns c)) : w'.shown = w.shown := by
  rw [spares.shown, committed, view, Snapshots.see]
  exact congrArg (Snapshots.mk w.committed) (Function.update_eq_self c w.shown.views)

/-- The log is the same up to what is committed, and is another after it only if the
connection writes. The database changes only if nobody reads it alone. -/
theorem Sound.spares (sound : Sound base log w) (sound' : Sound base log' w')
    (conns : ∀ d, d ≠ c → w'.conns d = w.conns d)
    (database : w'.database = w.database ∨ ∀ d, d ≠ c → (w.conns d).readLock ≠ some 0)
    (kept : log'.take w.live.mxFrame = log.take w.live.mxFrame)
    (frame : (w.conns c).writeLock = true ∨ (log' = log ∧ w'.live = w.live)) : Spares w c w' := by
  refine ⟨conns, fun d differs reads => ?_, fun d differs writes => ?_⟩
  · have before := sound.sees_eq (c := d)
    have after := sound'.sees_eq (c := d)
    rw [conns d differs] at after
    rw [before, after, seen, seen, if_neg reads, if_neg reads]
    split
    · exact database.resolve_right fun others => others d differs ‹_›
    · rename_i uses
      obtain ⟨i, held⟩ := Option.ne_none_iff_exists'.mp reads
      have nonzero : i ≠ 0 := fun zero => uses (zero ▸ held)
      rcases frame with writes | ⟨same, _⟩
      · have free := (sound.compatible c d differs.symm).writers writes
        have older := (sound.fits d).older (Or.inl reads) free ((sound.fits d).reader i nonzero held).2.1
        exact funext fun pgno => valueAt_of_take kept older
      · rw [same]
  · rcases frame with writes' | ⟨same, live⟩
    · have free := (sound.compatible c d differs.symm).writers writes'
      rw [writes] at free
      cases free
    · rw [sound'.committed_eq, sound.committed_eq, same, live]

theorem Sound.committed_kept (sound : Sound base log w) (sound' : Sound base log' w')
    (kept : log'.take w.live.mxFrame = log.take w.live.mxFrame) (live : w'.live.mxFrame = w.live.mxFrame) :
    w'.committed = w.committed := by
  rw [sound'.committed_eq, sound.committed_eq, live]
  exact funext fun pgno => valueAt_of_take kept le_rfl

/-- Where the log begins again, nobody reads it. -/
theorem Sound.restarted (sound : Sound base log w) (restarted : Restarted w c w') :
    Spares w c w' ∧ w'.committed = w.committed := by
  have committed : w'.committed = w.committed := by
    rw [restarted.sound.committed_eq, sound.committed_eq, restarted.mxFrame]
    funext pgno
    rw [valueAt, List.take_nil]
    exact sound.fresh pgno fun f _ above within => absurd (above.trans within) (by have := restarted.whole; omega)
  refine ⟨⟨restarted.conns, fun d differs reads => ?_, fun _ _ _ => committed⟩, committed⟩
  obtain ⟨i, held⟩ := Option.ne_none_iff_exists'.mp reads
  by_cases zero : i = 0
  · have after := restarted.sound.sees_eq (c := d)
    rw [restarted.conns d differs] at after
    rw [after, sound.sees_eq, seen, seen, if_neg reads, if_neg reads, restarted.database, if_pos (zero ▸ held),
      if_pos (zero ▸ held)]
  · have shared := lockMarks_spec restarted.free differs (Nat.pos_of_ne_zero zero) ((sound.fits d).reader i zero held).1
    rw [Connection.shares, held, beq_self_eq_true, Bool.true_or] at shared
    cases shared

theorem view_none (closed : pWal.transacts = false) : w.view pWal = none := by
  rw [World.view, closed, if_neg (by simp)]

theorem view_current (transacts : pWal.transacts = true) (current : w.sees pWal = w.committed) :
    w.view pWal = some ⟨w.committed, w.committed⟩ := by
  rw [World.view, if_pos transacts, current, ite_self]

theorem view_writes (transacts : pWal.transacts = true) (writes : pWal.writeLock = true) :
    w.view pWal = some ⟨w.committed, w.sees pWal⟩ := by
  rw [World.view, if_pos transacts, if_pos writes]

end Showing

section Steps

/-- A step of the world that commits nothing is one of its snapshots, or leaves them as
they are. Only the connection that has the write lock changes what it sees. -/
def Moves (w : World n D) (c : Fin n) (w' : World n D) : Prop :=
  w'.shown = w.shown ∨ w.shown.Reads c w'.shown ∨ ((w.conns c).writeLock = true ∧ w.shown.Writes c w'.shown)

/-- The pages that a step commits. -/
def World.commits (w : World n D) (c : Fin n) : Event D → Option (List (Nat × D))
  | .frames answers pList true nExtra =>
    if (walFrames answers (w.walOf c) pList true nExtra).1 = SQLITE_OK then some pList else none
  | _ => none

/-- A step of the world that commits pages is one of its snapshots. -/
def Performs (w : World n D) (c : Fin n) (pages : Option (List (Nat × D))) (w' : World n D) : Prop :=
  match pages with
  | none => Moves w c w'
  | some pList => (w.conns c).writeLock = true ∧ w.shown.Commits c (latest pList) w'.shown

theorem Moves.committed (moves : Moves w c w') : w'.committed = w.committed := by
  rcases moves with same | reads | ⟨_, writes⟩
  · exact congrArg Snapshots.committed same
  · exact reads.committed
  · exact writes.committed

theorem Moves.step (moves : Moves w c w') : w.shown.Step c w'.shown := by
  rcases moves with same | reads | ⟨_, writes⟩
  · exact Or.inl same
  · exact Or.inr (Or.inl reads)
  · exact Or.inr (Or.inr (Or.inl writes))

/-- Only the connection changes, and what the log and the database are not. -/
structure Private (w : World n D) (c : Fin n) (w' : World n D) : Prop where
  live : w'.live = w.live
  database : w'.database = w.database
  conns : ∀ d, d ≠ c → w'.conns d = w.conns d

theorem private_set (w : World n D) (c : Fin n) (pWal : Connection) : Private w c (w.set c pWal) :=
  ⟨rfl, rfl, fun _ differs => World.set_conns_of_ne w differs pWal⟩

theorem Private.spares (only : Private w c w') (sound : Sound base log w) (sound' : Sound base log w') :
    Spares w c w' ∧ w'.committed = w.committed :=
  ⟨sound.spares sound' only.conns (Or.inl only.database) rfl (Or.inr ⟨rfl, only.live⟩),
    sound.committed_kept sound' rfl (congrArg WalIndexHdr.mxFrame only.live)⟩

/-- The connection has no transaction before the step, and none after it. -/
theorem Spares.closed (spares : Spares w c w') (committed : w'.committed = w.committed)
    (before : (w.conns c).transacts = false)
    (after : (w'.conns c).transacts = false) : w'.shown = w.shown :=
  spares.silent committed (by rw [view_none before, view_none after])

/-- The connection sees what is committed before the step, and after it. -/
theorem Spares.current (spares : Spares w c w') (committed : w'.committed = w.committed)
    (before : (w.conns c).transacts = true) (current : w.sees (w.conns c) = w.committed)
    (after : (w'.conns c).transacts = true) (current' : w'.sees (w'.conns c) = w'.committed) : w'.shown = w.shown :=
  spares.silent committed (by rw [view_current before current, view_current after current', committed])

theorem Spares.ends (spares : Spares w c w') (committed : w'.committed = w.committed)
    (after : (w'.conns c).transacts = false) : w.shown.Reads c w'.shown := by
  have shown := spares.shown
  rw [view_none after, committed] at shown
  rw [shown]
  exact .ends

/-- Where a step of the begin of a read transaction may lead. -/
structure Attempts (w : World n D) (c : Fin n) (w' : World n D) : Prop where
  only : Private w c w'
  writeLock : (w'.conns c).writeLock = (w.conns c).writeLock
  checkpoints : (w'.conns c).checkpoints = false
  outcome : (w'.conns c).readLock = (w.conns c).readLock ∨ ((w'.conns c).readLock ≠ none ∧ (w'.conns c).hdr = w.live)

theorem attempts_read (w : World n D) (c : Fin n) (useWal : Bool) (step : ReadStep) :
    Attempts w c (w.proceed c (.reading useWal step)) := by
  refine ⟨private_set w c _, ?_, ?_, Or.inl ?_⟩ <;> rw [World.proceed_conns_self]
  rfl

theorem attempts_rest (w : World n D) (c : Fin n) : Attempts w c (w.proceed c .rest) := by
  refine ⟨private_set w c _, ?_, ?_, Or.inl ?_⟩ <;> rw [World.proceed_conns_self]
  rfl

theorem attempts_retry (w : World n D) (c : Fin n) (useWal : Bool) : Attempts w c
    (w.set c ((w.conns c).retry useWal)) := by
  cases useWal with
  | true => exact attempts_read w c true (.scan 1 0 0)
  | false => exact attempts_rest w c

theorem attempts_walTryBeginRead (w : World n D) (c : Fin n) (useWal fails : Bool) (step : ReadStep) :
    Attempts w c (w.walTryBeginRead c useWal fails step) := by
  have begun (i : Nat) (current : w.live = (w.conns c).hdr) :
      Attempts w c (w.set c { w.conns c with readLock := some i, activity := .rest }) := by
    refine ⟨private_set w c _, ?_, ?_, Or.inr ⟨?_, ?_⟩⟩ <;> rw [World.set_conns_self]
    · rfl
    · simp
    · exact current.symm
  cases step with
  | header =>
    rw [World.walTryBeginRead]
    split <;> exact attempts_read ..
  | bypass =>
    rw [World.walTryBeginRead]
    split
    · exact attempts_rest w c
    · split <;> exact attempts_read ..
  | bypassed =>
    rw [World.walTryBeginRead]
    split
    · exact attempts_retry ..
    · exact begun 0 (not_not.mp ‹_›)
  | scan i mxI mxReadMark =>
    rw [World.walTryBeginRead]
    split
    · exact attempts_rest w c
    · split
      · split
        · split <;> exact attempts_read ..
        · exact attempts_read ..
      · split <;> exact attempts_read ..
  | mark i mxI mxReadMark =>
    rw [World.walTryBeginRead]
    split
    · exact attempts_rest w c
    · split
      · split
        · have attempts := attempts_read
            { w with aReadMark := Function.update w.aReadMark i (some (w.conns c).hdr.mxFrame) } c useWal
            (.lock i (w.conns c).hdr.mxFrame)
          exact ⟨⟨rfl, rfl, attempts.only.conns⟩, attempts.writeLock, attempts.checkpoints, attempts.outcome⟩
        · exact attempts_read ..
      · split
        · exact attempts_retry ..
        · exact attempts_read ..
  | lock mxI mxReadMark =>
    rw [World.walTryBeginRead]
    split
    · exact attempts_rest w c
    · split
      · exact attempts_read ..
      · exact attempts_retry ..
  | locked mxI mxReadMark =>
    rw [World.walTryBeginRead]
    refine ⟨private_set w c _, ?_, ?_, Or.inl ?_⟩ <;> rw [World.set_conns_self]
    rfl
  | noted mxI mxReadMark =>
    rw [World.walTryBeginRead]
    split
    · exact attempts_retry ..
    · rename_i changed
      push Not at changed
      exact begun mxI changed.2

/-- A connection that begins to read sees what is committed. -/
theorem Sound.moves_walTryBeginRead (sound : Sound base log w) {useWal : Bool} {step : ReadStep} (fails : Bool)
    (here : (w.conns c).activity = .reading useWal step) : Moves w c (w.walTryBeginRead c useWal fails step) := by
  have sound' := sound.walTryBeginRead fails here
  have attempts := attempts_walTryBeginRead w c useWal fails step
  generalize w.walTryBeginRead c useWal fails step = w' at sound' attempts
  have unlocked : (w.conns c).readLock = none := (sound.fits c).unlocked (by rw [here]; simp)
  have idle : (w.conns c).checkpoints = false := by rw [Connection.checkpoints, here]
  have before : (w.conns c).transacts = (w.conns c).writeLock := by
    rw [Connection.transacts, unlocked, idle, Option.isSome_none, Bool.false_or, Bool.not_false, Bool.and_true]
  have current : w.sees (w.conns c) = w.committed := if_pos unlocked
  obtain ⟨spares, committed⟩ := attempts.only.spares sound sound'
  rcases attempts.outcome with same | ⟨reads, hdr⟩
  · have after : (w'.conns c).transacts = (w.conns c).writeLock := by
      rw [Connection.transacts, same, unlocked, attempts.checkpoints, attempts.writeLock, Option.isSome_none,
        Bool.false_or,
        Bool.not_false, Bool.and_true]
    refine Or.inl ?_
    cases writes : (w.conns c).writeLock with
    | false => exact spares.closed committed (before.trans writes) (after.trans writes)
    | true =>
      have current' : w'.sees (w'.conns c) = w'.committed := if_pos (same.trans unlocked)
      exact spares.current committed (before.trans writes) current (after.trans writes) current'
  · have current' := sound'.sees_of_current (hdr.trans attempts.only.live.symm)
    have after : (w'.conns c).transacts = true := by
      rw [Connection.transacts, Option.isSome_iff_ne_none.mpr reads, Bool.true_or]
    cases writes : (w.conns c).writeLock with
    | true => exact Or.inl (spares.current committed (before.trans writes) current after current')
    | false =>
      have shown := spares.shown
      rw [view_current after current', committed] at shown
      refine Or.inr (Or.inl ?_)
      rw [shown]
      exact .begins (view_none (before.trans writes))

theorem Sound.moves_crash (sound : Sound base log w) : Moves w c (w.crash c) := by
  obtain ⟨log', sound', kept, same⟩ := sound.crash (c := c)
  have only : Private w c (w.crash c) := private_set w c _
  have frame : (w.conns c).writeLock = true ∨ (log' = log ∧ (w.crash c).live = w.live) := by
    cases writes : (w.conns c).writeLock with
    | true => exact Or.inl rfl
    | false => exact Or.inr ⟨same writes, rfl⟩
  have spares := sound.spares sound' only.conns (Or.inl rfl) kept frame
  refine Or.inr (Or.inl (spares.ends (sound.committed_kept sound' kept rfl) ?_))
  rw [World.crash, World.set_conns_self]
  rfl

theorem Sound.moves_beginWrite (sound : Sound base log w) (rests : (w.conns c).activity = .rest)
    (reads : (w.conns c).readLock ≠ none) (open_ : (w.conns c).writeLock = false) :
    Moves w c (w.sqlite3WalBeginWriteTransaction c) := by
  have sound' := sound.sqlite3WalBeginWriteTransaction rests open_
  rw [World.sqlite3WalBeginWriteTransaction] at sound' ⊢
  split at sound'
  · rw [if_pos ‹_›]
    exact Or.inl rfl
  · rename_i free
    rw [if_neg free]
    push Not at free
    obtain ⟨spares, committed⟩ := (private_set w c { w.conns c with writeLock := true }).spares sound sound'
    have transacts : (w.conns c).transacts = true := by
      rw [Connection.transacts, Option.isSome_iff_ne_none.mpr reads, Bool.true_or]
    refine Or.inl (spares.current committed transacts (sound.sees_of_current free.2) ?_ (sound'.sees_of_current ?_))
    · rw [World.set_conns_self, Connection.transacts, Option.isSome_iff_ne_none.mpr reads, Bool.true_or]
    · rw [World.set_conns_self]
      exact free.2

theorem Sound.moves_endWrite (sound : Sound base log w) (rests : (w.conns c).activity = .rest)
    (writes : (w.conns c).writeLock = true) (current : (w.conns c).hdr = w.live) :
    Moves w c (w.sqlite3WalEndWriteTransaction c) := by
  have sound' := sound.sqlite3WalEndWriteTransaction rests writes current
  have only : Private w c (w.sqlite3WalEndWriteTransaction c) := private_set w c _
  obtain ⟨spares, committed⟩ := only.spares sound sound'
  have self : (w.sqlite3WalEndWriteTransaction c).conns c = { w.conns c with writeLock := false, aSavepoint := [] } :=
    World.set_conns_self ..
  cases unlocked : (w.conns c).readLock with
  | none =>
    refine Or.inr (Or.inl (spares.ends committed ?_))
    rw [self, Connection.transacts, unlocked]
    rfl
  | some i =>
    refine Or.inl (spares.current committed ?_ (sound.sees_of_current current) ?_ (sound'.sees_of_current ?_))
    · rw [Connection.transacts, unlocked]
      rfl
    · rw [self, Connection.transacts, unlocked]
      rfl
    · rw [self]
      exact current

theorem Sound.moves_openSavepoint (sound : Sound base log w) (writes : (w.conns c).writeLock = true) :
    Moves w c (w.openSavepoint c) := by
  have sound' := sound.openSavepoint writes
  have only : Private w c (w.openSavepoint c) := private_set w c _
  obtain ⟨spares, committed⟩ := only.spares sound sound'
  have self : (w.openSavepoint c).conns c =
      { w.conns c with aSavepoint := sqlite3WalSavepoint (w.walOf c) :: (w.conns c).aSavepoint } :=
    World.set_conns_self ..
  have sees : (w.openSavepoint c).sees ((w.openSavepoint c).conns c) = w.sees (w.conns c) := by
    rw [sound'.sees_eq, sound.sees_eq, self]
    rfl
  refine Or.inl (spares.silent committed ?_)
  rw [World.view, World.view, sees, committed, self]
  rfl

theorem Sound.moves_restartLog (sound : Sound base log w) (rests : (w.conns c).activity = .rest)
    (writes : (w.conns c).writeLock = true) (ignores : (w.conns c).readLock = some 0) : Moves w c
      (w.walRestartLog c) := by
  have fits := sound.fits c
  have transacts : (w.conns c).transacts = true := by
    rw [Connection.transacts, ignores]
    rfl
  have current : w.sees (w.conns c) = w.committed := by
    refine sound.sees_of_current ?_
    rw [(fits.writer writes).1, (fits.writer writes).2 fun i nonzero held =>
      nonzero (Option.some.inj (held.symm.trans ignores))]
  have after : ((w.walRestartLog c).conns c).transacts = true ∧ ((w.walRestartLog c).conns c).readLock = none := by
    rw [World.walRestartLog, World.set_conns_self]
    refine ⟨?_, rfl⟩
    rw [Connection.transacts]
    split
    · rw [(walRestartHdr_conns w c).1]
      exact Bool.or_eq_true_iff.mpr (Or.inr (Bool.and_eq_true_iff.mpr ⟨writes, rfl⟩))
    · exact Bool.or_eq_true_iff.mpr (Or.inr (Bool.and_eq_true_iff.mpr ⟨writes, rfl⟩))
  have moves (spares : Spares w c (w.walRestartLog c)) (committed : (w.walRestartLog c).committed = w.committed) :
      Moves w c (w.walRestartLog c) :=
    Or.inl (spares.current committed transacts current after.1 (if_pos after.2))
  rcases sound.walRestartLog rests writes ignores with restarted | ⟨sound', same⟩
  · obtain ⟨spares, committed⟩ := sound.restarted restarted
    exact moves spares committed
  · have only : Private w c (w.walRestartLog c) := by
      rw [same]
      exact private_set w c _
    obtain ⟨spares, committed⟩ := only.spares sound sound'
    exact moves spares committed

end Steps

section Writes

/-- What a connection sees that writes to the log. -/
theorem Sound.sees_writer (sound : Sound base log w) (writes : (w.conns c).writeLock = true) {i : Nat} (nonzero : i ≠ 0)
    (held : (w.conns c).readLock = some i) : w.sees (w.conns c) = fun pgno => (latest log pgno).getD (base pgno) := by
  rw [sound.sees_eq, seen, if_neg (by rw [held]; simp), if_neg (by rw [held]; simpa using nonzero)]
  funext pgno
  rw [valueAt, ((sound.fits c).writer writes).1, List.take_length]

theorem transacts_of_writes (writes : pWal.writeLock = true) (rests : pWal.activity = .rest) : pWal.transacts =
    true := by
  rw [Connection.transacts, writes, Connection.checkpoints, rests]
  exact Bool.or_true _

/-- What is committed stays, and what the connection sees that writes may be other. -/
theorem Sound.moves_write (sound : Sound base log w) (sound' : Sound base log' w')
    (writes : (w.conns c).writeLock = true)
    (rests : (w.conns c).activity = .rest) (only : Private w c w')
      (kept : log'.take w.live.mxFrame = log.take w.live.mxFrame)
    (writes' : (w'.conns c).writeLock = true) (rests' : (w'.conns c).activity = .rest) :
    w'.shown = w.shown.see c (some ⟨w.committed, w'.sees (w'.conns c)⟩) ∧
      w.shown.views c = some ⟨w.committed, w.sees (w.conns c)⟩ := by
  have committed := sound.committed_kept sound' kept (congrArg WalIndexHdr.mxFrame only.live)
  have shown := (sound.spares sound' only.conns (Or.inl only.database) kept (Or.inl writes)).shown
  rw [view_writes (transacts_of_writes writes' rests') writes', committed] at shown
  exact ⟨shown, view_writes (transacts_of_writes writes rests) writes⟩

theorem Sound.moves_walUndo (sound : Sound base log w) (writes : (w.conns c).writeLock = true)
    (rests : (w.conns c).activity = .rest) : Moves w c (w.walUndo c) := by
  have sound' := sound.walUndo writes rests
  have self : (w.walUndo c).conns c = { w.conns c with
      hdr := (SQLite.sqlite3WalUndo (w.walOf c)).2.hdr, minFrame := (SQLite.sqlite3WalUndo (w.walOf c)).2.minFrame
      nCkpt := (SQLite.sqlite3WalUndo (w.walOf c)).2.nCkpt, aSavepoint := [] } := by
    rw [World.walUndo, World.set_conns_self, World.withWal]
    dsimp only
    rw [Function.update_self]
  have live : (w.walUndo c).live = w.live := (sqlite3WalUndo_same (w.walOf c)).2.2
  have only : Private w c (w.walUndo c) := by
    refine ⟨live, rfl, fun d differs => ?_⟩
    rw [World.walUndo, World.set_conns_of_ne _ differs]
    exact Function.update_of_ne differs ..
  have writes' : ((w.walUndo c).conns c).writeLock = true := by
    rw [self]
    exact writes
  have kept : (log.take w.live.mxFrame).take w.live.mxFrame = log.take w.live.mxFrame := by
    rw [List.take_take, Nat.min_self]
  obtain ⟨shown, view⟩ := sound.moves_write sound' writes rests only kept writes' (by rw [self]; exact rests)
  have current : (w.walUndo c).sees ((w.walUndo c).conns c) = w.committed := by
    rw [sound'.sees_of_current, sound.committed_kept sound' kept (congrArg WalIndexHdr.mxFrame live)]
    have length : (log.take w.live.mxFrame).length = w.live.mxFrame := List.length_take_of_le sound.logged.committed
    rw [((sound'.fits c).writer writes').1, length, live]
  rw [current] at shown
  refine Or.inr (Or.inr ⟨writes, ?_⟩)
  rw [shown]
  exact .undoes view rfl

theorem Sound.moves_walSavepointUndo (sound : Sound base log w) (writes : (w.conns c).writeLock = true)
    (rests : (w.conns c).activity = .rest) (iSavepoint : Nat) : Moves w c (w.walSavepointUndo c iSavepoint) := by
  obtain ⟨log', sound', kept⟩ := sound.walSavepointUndo writes rests iSavepoint
  have only : Private w c (w.walSavepointUndo c iSavepoint) ∧
      ((w.walSavepointUndo c iSavepoint).conns c).writeLock = true ∧
      ((w.walSavepointUndo c iSavepoint).conns c).activity = .rest := by
    rw [World.walSavepointUndo]
    split
    · exact ⟨⟨rfl, rfl, fun _ _ => rfl⟩, writes, rests⟩
    · rename_i aWalData older dropped
      dsimp only
      refine ⟨⟨(sqlite3WalSavepointUndo_same (w.walOf c) aWalData).2.2, rfl, fun d differs => ?_⟩, ?_, ?_⟩
      · rw [World.set_conns_of_ne _ differs]
        exact Function.update_of_ne differs ..
      · rw [World.set_conns_self, World.withWal]
        dsimp only
        rw [Function.update_self]
        exact writes
      · rw [World.set_conns_self, World.withWal]
        dsimp only
        rw [Function.update_self]
        exact rests
  obtain ⟨shown, view⟩ := sound.moves_write sound' writes rests only.1 kept only.2.1 only.2.2
  refine Or.inr (Or.inr ⟨writes, ?_⟩)
  rw [shown]
  exact .wavers view rfl _

theorem sqlite3WalFrames_conns (w : World n D) (c : Fin n) (answers : Answers D) (pList : List (Nat × D))
    (isCommit : Bool)
    (nExtra : Nat) :
    ((w.sqlite3WalFrames c answers pList isCommit nExtra).conns c).writeLock = (w.conns c).writeLock ∧
      ((w.sqlite3WalFrames c answers pList isCommit nExtra).conns c).readLock = (w.conns c).readLock ∧
      ((w.sqlite3WalFrames c answers pList isCommit nExtra).conns c).activity = (w.conns c).activity ∧
      (∀ d, d ≠ c → (w.sqlite3WalFrames c answers pList isCommit nExtra).conns d = w.conns d) ∧
      (w.sqlite3WalFrames c answers pList isCommit nExtra).database = w.database := by
  rw [World.sqlite3WalFrames]
  dsimp only
  generalize walFrames answers (w.walOf c) pList isCommit nExtra = written
  have self : (w.withWal c written.2).conns c =
      { w.conns c with hdr := written.2.hdr, minFrame := written.2.minFrame, nCkpt := written.2.nCkpt } :=
    Function.update_self ..
  have others (d : Fin n) (differs : d ≠ c) : (w.withWal c written.2).conns d =
    w.conns d := Function.update_of_ne differs ..
  split
  · rw [World.set_conns_self, self]
    exact ⟨rfl, rfl, rfl, fun d differs => (World.set_conns_of_ne _ differs _).trans (others d differs), rfl⟩
  · rw [self]
    exact ⟨rfl, rfl, rfl, others, rfl⟩

/-- The pages of a set are over what the connection has seen, and are what is committed
if the set commits. -/
theorem Sound.sqlite3WalFrames_values (sound : Sound base log w) (writes : (w.conns c).writeLock = true)
    (rests : (w.conns c).activity = .rest) {i : Nat} (nonzero : i ≠ 0) (held : (w.conns c).readLock = some i)
    {pList : List (Nat × D)} (pages : ∀ p ∈ pList, p.1 ≠ 0) (answers : Answers D) (isCommit : Bool)
      (nExtra : Nat) {w' : World n D}
    (stepped : w.sqlite3WalFrames c answers pList isCommit nExtra = w') :
    (∃ log', Sound base log' w') ∧ Spares w c w' ∧
      w'.view (w'.conns c) = some ⟨w'.committed, w'.sees (w'.conns c)⟩ ∧
      (((walFrames answers (w.walOf c) pList isCommit nExtra).1 = SQLITE_OK ∧
          w'.sees (w'.conns c) = overlay (latest pList) (w.sees (w.conns c)) ∧
          w'.committed = if isCommit then overlay (latest pList) (w.sees (w.conns c)) else w.committed) ∨
        ((walFrames answers (w.walOf c) pList isCommit nExtra).1 ≠ SQLITE_OK ∧ w'.committed = w.committed)) := by
  obtain ⟨log', sound', kept, outcome⟩ := sound.sqlite3WalFrames writes rests nonzero held pages answers isCommit nExtra
  obtain ⟨writes', held', rests', others, database⟩ := sqlite3WalFrames_conns w c answers pList isCommit nExtra
  rw [stepped] at sound' outcome writes' held' rests' others database
  rw [writes] at writes'
  refine ⟨⟨log', sound'⟩, sound.spares sound' others (Or.inl database) kept (Or.inl writes),
    view_writes (transacts_of_writes writes' (rests'.trans rests)) writes', outcome.imp ?_ ?_⟩
  · rintro ⟨ok, contents, mxFrame⟩
    have sees : w'.sees (w'.conns c) = overlay (latest pList) (w.sees (w.conns c)) := by
      rw [sound'.sees_writer writes' nonzero (held'.trans held), sound.sees_writer writes nonzero held]
      funext pgno
      rw [contents pgno, overlay]
      cases latest pList pgno <;> rfl
    refine ⟨ok, sees, ?_⟩
    cases isCommit with
    | false => exact sound.committed_kept sound' kept mxFrame
    | true =>
      have mxFrame : w'.live.mxFrame = log'.length := mxFrame
      rw [if_pos rfl, ← sees, sound'.sees_writer writes' nonzero (held'.trans held), sound'.committed_eq, mxFrame]
      funext pgno
      rw [valueAt, List.take_length]
  · rintro ⟨refused, live⟩
    exact ⟨refused, sound.committed_kept sound' kept (congrArg WalIndexHdr.mxFrame live)⟩

theorem Sound.moves_sqlite3WalFrames (sound : Sound base log w) (writes : (w.conns c).writeLock = true)
    (rests : (w.conns c).activity = .rest) {i : Nat} (nonzero : i ≠ 0) (held : (w.conns c).readLock = some i)
    {pList : List (Nat × D)} (pages : ∀ p ∈ pList, p.1 ≠ 0) (answers : Answers D) (isCommit : Bool) (nExtra : Nat) :
    Performs w c (w.commits c (.frames answers pList isCommit nExtra))
      (w.sqlite3WalFrames c answers pList isCommit nExtra) := by
  obtain ⟨_, spares, view', outcome⟩ :=
    sound.sqlite3WalFrames_values writes rests nonzero held pages answers isCommit nExtra rfl
  have view : w.shown.views c = some ⟨w.committed, w.sees (w.conns c)⟩ := view_writes
    (transacts_of_writes writes rests) writes
  have shown := spares.shown
  rw [view'] at shown
  rcases outcome with ⟨ok, sees, committed⟩ | ⟨refused, committed⟩
  · rw [sees] at shown
    cases isCommit with
    | false =>
      have committed : _ = w.committed := committed
      rw [committed] at shown
      refine Or.inr (Or.inr ⟨writes, ?_⟩)
      rw [shown]
      exact .changes view rfl (latest pList)
    | true =>
      have committed : _ = overlay (latest pList) (w.sees (w.conns c)) := committed
      rw [committed] at shown
      rw [World.commits, if_pos ok]
      refine ⟨writes, ?_⟩
      rw [shown]
      exact .commits view rfl
  · have unfinished : w.commits c (.frames answers pList isCommit nExtra) = none := by
      cases isCommit with
      | false => rfl
      | true => rw [World.commits, if_neg refused]
    rw [committed] at shown
    rw [unfinished]
    refine Or.inr (Or.inr ⟨writes, ?_⟩)
    rw [shown]
    exact .wavers view rfl _

end Writes

section Checkpoints

theorem Sound.moves_sqlite3WalCheckpoint (sound : Sound base log w) (unlocked : (w.conns c).readLock = none)
    (reads : (w.conns c).writeLock = false) (eMode : CheckpointMode) : Moves w c (w.sqlite3WalCheckpoint c eMode) := by
  have sound' := sound.sqlite3WalCheckpoint unlocked reads eMode
  rw [World.sqlite3WalCheckpoint] at sound' ⊢
  split at sound'
  · rw [if_pos ‹_›]
    exact Or.inl rfl
  · rw [if_neg ‹_›]
    obtain ⟨spares, committed⟩ := (private_set w c _).spares sound sound'
    refine Or.inl (spares.closed committed ?_ ?_)
    · rw [Connection.transacts, unlocked, reads]
      rfl
    · rw [World.set_conns_self, Connection.transacts, unlocked]
      exact Bool.and_false _

/-- Where a step of a checkpoint may lead that does not begin the log again. -/
structure Continues (w : World n D) (c : Fin n) (w' : World n D) : Prop where
  live : w'.live = w.live
  conns : ∀ d, d ≠ c → w'.conns d = w.conns d
  database : w'.database = w.database ∨ (w.conns c).excludes 0 = true
  transacts : (w.conns c).readLock = none → (w'.conns c).transacts = false

theorem continues_release (w : World n D) (c : Fin n) : Continues w c (w.release c) := by
  refine ⟨rfl, (private_set w c _).conns, Or.inl rfl, fun unlocked => ?_⟩
  rw [World.release, World.set_conns_self, Connection.transacts, unlocked]
  rfl

theorem continues_proceed (w : World n D) (c : Fin n) (eMode : CheckpointMode) (step : CheckpointStep) :
    Continues w c (w.proceed c (.checkpointing eMode step)) := by
  refine ⟨rfl, (private_set w c _).conns, Or.inl rfl, fun unlocked => ?_⟩
  rw [World.proceed_conns_self, Connection.transacts, unlocked]
  exact Bool.and_false _

theorem Continues.shared (continues : Continues w c w') {w'' : World n D} (live : w''.live = w'.live)
    (conns : w''.conns = w'.conns) (database : w''.database = w'.database ∨ (w.conns c).excludes 0 = true) :
    Continues w c w'' := by
  refine ⟨live.trans continues.live, fun d differs => conns ▸ continues.conns d differs, ?_, fun unlocked => ?_⟩
  · exact database.elim (fun same => continues.database.imp_left same.trans) Or.inr
  · rw [conns]
    exact continues.transacts unlocked

theorem continues_walCheckpoint {eMode : CheckpointMode} {step : CheckpointStep}
    (here : (w.conns c).activity = .checkpointing eMode step) (ends : step ≠ .finish) (granted : Bool)
      (maps : Nat → Nat)
    (failed : Option D) : Continues w c (w.walCheckpoint c eMode granted maps failed step) := by
  have released := continues_release w c
  have goes (step : CheckpointStep) := continues_proceed w c eMode step
  cases step with
  | finish => exact absurd rfl ends
  | header =>
    rw [World.walCheckpoint]
    split <;> exact goes _
  | mark i mxSafeFrame =>
    rw [World.walCheckpoint]
    split
    · split
      · split <;> exact goes _
      · exact goes _
    · exact goes _
  | store i mxSafeFrame y =>
    rw [World.walCheckpoint]
    split
    · exact released
    · split
      · exact (goes (.mark (i + 1) mxSafeFrame)).shared rfl rfl (Or.inl rfl)
      · exact goes _
  | iterate mxSafeFrame =>
    rw [World.walCheckpoint]
    split
    · split
      · exact goes _
      · exact released
    · exact goes _
  | wait mxSafeFrame pIter =>
    rw [World.walCheckpoint]
    split
    · exact released
    · split <;> exact goes _
  | copy mxSafeFrame nBackfill pIter =>
    have excludes : (w.conns c).excludes 0 = true := by
      rw [Connection.excludes, here]
      rfl
    rw [World.walCheckpoint]
    split
    · split
      · exact released
      · exact (goes .finish).shared rfl rfl (Or.inl rfl)
    · split
      · split
        · exact released
        · exact goes _
      · split
        · exact released.shared rfl rfl (Or.inr excludes)
        · exact (goes (.copy mxSafeFrame nBackfill _)).shared rfl rfl (Or.inr excludes)

theorem Sound.moves_walCheckpoint (sound : Sound base log w) {eMode : CheckpointMode} {step : CheckpointStep}
    (here : (w.conns c).activity = .checkpointing eMode step) (current : step = .header →
      (w.conns c).hdr.aSalt = w.live.aSalt)
    (granted : Bool) (maps : Nat → Nat) (failed : Option D) :
    (∃ base' log', Sound base' log' (w.walCheckpoint c eMode granted maps failed step)) ∧
      Moves w c (w.walCheckpoint c eMode granted maps failed step) := by
  have unlocked := (sound.fits c).unlocked (busy_of_checkpoints here)
  have before : (w.conns c).transacts = false := by
    rw [Connection.transacts, unlocked, checkpoints_of here]
    exact Bool.and_false _
  by_cases ends : step = .finish
  · subst ends
    rcases sound.walCheckpoint_finish here granted maps failed with restarted | ⟨sound', released⟩
    · obtain ⟨spares, committed⟩ := sound.restarted restarted
      refine ⟨⟨_, _, restarted.sound⟩, Or.inl (spares.closed committed before ?_)⟩
      rw [World.walCheckpoint]
      split
      · rw [World.release, World.set_conns_self, Connection.transacts, (walRestartHdr_conns w c).1, unlocked]
        rfl
      · exact (continues_release w c).transacts unlocked
    · rw [released] at sound' ⊢
      obtain ⟨spares, committed⟩ := (private_set w c _).spares sound sound'
      exact ⟨⟨_, _, sound'⟩, Or.inl (spares.closed committed before ((continues_release w c).transacts unlocked))⟩
  · have sound' := sound.walCheckpoint here current ends granted maps failed
    have continues := continues_walCheckpoint here ends granted maps failed
    generalize w.walCheckpoint c eMode granted maps failed step = w' at sound' continues
    have database : w'.database = w.database ∨ ∀ d, d ≠ c → (w.conns d).readLock ≠ some 0 := by
      refine continues.database.imp_right fun excludes d differs held => ?_
      have free := (sound.compatible c d differs.symm).locks 0 excludes
      rw [Connection.shares, held, beq_self_eq_true, Bool.true_or] at free
      cases free
    have spares := sound.spares sound' continues.conns database rfl (Or.inr ⟨rfl, continues.live⟩)
    have committed := sound.committed_kept sound' rfl (congrArg WalIndexHdr.mxFrame continues.live)
    exact ⟨⟨_, _, sound'⟩, Or.inl (spares.closed committed before (continues.transacts unlocked))⟩

end Checkpoints

section System

/-- A checkpoint does not look at the numbers of the index first after the log was
restarted whose header it has. -/
def Timely (w : World n D) (c : Fin n) : Event D → Prop
  | .work .. =>
    match (w.conns c).activity with
    | .checkpointing _ .header => (w.conns c).hdr.aSalt = w.live.aSalt
    | _ => True
  | _ => True

instance (w : World n D) (c : Fin n) (event : Event D) : Decidable (Timely w c event) := by
  unfold Timely
  split
  · split <;> infer_instance
  · infer_instance

theorem walCheckpoint_conns {eMode : CheckpointMode} {step : CheckpointStep}
    (here : (w.conns c).activity = .checkpointing eMode step) (granted : Bool) (maps : Nat → Nat) (failed : Option D)
    {d : Fin n} (differs : d ≠ c) : (w.walCheckpoint c eMode granted maps failed step).conns d = w.conns d := by
  by_cases ends : step = .finish
  · subst ends
    rw [World.walCheckpoint]
    split
    · rw [World.release, World.set_conns_of_ne _ differs, (walRestartHdr_conns w c).2 d differs]
    · exact (continues_release w c).conns d differs
  · exact (continues_walCheckpoint here ends granted maps failed).conns d differs

/-- A step of a connection leaves the others as they are. -/
theorem step_conns {event : Event D} (steps : w.step c event = some w') {d : Fin n} (differs : d ≠ c) :
    w'.conns d = w.conns d := by
  have others (pWal : Connection) : (w.set c pWal).conns d = w.conns d := World.set_conns_of_ne w differs pWal
  cases event with
  | next fails =>
    rw [World.step] at steps
    split at steps
    · obtain rfl := Option.some.inj steps
      exact (attempts_walTryBeginRead ..).only.conns d differs
    · cases steps
  | work granted maps failed =>
    rw [World.step] at steps
    split at steps
    · rename_i eMode step here
      obtain rfl := Option.some.inj steps
      exact walCheckpoint_conns here granted maps failed differs
    · cases steps
  | crash =>
    obtain rfl := Option.some.inj steps
    exact others _
  | frames answers pList isCommit nExtra =>
    rw [World.step, Option.ite_none_right_eq_some, Option.some.injEq] at steps
    obtain ⟨_, rfl⟩ := steps
    exact (sqlite3WalFrames_conns w c answers pList isCommit nExtra).2.2.2.1 d differs
  | undo =>
    rw [World.step, Option.ite_none_right_eq_some, Option.some.injEq] at steps
    obtain ⟨_, rfl⟩ := steps
    exact (World.set_conns_of_ne _ differs _).trans (Function.update_of_ne differs ..)
  | savepointUndo iSavepoint =>
    rw [World.step, Option.ite_none_right_eq_some, Option.some.injEq] at steps
    obtain ⟨_, rfl⟩ := steps
    rw [World.walSavepointUndo]
    split
    · rfl
    · exact (World.set_conns_of_ne _ differs _).trans (Function.update_of_ne differs ..)
  | restartLog =>
    rw [World.step, Option.ite_none_right_eq_some, Option.some.injEq] at steps
    obtain ⟨_, rfl⟩ := steps
    rw [World.walRestartLog, World.set_conns_of_ne _ differs]
    split
    · exact (walRestartHdr_conns w c).2 d differs
    · rfl
  | beginWrite =>
    rw [World.step, Option.ite_none_right_eq_some, Option.some.injEq, World.sqlite3WalBeginWriteTransaction] at steps
    obtain ⟨_, rfl⟩ := steps
    split
    · rfl
    · exact others _
  | checkpoint eMode =>
    rw [World.step, Option.ite_none_right_eq_some, Option.some.injEq, World.sqlite3WalCheckpoint] at steps
    obtain ⟨_, rfl⟩ := steps
    split
    · rfl
    · exact others _
  | _ =>
    rw [World.step, Option.ite_none_right_eq_some, Option.some.injEq] at steps
    obtain ⟨_, rfl⟩ := steps
    exact others _

theorem Sound.step (sound : Sound base log w) {event : Event D} (timely : Timely w c event)
    (steps : w.step c event = some w') :
    (∃ base' log', Sound base' log' w') ∧ Performs w c (w.commits c event) w' := by
  cases event with
  | beginRead =>
    rw [World.step, Option.ite_none_right_eq_some, Option.some.injEq] at steps
    obtain ⟨⟨_, unlocked, reads⟩, rfl⟩ := steps
    have sound' := sound.sqlite3WalBeginReadTransaction unlocked reads
    have only : Private w c (w.sqlite3WalBeginReadTransaction c) := private_set w c _
    obtain ⟨spares, committed⟩ := only.spares sound sound'
    refine ⟨⟨_, _, sound'⟩, Or.inl (spares.closed committed ?_ ?_)⟩
    · rw [Connection.transacts, unlocked, reads]
      rfl
    · rw [World.sqlite3WalBeginReadTransaction, World.set_conns_self, Connection.transacts, unlocked, reads]
      rfl
  | next fails =>
    rw [World.step] at steps
    split at steps
    · rename_i useWal step here
      obtain rfl := Option.some.inj steps
      exact ⟨⟨_, _, sound.walTryBeginRead fails here⟩, sound.moves_walTryBeginRead fails here⟩
    · cases steps
  | endRead =>
    rw [World.step, Option.ite_none_right_eq_some, Option.some.injEq] at steps
    obtain ⟨rests, rfl⟩ := steps
    rw [endRead_eq_crash (rests_iff.mp rests)]
    obtain ⟨log', sound', _⟩ := sound.crash (c := c)
    exact ⟨⟨_, _, sound'⟩, sound.moves_crash⟩
  | beginWrite =>
    rw [World.step, Option.ite_none_right_eq_some, Option.some.injEq] at steps
    obtain ⟨⟨rests, reads, open_⟩, rfl⟩ := steps
    have rests := rests_iff.mp rests
    exact ⟨⟨_, _, sound.sqlite3WalBeginWriteTransaction rests open_⟩, sound.moves_beginWrite rests reads open_⟩
  | restartLog =>
    rw [World.step, Option.ite_none_right_eq_some, Option.some.injEq] at steps
    obtain ⟨⟨rests, writes, ignores⟩, rfl⟩ := steps
    have rests := rests_iff.mp rests
    refine ⟨?_, sound.moves_restartLog rests writes ignores⟩
    rcases sound.walRestartLog rests writes ignores with restarted | ⟨sound', _⟩
    · exact ⟨_, _, restarted.sound⟩
    · exact ⟨_, _, sound'⟩
  | savepoint =>
    rw [World.step, Option.ite_none_right_eq_some, Option.some.injEq] at steps
    obtain ⟨⟨_, writes, _⟩, rfl⟩ := steps
    exact ⟨⟨_, _, sound.openSavepoint writes⟩, sound.moves_openSavepoint writes⟩
  | frames answers pList isCommit nExtra =>
    rw [World.step, Option.ite_none_right_eq_some, Option.some.injEq] at steps
    obtain ⟨⟨rests, writes, reads, uses, pages⟩, rfl⟩ := steps
    have rests := rests_iff.mp rests
    obtain ⟨i, held⟩ := Option.ne_none_iff_exists'.mp reads
    have nonzero : i ≠ 0 := fun zero => uses (zero ▸ held)
    refine ⟨?_, sound.moves_sqlite3WalFrames writes rests nonzero held pages answers isCommit nExtra⟩
    obtain ⟨log', sound', _⟩ := sound.sqlite3WalFrames writes rests nonzero held pages answers isCommit nExtra
    exact ⟨_, _, sound'⟩
  | undo =>
    rw [World.step, Option.ite_none_right_eq_some, Option.some.injEq] at steps
    obtain ⟨⟨rests, writes⟩, rfl⟩ := steps
    have rests := rests_iff.mp rests
    exact ⟨⟨_, _, sound.walUndo writes rests⟩, sound.moves_walUndo writes rests⟩
  | savepointUndo iSavepoint =>
    rw [World.step, Option.ite_none_right_eq_some, Option.some.injEq] at steps
    obtain ⟨⟨rests, writes⟩, rfl⟩ := steps
    have rests := rests_iff.mp rests
    obtain ⟨log', sound', _⟩ := sound.walSavepointUndo writes rests iSavepoint
    exact ⟨⟨_, _, sound'⟩, sound.moves_walSavepointUndo writes rests iSavepoint⟩
  | endWrite =>
    rw [World.step, Option.ite_none_right_eq_some, Option.some.injEq] at steps
    obtain ⟨⟨rests, writes, current⟩, rfl⟩ := steps
    have rests := rests_iff.mp rests
    exact ⟨⟨_, _, sound.sqlite3WalEndWriteTransaction rests writes current⟩, sound.moves_endWrite rests writes current⟩
  | checkpoint eMode =>
    rw [World.step, Option.ite_none_right_eq_some, Option.some.injEq] at steps
    obtain ⟨⟨_, unlocked, reads⟩, rfl⟩ := steps
    exact ⟨⟨_, _, sound.sqlite3WalCheckpoint unlocked reads eMode⟩,
      sound.moves_sqlite3WalCheckpoint unlocked reads eMode⟩
  | work granted maps failed =>
    rw [World.step] at steps
    split at steps
    · rename_i eMode step here
      obtain rfl := Option.some.inj steps
      have current (first : step = .header) : (w.conns c).hdr.aSalt = w.live.aSalt := by
        subst first
        rw [Timely, here] at timely
        exact timely
      exact sound.moves_walCheckpoint here current granted maps failed
    · cases steps
  | crash =>
    obtain rfl := Option.some.inj steps
    obtain ⟨log', sound', _⟩ := sound.crash (c := c)
    exact ⟨⟨_, _, sound'⟩, sound.moves_crash⟩

theorem Performs.step {pages : Option (List (Nat × D))}
    (performs : Performs w c pages w') : w.shown.Step c w'.shown := by
  cases pages with
  | none => exact Moves.step performs
  | some pList => exact Or.inr (Or.inr (Or.inr ⟨_, performs.2⟩))

end System

end SignalPods.SQLite
