import SignalPods.SQLite.WalReaders

namespace SignalPods.SQLite

variable {n : Nat} {D : Type} {base : Nat → D} {log : List (Nat × D)} {w : World n D} {c : Fin n}
  {eMode : CheckpointMode} {step step' : CheckpointStep}

theorem busy_of_checkpoints (here : (w.conns c).activity = .checkpointing eMode step) :
    (w.conns c).activity ≠ .rest := by
  rw [here]
  simp

theorem checkpoints_of (here : (w.conns c).activity = .checkpointing eMode step) : (w.conns c).checkpoints = true := by
  rw [Connection.checkpoints, here]

/-- A checkpoint is alone. -/
theorem Sound.alone (sound : Sound base log w) (here : (w.conns c).activity = .checkpointing eMode step) {d : Fin n}
    (differs : d ≠ c) : (w.conns d).checkpoints = false :=
  (sound.compatible c d differs.symm).checkpointers (checkpoints_of here)

theorem Sound.advance (sound : Sound base log w) (here : (w.conns c).activity = .checkpointing eMode step)
    (known : Checkpoints log w (w.conns c) step')
    (locks : ∀ i, ({ w.conns c with activity := .checkpointing eMode step' } : Connection).excludes i = true →
      ∀ d, d ≠ c → (w.conns d).shares i = false)
    (safe : ∀ d, d ≠ c → ∀ i, i ≠ 0 → (w.conns d).readLock = some i →
      Safe (.checkpointing eMode step') i (floor w.live (w.conns d))) :
    Sound base log (w.proceed c (.checkpointing eMode step')) := by
  have busy := busy_of_checkpoints here
  have unlocked := (sound.fits c).unlocked busy
  refine sound.put ((sound.fits c).proceed unlocked busy (fun _ _ same => ?_) fun _ _ same => ?_) (fun d differs => ?_)
    (fun d differs => ?_) fun open_ locked => ?_
  · cases same
  · cases same
    exact ⟨((sound.fits c).checkpoints eMode step here).1, known⟩
  · have compatible := sound.compatible c d differs.symm
    exact ⟨compatible.writers, fun _ => sound.alone here differs, fun i held => locks i held d differs, safe d differs⟩
  · have compatible := sound.compatible d c differs
    refine ⟨compatible.writers, fun busy => ?_, fun j held => ?_, fun j _ held => ?_⟩
    · rw [sound.alone here differs] at busy
      cases busy
    · simp only [Connection.shares, unlocked, Bool.or_false, beq_eq_false_iff_ne, ne_eq, reduceCtorEq,
        not_false_eq_true]
    · have held : (w.conns c).readLock = some j := held
      rw [unlocked] at held
      cases held
  · have open_ : (w.conns c).writeLock = false := open_
    rw [locked] at open_
    cases open_

theorem Sound.release (sound : Sound base log w) (here : (w.conns c).activity = .checkpointing eMode step) :
    Sound base log (w.release c) := by
  have fits := sound.fits c
  have busy := busy_of_checkpoints here
  have unlocked := fits.unlocked busy
  refine sound.put ⟨fits.salt, fits.change, fun _ => rfl, fun active => ?_, fun locked => by (cases locked),
    fun _ member => absurd member List.not_mem_nil, fits.ignores, fun i _ held => ?_, fun _ _ same => by (cases same),
    fun _ _ same => by (cases same)⟩ (fun d differs => ?_) (fun d differs => ?_) fun _ locked => ?_
  · exact active.elim (fun held => absurd unlocked held) fun idle => absurd rfl idle
  · have held : (w.conns c).readLock = some i := held
    rw [unlocked] at held
    cases held
  · exact ⟨fun locked => by (cases locked), fun busy => by (cases busy), fun _ held => by (cases held),
      fun _ _ _ => trivial⟩
  · refine ⟨fun _ => rfl, fun _ => rfl, fun j _ => ?_, fun j _ held => ?_⟩
    · simp only [Connection.shares, unlocked, Bool.or_false, beq_eq_false_iff_ne, ne_eq, reduceCtorEq,
        not_false_eq_true]
    · have held : (w.conns c).readLock = some j := held
      rw [unlocked] at held
      cases held
  · exact (fits.writer locked).2 fun i _ held => by rw [unlocked] at held; cases held

/-- The connection is done with its frames, and checks what else it is to do. -/
theorem Sound.finish (sound : Sound base log w) (here : (w.conns c).activity = .checkpointing eMode step) :
    Sound base log (w.proceed c (.checkpointing eMode .finish)) :=
  sound.advance here trivial (fun _ held => by cases held) fun _ _ _ _ _ => trivial

theorem Sound.safe (sound : Sound base log w) (here : (w.conns c).activity = .checkpointing eMode step) {d : Fin n}
    (differs : d ≠ c) {i : Nat} (nonzero : i ≠ 0) (held : (w.conns d).readLock = some i) :
    Safe (.checkpointing eMode step) i (floor w.live (w.conns d)) := by
  have safe := (sound.compatible c d differs.symm).safe i nonzero held
  rwa [here] at safe

section Copying

/-- The database has another content for a page whose frame is not only in it. -/
theorem Sound.overwrite (sound : Sound base log w)
    (idle : ∀ d eMode step, (w.conns d).activity = .checkpointing eMode step →
      step = .finish) {f : Nat} (above : w.nBackfill < f) (within : f ≤ w.live.mxFrame)
    (safe : ∀ d i, i ≠ 0 → (w.conns d).readLock = some i → f ≤ floor w.live (w.conns d)) (data : D) :
    Sound base log { w with database := Function.update w.database (number log f) data } := by
  have other {low high : Nat} (covers : Covers base log w low high) (lower : low ≤ f) (upper : f ≤ high) :
      Covers base log { w with database := Function.update w.database (number log f) data } low high := by
    intro pgno absent
    have differs : pgno ≠ number log f := fun same => absent f (by omega) lower upper same.symm
    rw [← covers pgno absent]
    exact Function.update_of_ne differs ..
  refine ⟨sound.logged, sound.backfilled, other sound.fresh above within, sound.quiet, fun d => ?_, sound.compatible⟩
  have fits := sound.fits d
  refine ⟨fits.salt, fits.change, fits.rests, fits.older, fits.writer, fits.savepoints, fits.ignores,
    fun i nonzero held => ?_,
    fun useWal step here => ?_, fun eMode step here => ?_⟩
  · obtain ⟨below, salt, low, mark, covers⟩ := fits.reader i nonzero held
    exact ⟨below, salt, low, mark, other covers (low.trans above) (safe d i nonzero held)⟩
  · have begun := fits.begins useWal step here
    cases step <;> exact begun
  · obtain ⟨mode, _⟩ := fits.checkpoints eMode step here
    obtain rfl := idle d eMode step here
    exact ⟨mode, trivial⟩

/-- The frames up to one are in the database. -/
theorem Sound.backfill (sound : Sound base log w)
    (idle : ∀ d eMode step, (w.conns d).activity = .checkpointing eMode step →
      step = .finish) {mxSafeFrame : Nat} (more : w.nBackfill ≤ mxSafeFrame) (within : mxSafeFrame ≤ w.live.mxFrame)
    (fresh : Covers base log w (mxSafeFrame + 1) w.live.mxFrame) :
    Sound base log { w with nBackfill := mxSafeFrame } := by
  refine ⟨sound.logged, within, fresh, sound.quiet, fun d => ?_, sound.compatible⟩
  have fits := sound.fits d
  have whole (same : w.nBackfill = w.live.mxFrame) : mxSafeFrame = w.live.mxFrame := le_antisymm within (same ▸ more)
  refine ⟨fits.salt, fits.change, fits.rests, fits.older, fits.writer, fits.savepoints, fun held current => ?_,
    fun i nonzero held => ?_, fun useWal step here => ?_, fun eMode step here => ?_⟩
  · exact whole (fits.ignores held current)
  · obtain ⟨below, salt, low, mark, covers⟩ := fits.reader i nonzero held
    exact ⟨below, salt, low.trans (Nat.succ_le_succ more), mark, covers⟩
  · have begun := fits.begins useWal step here
    cases step with
    | bypass => exact fun current => whole (begun current)
    | bypassed => exact fun current => whole (begun current)
    | noted => exact ⟨begun.1, begun.2.trans (Nat.succ_le_succ more)⟩
    | header => trivial
    | scan => exact begun
    | mark => exact begun
    | lock => exact begun
    | locked => exact begun
  · obtain ⟨mode, _⟩ := fits.checkpoints eMode step here
    obtain rfl := idle d eMode step here
    exact ⟨mode, trivial⟩

theorem Sound.idle (sound : Sound base log w) (here : (w.conns c).activity = .checkpointing eMode step) (d : Fin n)
    (eMode' : CheckpointMode) (step' : CheckpointStep)
    (there : ((w.proceed c (.checkpointing eMode .finish)).conns d).activity = .checkpointing eMode' step') :
    step' = .finish := by
  by_cases same : d = c
  · subst same
    rw [World.proceed_conns_self] at there
    cases there
    rfl
  · have other : (w.proceed c (.checkpointing eMode .finish)).conns d = w.conns d := w.set_conns_of_ne same _
    rw [other] at there
    have alone := sound.alone here same
    rw [Connection.checkpoints, there] at alone
    cases alone

/-- After a change of what is shared, the checkpoint goes on where it was. -/
theorem Sound.resume (sound : Sound base log (w.proceed c (.checkpointing eMode .finish)))
    (known : Checkpoints log w (w.conns c) step')
    (locks : ∀ i, ({ w.conns c with activity := .checkpointing eMode step' } : Connection).excludes i = true →
      ∀ d, d ≠ c → (w.conns d).shares i = false)
    (safe : ∀ d, d ≠ c → ∀ i, i ≠ 0 → (w.conns d).readLock = some i →
      Safe (.checkpointing eMode step') i (floor w.live (w.conns d))) :
    Sound base log (w.proceed c (.checkpointing eMode step')) := by
  have rest (d : Fin n) (differs : d ≠ c) : (w.proceed c (.checkpointing eMode .finish)).conns d = w.conns d :=
    w.set_conns_of_ne differs _
  have self := w.proceed_conns_self c (.checkpointing eMode .finish)
  rw [← World.proceed_proceed w c (.checkpointing eMode .finish)]
  refine sound.advance (congrArg Connection.activity self) ?_
    (fun i held d differs => ?_) fun d differs i nonzero held => ?_
  · rw [self]
    cases step' <;> exact known
  · rw [self] at held
    rw [rest d differs]
    exact locks i held d differs
  · rw [rest d differs] at held ⊢
    exact safe d differs i nonzero held

end Copying

section Steps

theorem iZero_walFramePage_succ_le (nBackfill : Nat) : iZero (walFramePage (nBackfill + 1)) ≤ nBackfill :=
  Nat.le_of_lt_succ (iZero_walFramePage_lt (Nat.succ_pos nBackfill))

/-- The database takes the content of the page that the iterator has come to. -/
theorem Sound.copy (sound : Sound base log w) {mxSafeFrame nBackfill : Nat} {pIter pIter' : WalIterator}
    (here : (w.conns c).activity = .checkpointing eMode (.copy mxSafeFrame nBackfill pIter)) {f : Nat}
    (next : Next (log.map Prod.fst) (w.conns c).hdr.mxFrame pIter.iPrior (walFramePage (w.nBackfill + 1))
      (number log f) f)
    (segments : Segments w.apWiData (w.conns c).hdr.mxFrame (number log f) (walFramePage (w.nBackfill + 1))
      pIter'.aSegment)
    (prior : pIter'.iPrior = number log f) (above : w.nBackfill < f) (within : f ≤ mxSafeFrame) (data : D) :
    Sound base log ({ w with database := Function.update w.database (number log f) data }.release c) ∧
      (data = w.frames f → Sound base log
        ({ w with database := Function.update w.database (number log f) data }.proceed c
        (.checkpointing eMode (.copy mxSafeFrame nBackfill pIter')))) := by
  obtain ⟨begun, rfl, less, _, written⟩ := ((sound.fits c).checkpoints eMode _ here).2
  have unlocked := (sound.fits c).unlocked (busy_of_checkpoints here)
  have committed : f ≤ w.live.mxFrame := within.trans (begun.2.2.trans begun.1)
  have overwritten : Sound base log ({ w with database := Function.update w.database (number log f) data }.proceed c
      (.checkpointing eMode .finish)) := by
    refine (sound.finish here).overwrite (sound.idle here) above committed (fun d i nonzero held => ?_) data
    by_cases same : d = c
    · subst same
      rw [World.proceed_conns_self] at held
      have held : (w.conns d).readLock = some i := held
      rw [unlocked] at held
      cases held
    · have rest : (w.proceed c (.checkpointing eMode .finish)).conns d = w.conns d := w.set_conns_of_ne same _
      rw [rest] at held ⊢
      exact within.trans (sound.safe here same nonzero held)
  have finished := congrArg Connection.activity (World.proceed_conns_self
    { w with database := Function.update w.database (number log f) data } c (.checkpointing eMode .finish))
  refine ⟨?_, fun taken => ?_⟩
  · have released := overwritten.release finished
    rwa [World.release_proceed] at released
  · have numbers (g : Nat) (beyond : w.nBackfill < g) (reaches : g ≤ (w.conns c).hdr.mxFrame)
        (passed : number log g ≤ pIter'.iPrior) : number log g ≤ pIter.iPrior ∨ number log g = number log f := by
      by_cases early : number log g ≤ pIter.iPrior
      · exact Or.inl early
      · refine Or.inr (le_antisymm (prior ▸ passed) ?_)
        exact next.least g ((iZero_walFramePage_succ_le _).trans_lt beyond) reaches (not_le.mp early)
    refine overwritten.resume ⟨begun, rfl, less, prior ▸ segments, fun g beyond reaches passed last => ?_⟩
      (fun i held d differs => ?_)
      fun d differs i nonzero held => ?_
    · rcases numbers g beyond (reaches.trans begun.2.2) passed with early | same
      · have differs : number log g ≠ number log f := fun same => absurd (same ▸ early) (not_le.mpr next.after)
        exact (Function.update_of_ne differs ..).trans (written g beyond reaches early last)
      · have place : g = f := by
          refine le_antisymm (next.last g ((iZero_walFramePage_succ_le _).trans_lt beyond)
            (reaches.trans begun.2.2) same) ?_
          by_contra earlier
          exact last f (not_le.mp earlier) next.within same.symm
        subst place
        exact (Function.update_self ..).trans taken
    · refine (sound.compatible c d differs.symm).locks i ?_
      rw [Connection.excludes, here]
      exact held
    · exact sound.safe here differs nonzero held

/-- Once all pages have passed, the frames up to the safe one are in the database. -/
theorem Sound.backfilled_of_copy (sound : Sound base log w) {mxSafeFrame nBackfill : Nat} {pIter : WalIterator}
    (here : (w.conns c).activity = .checkpointing eMode (.copy mxSafeFrame nBackfill pIter))
    (passed : ∀ f, w.nBackfill < f → f ≤ (w.conns c).hdr.mxFrame → number log f ≤ pIter.iPrior) :
    Covers base log w (mxSafeFrame + 1) w.live.mxFrame := by
  obtain ⟨begun, rfl, less, _, written⟩ := ((sound.fits c).checkpoints eMode _ here).2
  have committed : w.live.mxFrame ≤ log.length := sound.logged.committed
  intro pgno absent
  by_cases some_frame : ∃ f, w.nBackfill < f ∧ f ≤ mxSafeFrame ∧ number log f = pgno
  · -- The last frame of the page is one that was copied.
    obtain ⟨f, ⟨above, within, rfl⟩, last⟩ : ∃ f, (w.nBackfill < f ∧ f ≤ mxSafeFrame ∧ number log f = pgno) ∧
        ∀ g, f < g → g ≤ mxSafeFrame → number log g ≠ pgno := by
      obtain ⟨f, above, within, same⟩ := some_frame
      have greatest := Nat.findGreatest_spec (P := fun f => w.nBackfill < f ∧ number log f = pgno) within ⟨above, same⟩
      refine ⟨_, ⟨greatest.1, Nat.findGreatest_le _, greatest.2⟩, fun g later under found => ?_⟩
      refine Nat.findGreatest_is_greatest later under ⟨greatest.1.trans later, found⟩
    have after (g : Nat) (later : f < g) (under : g ≤ w.live.mxFrame) : number log g ≠ number log f := by
      by_cases safe : g ≤ mxSafeFrame
      · exact last g later safe
      · exact absent g (by omega) (by omega) under
    rw [written f above within (passed f above (within.trans begun.2.2)) fun g later under => after g later
      (under.trans begun.1)]
    exact (valueAt_frame sound.logged.content (by omega) (within.trans (begun.2.2.trans begun.1)) committed after).symm
  · push Not at some_frame
    refine sound.fresh pgno fun f positive above within => ?_
    by_cases safe : f ≤ mxSafeFrame
    · exact some_frame f above safe
    · exact absent f positive (by omega) within

/-- No step of a checkpoint breaks the invariant, if its header is not of a log that was
restarted since. -/
theorem Sound.walCheckpoint (sound : Sound base log w) (here : (w.conns c).activity = .checkpointing eMode step)
    (current : step = .header → (w.conns c).hdr.aSalt = w.live.aSalt) (ends : step ≠ .finish) (granted : Bool)
    (maps : Nat → Nat) (failed : Option D) : Sound base log (w.walCheckpoint c eMode granted maps failed step) := by
  have fits := sound.fits c
  have busy := busy_of_checkpoints here
  have unlocked := fits.unlocked busy
  obtain ⟨_, known⟩ := fits.checkpoints eMode step here
  have unlocks {step' : CheckpointStep} (still : ∀ a b p, step' ≠ .copy a b p) (i : Nat)
      (held : ({ w.conns c with activity := .checkpointing eMode step' } : Connection).excludes i = true) (d : Fin n)
      (_ : d ≠ c) : (w.conns d).shares i = false := by
    cases step' with
    | copy => exact (still _ _ _ rfl).elim
    | _ => cases held
  cases step with
  | finish => exact absurd rfl ends
  | header =>
    rw [World.walCheckpoint]
    split
    · have older : (w.conns c).hdr.mxFrame ≤ w.live.mxFrame := by
        cases locked : (w.conns c).writeLock with
        | false => exact fits.older (Or.inr busy) locked (current rfl)
        | true =>
          obtain ⟨hdr, quiet⟩ := fits.writer locked
          rw [hdr]
          exact (quiet fun i _ held => by rw [unlocked] at held; cases held).le
      refine sound.advance here ⟨⟨older, ‹_›, le_rfl⟩, Nat.one_pos⟩ (unlocks (by simp)) fun d _ i nonzero _ => ?_
      exact fun less => absurd (Nat.lt_one_iff.mp less) nonzero
    · exact sound.finish here
  | mark i mxSafeFrame =>
    obtain ⟨begun, positive⟩ := known
    have next (safe : ∀ d, d ≠ c → (w.conns d).readLock = some i → mxSafeFrame ≤ floor w.live (w.conns d)) :
        Sound base log (w.proceed c (.checkpointing eMode (.mark (i + 1) mxSafeFrame))) := by
      refine sound.advance here ⟨begun, Nat.succ_pos i⟩ (unlocks (by simp)) fun d differs j nonzero held less => ?_
      rcases Nat.lt_succ_iff_lt_or_eq.mp less with before | rfl
      · exact sound.safe here differs nonzero held before
      · exact safe d differs held
    rw [World.walCheckpoint]
    split
    · split
      · rename_i y mark
        split
        · refine sound.advance here ⟨begun, positive, ‹_›, ‹_›⟩ (unlocks (by simp)) fun d differs j nonzero held => ?_
          refine ⟨fun before => sound.safe here differs nonzero held before, ?_⟩
          rintro rfl
          obtain ⟨_, _, _, ⟨m, marked, less⟩, _⟩ := (sound.fits d).reader j nonzero held
          rw [mark, Option.some.injEq] at marked
          exact marked ▸ less
        · refine next fun d _ held => ?_
          obtain ⟨_, _, _, ⟨m, marked, less⟩, _⟩ := (sound.fits d).reader i positive.ne' held
          rw [mark, Option.some.injEq] at marked
          omega
      · rename_i unused
        refine next fun d _ held => ?_
        obtain ⟨_, _, _, ⟨m, marked, _⟩, _⟩ := (sound.fits d).reader i positive.ne' held
        rw [unused] at marked
        cases marked
    · refine sound.advance here begun (unlocks (by simp)) fun d differs j nonzero held => ?_
      have below := ((sound.fits d).reader j nonzero held).1
      exact sound.safe here differs nonzero held (by omega)
  | store i mxSafeFrame y =>
    obtain ⟨begun, positive, inside, less⟩ := known
    rw [World.walCheckpoint]
    split
    · exact sound.release here
    · split
      · rename_i free
        have free : ∀ d, d ≠ c → (w.conns d).shares i = false ∧ (w.conns d).excludes i = false := of_decide_eq_true free
        have every (d : Fin n) : (w.conns d).shares i = false := by
          by_cases same : d = c
          · rw [same, Connection.shares, here, unlocked]
            rfl
          · exact (free d same).1
        refine (sound.remark every _).advance here ⟨begun, Nat.succ_pos i⟩
          (fun j held d differs => unlocks (by simp) j held d differs)
          fun d differs j nonzero held before => ?_
        rcases Nat.lt_succ_iff_lt_or_eq.mp before with earlier | rfl
        · exact (sound.safe here differs nonzero held).1 earlier
        · have held : (w.conns d).readLock = some j := held
          have shared := every d
          rw [Connection.shares, held, beq_self_eq_true, Bool.true_or] at shared
          cases shared
      · refine sound.advance here ⟨⟨begun.1, begun.2.1, less.le.trans begun.2.2⟩, Nat.succ_pos i⟩ (unlocks (by simp))
          fun d differs j nonzero held before => ?_
        have safe := sound.safe here differs nonzero held
        rcases Nat.lt_succ_iff_lt_or_eq.mp before with earlier | rfl
        · exact less.le.trans (safe.1 earlier)
        · exact safe.2 rfl
  | iterate mxSafeFrame =>
    rw [World.walCheckpoint]
    split
    · cases made : walIteratorInit granted maps w.apWiData (w.conns c).hdr.mxFrame w.nBackfill with
      | mk rc pIter =>
        cases pIter with
        | none => exact sound.release here
        | some pIter =>
          obtain ⟨prior, segments⟩ := walIteratorInit_spec known.2.1 made
          exact sound.advance here ⟨known, ‹_›, prior, segments⟩ (unlocks (by simp)) fun d differs i nonzero held =>
            sound.safe here differs nonzero held
    · exact sound.finish here
  | wait mxSafeFrame pIter =>
    obtain ⟨begun, less, prior, segments⟩ := known
    rw [World.walCheckpoint]
    split
    · exact sound.release here
    · split
      · rename_i free
        have free : ∀ d, d ≠ c → (w.conns d).shares 0 = false ∧ (w.conns d).excludes 0 = false := of_decide_eq_true free
        refine sound.advance here ⟨begun, rfl, less, prior.symm ▸ segments, fun f above within passed _ => ?_⟩
          (fun i held d differs => ?_) fun d differs i nonzero held => sound.safe here differs nonzero held
        · have inside : f - 1 < log.length := by
            have committed : w.live.mxFrame ≤ log.length := sound.logged.committed
            have := begun.1
            have := begun.2.2
            omega
          have zero : number log f = 0 := Nat.le_zero.mp (prior ▸ passed)
          rw [number, List.getD_eq_getElem _ _ (by rwa [List.length_map]), List.getElem_map] at zero
          exact absurd zero (sound.logged.proper _ (List.getElem_mem inside))
        · have same : i = 0 := by simpa [Connection.excludes] using held
          rw [same]
          exact (free d differs).1
      · exact sound.finish here
  | copy mxSafeFrame nBackfill pIter =>
    obtain ⟨begun, rfl, less, segments, written⟩ := known
    have within : (w.conns c).hdr.mxFrame ≤ (log.map Prod.fst).length := by
      rw [List.length_map]
      exact begun.1.trans sound.logged.committed
    have numbered : Numbered w.apWiData (log.map Prod.fst) (w.conns c).hdr.mxFrame := sound.logged.index.numbered within
    have lower := iZero_walFramePage_succ_le w.nBackfill
    rw [World.walCheckpoint]
    rcases walIteratorNext_spec numbered segments with
      ⟨ended, passed⟩ | ⟨pgno, f, pIter', found, prior, next, segments'⟩
    · rw [ended]
      dsimp only
      split
      · exact sound.release here
      · have covers := sound.backfilled_of_copy here fun f above under => passed f (lower.trans_lt above) under
        refine (sound.finish here).backfill (sound.idle here) less.le (begun.2.2.trans begun.1) covers
    · rw [found]
      dsimp only
      have same : number log f = pgno := next.number
      subst same
      split
      · rename_i skipped
        split
        · exact sound.release here
        · refine sound.advance here ⟨begun, rfl, less, prior ▸ segments', fun g above under passed last => ?_⟩
            (fun i held d differs => ?_) fun d differs i nonzero held => sound.safe here differs nonzero held
          · by_cases early : number log g ≤ pIter.iPrior
            · exact written g above under early last
            · have reaches := under.trans begun.2.2
              have alike : number log g = number log f :=
                le_antisymm (prior ▸ passed) (next.least g (lower.trans_lt above) reaches (not_le.mp early))
              have place : g = f := by
                refine le_antisymm (next.last g (lower.trans_lt above) reaches alike) ?_
                by_contra earlier
                exact last f (not_le.mp earlier) next.within alike.symm
              omega
          · refine (sound.compatible c d differs.symm).locks i ?_
            rw [Connection.excludes, here]
            exact held
      · rename_i taken
        push Not at taken
        obtain ⟨released, resumed⟩ := sound.copy here next segments' prior taken.1 taken.2 (failed.getD (w.frames f))
        cases failed with
        | some torn => exact released
        | none => exact resumed rfl

end Steps

end SignalPods.SQLite
