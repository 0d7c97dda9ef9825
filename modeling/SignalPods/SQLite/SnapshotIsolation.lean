import SignalPods.Machine.Reach
import SignalPods.SQLite.WalTransactions

namespace SignalPods.SQLite

open Foundation Machine

variable {n : Nat} {D : Type}

section Runs

def Connection.closed : Connection where
  hdr := ⟨0, 0, 0⟩
  minFrame := 0
  nCkpt := 0
  readLock := none
  writeLock := false
  aSavepoint := []
  activity := .rest

/-- An empty log of a database, with connections that do nothing yet. -/
def World.start (n : Nat) (apWiData : Nat → WalIndexPage) (frames database : Nat → D) : World n D where
  apWiData := apWiData
  frames := frames
  live := ⟨0, 0, 0⟩
  nBackfill := 0
  aReadMark i := if i = 0 then some 0 else none
  database := database
  conns _ := .closed

/-- Of the connections one keeps the index open, and its process does not end: an index
that nobody has open is made again from the log. -/
def Keeps (keeper c : Fin n) (event : Event D) : Prop := event.crashes = true → c ≠ keeper

instance (keeper c : Fin n) (event : Event D) : Decidable (Keeps keeper c event) :=
  inferInstanceAs (Decidable (event.crashes = true → c ≠ keeper))

/-- A step that may be taken while `keeper` keeps the index open. -/
def World.next (keeper : Fin n) (w : World n D) (e : Fin n × Event D) : Option (World n D) :=
  if Keeps keeper e.1 e.2 ∧ Timely w e.1 e.2 then w.step e.1 e.2 else none

/-- The worlds that a run of steps of the connections reaches from another. -/
abbrev Runs (keeper : Fin n) : World n D → List (Fin n × Event D) → World n D → Prop :=
  Reach fun w e w' => w.next keeper e = some w'

variable {keeper : Fin n} {apWiData : Nat → WalIndexPage} {frames database : Nat → D}
  {events later : List (Fin n × Event D)}
  {w w' w'' : World n D}

theorem sound_start (n : Nat) (apWiData : Nat → WalIndexPage) (frames database : Nat → D) :
    Sound database [] (World.start n apWiData frames database) := by
  refine ⟨⟨rfl, le_rfl, indexes_nil, fun _ member => absurd member List.not_mem_nil,
    fun _ _ here => absurd here (by simp)⟩,
    le_rfl, fun pgno _ => rfl, fun _ => rfl, fun c => ?_, fun c d _ => ?_⟩
  · exact ⟨le_rfl, le_rfl, fun _ => rfl, fun _ _ _ => le_rfl, fun locked => by (cases locked),
      fun _ member => absurd member List.not_mem_nil, fun held => by (cases held), fun _ _ held => by (cases held),
      fun _ _ busy => by (cases busy), fun _ _ busy => by (cases busy)⟩
  · exact ⟨fun locked => by (cases locked), fun busy => by (cases busy), fun _ held => by (cases held),
      fun _ _ held => by (cases held)⟩

theorem next_eq_some {e : Fin n × Event D} :
    w.next keeper e = some w' ↔ (Keeps keeper e.1 e.2 ∧ Timely w e.1 e.2) ∧ w.step e.1 e.2 = some w' := by
  rw [World.next, Option.ite_none_right_eq_some]

theorem Runs.simulates (runs : Runs keeper w events w') (sound : ∃ base log, Sound base log w) :
    (∃ base log, Sound base log w') ∧
      Reach (fun store (e : Fin n × Event D) store' => store.Step e.1 store') w.shown events w'.shown := by
  refine Reach.simulates World.shown (fun w => ∃ base log, Sound base log w) runs sound ?_ ?_
  · rintro before e after ⟨base, log, sound⟩ steps
    obtain ⟨⟨_, timely⟩, steps⟩ := next_eq_some.mp steps
    exact (sound.step timely steps).1
  · rintro before e after ⟨base, log, sound⟩ steps
    obtain ⟨⟨_, timely⟩, steps⟩ := next_eq_some.mp steps
    exact (sound.step timely steps).2.step

theorem Runs.sound (runs : Runs keeper (World.start n apWiData frames database) events w) :
    ∃ base log, Sound base log w :=
  (Runs.simulates runs ⟨_, _, sound_start ..⟩).1

end Runs

section Results

variable {keeper : Fin n} {apWiData : Nat → WalIndexPage} {frames database : Nat → D}
  {events later : List (Fin n × Event D)} {w w₁ w₂ : World n D}

/-- Nothing fails. -/
def granted : Answers Nat where
  maps _ := SQLITE_OK
  header := SQLITE_OK
  writes _ := SQLITE_OK
  torn := 0
  sync := SQLITE_OK

def twoConnections : World 2 Nat := World.start 2 (fun _ => .zero) (fun _ => 0) fun _ => 0

def begins (c : Fin 2) (steps : Nat) : List (Fin 2 × Event Nat) :=
  (c, .beginRead) :: List.replicate steps (c, .next false)

/-- The first connection begins to write, in a log that is empty. -/
def writes : List (Fin 2 × Event Nat) :=
  begins 0 3 ++ [(0, .beginWrite), (0, .restartLog)] ++ List.replicate 9 (0, .next false)

def setsFirst (data : Nat) : List (Fin 2 × Event Nat) := writes ++ [(0, .frames granted [(1, data)] true 0)]

def ends : List (Fin 2 × Event Nat) := [(0, .endWrite), (0, .endRead)]

/-- It sets the first page again, in a log that is not empty. -/
def setsAgain (data : Nat) : List (Fin 2 × Event Nat) :=
  begins 0 9 ++ [(0, .beginWrite), (0, .frames granted [(1, data)] true 0)]

/-- The second connection begins a checkpoint, and the first sets the page again before
the iterator is made. -/
def checkpointsBehind : List (Fin 2 × Event Nat) :=
  setsFirst 7 ++ ends ++ [(1, .checkpoint .PASSIVE)] ++ begins 0 10 ++
    [(0, .beginWrite), (0, .frames granted [(1, 8)] true 0)] ++
    List.replicate 6 (1, .work true (fun _ => SQLITE_OK) none)

/-- Whatever the connections do, the hash tables of the index lead each of them to the
frame that a search of all frames finds, as long as the index is mapped. -/
theorem hash_search_is_linear_search (runs : Runs keeper (World.start n apWiData frames database) events w)
    (c : Fin n) {i : Nat} (reads : (w.conns c).readLock = some i) (uses : i ≠ 0) (maps : Nat → Nat) (pgno : Nat) :
    (∃ iHash, maps iHash ≠ SQLITE_OK ∧ walFindFrame maps w.apWiData (w.conns c).snapshot pgno = (maps iHash, 0)) ∨
      walFindFrame maps w.apWiData (w.conns c).snapshot pgno =
        (SQLITE_OK, walFindLinear w.apWiData (w.conns c).minFrame pgno (w.conns c).hdr.mxFrame) := by
  obtain ⟨base, log, sound⟩ := Runs.sound runs
  have within : (w.conns c).snapshot.mxFrame ≤ (log.map Prod.fst).length := by
    rw [List.length_map]
    exact sound.within uses reads
  have used : (w.conns c).snapshot.ignored = false := by
    rw [snapshot_ignored reads]
    exact decide_eq_false uses
  have found : Finds maps (Hit (log.map Prod.fst) (w.conns c).snapshot pgno)
      (walFindFrame maps w.apWiData (w.conns c).snapshot pgno) := sound.logged.index.walFindFrame within used
  refine found.imp_right fun ⟨ok, greatest⟩ => Prod.ext ok (greatest.unique ?_)
  exact sound.logged.index.walFindLinear within

theorem hash_search_is_linear_search_first : ∃ w : World 2 Nat, Runs 1 twoConnections (setsFirst 7) w ∧
    walFindFrame (fun _ => SQLITE_OK) w.apWiData (w.conns 0).snapshot 1 = (SQLITE_OK, 1) := by
  have first : ((setsFirst 7).foldlM (World.next 1) twoConnections).map (fun w =>
      ((w.conns 0).readLock, walFindLinear w.apWiData (w.conns 0).minFrame 1 (w.conns 0).hdr.mxFrame)) =
      some (some 1, 1) := by decide +kernel
  obtain ⟨w, run, values⟩ := Option.map_eq_some_iff.mp first
  obtain ⟨reads, linear⟩ := Prod.mk.inj values
  refine ⟨w, reach_of_foldlM run, ?_⟩
  rcases hash_search_is_linear_search (reach_of_foldlM run) 0 reads (by decide) (fun _ => SQLITE_OK) 1 with
    ⟨_, unmapped, _⟩ | found
  · exact absurd rfl unmapped
  · rw [found, linear]

/-- The iterator that a checkpoint makes visits the pages of its frames in order, each
once, with the last of its frames. -/
theorem checkpoint_visits_last_frames (runs : Runs keeper (World.start n apWiData frames database) events w)
    {c : Fin n} {eMode : CheckpointMode} {mxSafeFrame : Nat}
    (here : (w.conns c).activity = .checkpointing eMode (.iterate mxSafeFrame)) {granted : Bool} {maps : Nat → Nat}
    {rc : Nat} {pIter : WalIterator}
    (made : walIteratorInit granted maps w.apWiData (w.conns c).hdr.mxFrame w.nBackfill = (rc, some pIter)) :
    ((walIterate w.apWiData (w.conns c).hdr.mxFrame pIter).Pairwise fun x y => x.1 < y.1) ∧
      ∀ pgno f, (pgno, f) ∈ walIterate w.apWiData (w.conns c).hdr.mxFrame pIter ↔
        iZero (walFramePage (w.nBackfill + 1)) < f ∧ f ≤ (w.conns c).hdr.mxFrame ∧
          walFramePgno w.apWiData f = pgno ∧
          ∀ g, f < g → g ≤ (w.conns c).hdr.mxFrame → walFramePgno w.apWiData g ≠ pgno := by
  obtain ⟨base, log, sound⟩ := Runs.sound runs
  obtain ⟨within, left, _⟩ : Begun w (w.conns c) mxSafeFrame := ((sound.fits c).checkpoints eMode _ here).2
  generalize (w.conns c).hdr.mxFrame = mxFrame at within left made ⊢
  have committed : mxFrame ≤ (log.map Prod.fst).length := by
    rw [List.length_map]
    exact within.trans sound.logged.committed
  obtain ⟨prior, segments⟩ := walIteratorInit_spec left made
  have fewer : (remaining (log.map Prod.fst) mxFrame (walFramePage (w.nBackfill + 1)) pIter.iPrior).card ≤ mxFrame := by
    refine (Finset.card_filter_le _ _).trans ?_
    rw [Nat.card_Icc, Nat.add_sub_cancel]
  obtain ⟨sorted, members⟩ := walIterate_spec (sound.logged.index.numbered committed) (prior.symm ▸ segments) fewer
  refine ⟨sorted, fun pgno f => (members pgno f).trans ?_⟩
  have frame (g : Nat) (positive : 0 < g) (within : g ≤ mxFrame) :
      (log.map Prod.fst).getD (g - 1) 0 = walFramePgno w.apWiData g :=
    (sound.logged.index.walFramePgno positive (within.trans committed)).symm
  rw [prior, LastFrame]
  constructor
  · rintro ⟨_, above, within, here, last⟩
    rw [frame f (Nat.zero_lt_of_lt above) within] at here
    refine ⟨above, within, here, fun g later reaches => ?_⟩
    rw [← frame g (Nat.zero_lt_of_lt later) reaches]
    exact last g later reaches
  · rintro ⟨above, within, here, last⟩
    rw [← frame f (Nat.zero_lt_of_lt above) within] at here
    refine ⟨Nat.pos_of_ne_zero ?_, above, within, here, fun g later reaches => ?_⟩
    · have inside : f - 1 < log.length := by
        rw [List.length_map] at committed
        omega
      rw [← here, List.getD_eq_getElem _ _ (by rwa [List.length_map]), List.getElem_map]
      exact sound.logged.proper _ (List.getElem_mem inside)
    · rw [frame g (Nat.zero_lt_of_lt later) reaches]
      exact last g later reaches

/-- The frames a checkpoint takes as safe when it makes its iterator. -/
def Connection.iterates (pWal : Connection) : Option (CheckpointMode × Nat) :=
  match pWal.activity with
  | .checkpointing eMode (.iterate mxSafeFrame) => some (eMode, mxSafeFrame)
  | _ => none

theorem activity_of_iterates {pWal : Connection} {eMode : CheckpointMode} {mxSafeFrame : Nat}
    (here : pWal.iterates = some (eMode, mxSafeFrame)) :
    pWal.activity = .checkpointing eMode (.iterate mxSafeFrame) := by
  unfold Connection.iterates at here
  split at here
  · obtain ⟨rfl, rfl⟩ := Prod.mk.inj (Option.some.inj here)
    assumption
  · cases here

/-- A checkpoint that begins before the first page is set again iterates over one frame. -/
theorem checkpoint_visits_last_frames_first : ∃ (w : World 2 Nat) (pIter : WalIterator),
    Runs 1 twoConnections checkpointsBehind w ∧ w.live.mxFrame = 2 ∧
      (1, 1) ∈ walIterate w.apWiData (w.conns 1).hdr.mxFrame pIter := by
  have behind : (checkpointsBehind.foldlM (World.next 1) twoConnections).map (fun w =>
      ((w.conns 1).iterates, w.live.mxFrame, w.nBackfill, (w.conns 1).hdr.mxFrame, walFramePgno w.apWiData 1,
        (walIteratorInit true (fun _ => SQLITE_OK) w.apWiData (w.conns 1).hdr.mxFrame w.nBackfill).2.isSome)) =
      some (some (.PASSIVE, 1), 2, 0, 1, 1, true) := by decide +kernel
  obtain ⟨w, run, values⟩ := Option.map_eq_some_iff.mp behind
  simp only [Prod.mk.injEq] at values
  obtain ⟨here, live, backfill, mxFrame, number, made⟩ := values
  obtain ⟨pIter, made⟩ := Option.isSome_iff_exists.mp made
  have members := (checkpoint_visits_last_frames (reach_of_foldlM run) (activity_of_iterates here)
    (Prod.ext rfl made)).2
  refine ⟨w, pIter, reach_of_foldlM run, live, (members 1 1).mpr ⟨?_, mxFrame.ge, number, fun g later within => ?_⟩⟩
  · rw [backfill]
    decide
  · omega

theorem view_sees {c : Fin n} {view : View Nat D} (sees : w.shown.views c = some view) :
    view.current = w.sees (w.conns c) := by
  have here : w.view (w.conns c) = some view := sees
  rw [World.view, Option.ite_none_right_eq_some, Option.some.injEq] at here
  rw [← here.2]

/-- A connection that begins to read reads what was committed then, until it takes its
next step, whatever the others do. -/
theorem snapshot_isolation (runs : Runs keeper (World.start n apWiData frames database) events w) {c : Fin n}
    {fails : Bool} (begins : w.next keeper (c, .next fails) = some w₁) (reads : (w₁.conns c).readLock ≠ none)
    (others : ∀ e ∈ later, e.1 ≠ c) (run : Runs keeper w₁ later w₂) (maps : Nat → Nat) (pgno : Nat) :
    (∃ iHash, maps iHash ≠ SQLITE_OK ∧ w₂.readDbPage c maps pgno = (maps iHash, none)) ∨
      w₂.readDbPage c maps pgno = (SQLITE_OK, some (w.committed pgno)) := by
  obtain ⟨base, log, sound⟩ := Runs.sound runs
  obtain ⟨⟨_, timely⟩, steps⟩ := next_eq_some.mp begins
  obtain ⟨base₁, log₁, sound₁⟩ := (sound.step timely steps).1
  have first : w₁.sees (w₁.conns c) = w.committed := by
    rw [World.step] at steps
    split at steps
    · rename_i useWal step here
      obtain rfl := Option.some.inj steps
      have unlocked := (sound.fits c).unlocked (by rw [here]; simp)
      have attempts := attempts_walTryBeginRead w c useWal fails step
      rcases attempts.outcome with same | ⟨_, hdr⟩
      · exact absurd (same.trans unlocked) reads
      · rw [sound₁.sees_of_current (hdr.trans attempts.only.live.symm)]
        exact (attempts.only.spares sound (sound.walTryBeginRead fails here)).2
    · cases steps
  -- What the connection sees is the same in each world of the run.
  obtain ⟨⟨base₂, log₂, sound₂⟩, conns, view⟩ : (∃ base log, Sound base log w₂) ∧ w₂.conns c = w₁.conns c ∧
      w₂.shown.views c = w₁.shown.views c := by
    induction run with
    | start => exact ⟨⟨_, _, sound₁⟩, rfl, rfl⟩
    | next before step ih =>
      rename_i past w₂ e w₃
      obtain ⟨⟨base₂, log₂, sound₂⟩, conns, view⟩ := ih fun e member => others e (List.mem_append_left _ member)
      obtain ⟨⟨_, timely⟩, steps⟩ := next_eq_some.mp step
      have differs : c ≠ e.1 := fun same => others e (List.mem_append_right _ List.mem_cons_self) same.symm
      obtain ⟨sound₃, performs⟩ := sound₂.step timely steps
      exact ⟨sound₃, (step_conns steps differs).trans conns, (performs.step.frame differs).trans view⟩
  have transacts : (w₁.conns c).transacts = true := by
    rw [Connection.transacts, Option.isSome_iff_ne_none.mpr reads, Bool.true_or]
  obtain ⟨shown, here⟩ : ∃ shown, w₁.shown.views c = some shown := ⟨_, if_pos transacts⟩
  have last := view_sees (view.trans here)
  rw [view_sees here, first] at last
  rw [last]
  exact sound₂.readDbPage (conns ▸ reads) maps pgno

theorem snapshot_isolation_overwritten : ∃ w : World 2 Nat,
    Runs 1 twoConnections (setsFirst 7 ++ ends ++ begins 1 9 ++ [(1, .next false)] ++ setsAgain 8) w ∧
      w.committed 1 = 8 ∧ w.readDbPage 1 (fun _ => SQLITE_OK) 1 = (SQLITE_OK, some 7) := by
  obtain ⟨w, run, rest⟩ := Option.bind_eq_some_iff.mp (show
    (((setsFirst 7 ++ ends ++ begins 1 9).foldlM (World.next 1) twoConnections).bind fun w =>
      (w.next 1 (1, .next false)).bind fun w₁ => ((setsAgain 8).foldlM (World.next 1) w₁).map fun w₂ =>
        (w.committed 1, (w₁.conns 1).readLock, w₂.committed 1)) = some (7, some 1, 8) by decide +kernel)
  obtain ⟨w₁, begins, rest⟩ := Option.bind_eq_some_iff.mp rest
  obtain ⟨w₂, run', values⟩ := Option.map_eq_some_iff.mp rest
  simp only [Prod.mk.injEq] at values
  obtain ⟨before, reads, after⟩ := values
  have others : ∀ e ∈ setsAgain 8, e.1 ≠ 1 := by decide
  have earlier := reach_of_foldlM run
  have later := reach_of_foldlM run'
  refine ⟨w₂, (earlier.next begins).append later, after, ?_⟩
  rcases snapshot_isolation earlier begins (by rw [reads]; simp) others later (fun _ => SQLITE_OK) 1 with
    ⟨_, unmapped, _⟩ | found
  · exact absurd rfl unmapped
  · rw [found, before]

/-- Runs of the log are runs of snapshots. -/
theorem runs_are_snapshot_runs (runs : Runs keeper (World.start n apWiData frames database) events w) :
    Reach (fun store (e : Fin n × Event D) store' => store.Step e.1 store') ⟨database, fun _ => none⟩ events
      w.shown := by
  have sound := sound_start n apWiData frames database
  have shown : (World.start n apWiData frames database).shown = ⟨database, fun _ => none⟩ := by
    rw [World.shown, sound.committed_eq]
    refine congrArg (Snapshots.mk database) (funext fun c => view_none rfl)
  rw [← shown]
  exact (Runs.simulates runs ⟨_, _, sound⟩).2

theorem runs_are_snapshot_runs_first : ∃ w : World 2 Nat, w.shown.committed 1 = 7 ∧
    Reach (fun store (e : Fin 2 × Event Nat) store' => store.Step e.1 store') ⟨fun _ => 0, fun _ => none⟩
      (setsFirst 7) w.shown := by
  have first : ((setsFirst 7).foldlM (World.next 1) twoConnections).map (fun w => w.committed 1) = some 7 := by
    decide +kernel
  obtain ⟨w, run, committed⟩ := Option.map_eq_some_iff.mp first
  exact ⟨w, committed, runs_are_snapshot_runs (reach_of_foldlM run)⟩

/-- What is committed stays until the next commit, through all that the connections do
or fail to do. -/
theorem commits_last (runs : Runs keeper (World.start n apWiData frames database) events w) {c : Fin n}
    {event : Event D} {pList : List (Nat × D)} (steps : w.next keeper (c, event) = some w₁)
    (commits : w.commits c event = some pList)
    (run : Reach (fun w e w' => w.next keeper e = some w' ∧ w.commits e.1 e.2 = none) w₁ later w₂) :
    w₂.committed = overlay (latest pList) (w.sees (w.conns c)) := by
  obtain ⟨base, log, sound⟩ := Runs.sound runs
  obtain ⟨⟨_, timely⟩, steps⟩ := next_eq_some.mp steps
  obtain ⟨sound₁, performs⟩ := sound.step timely steps
  rw [commits] at performs
  have first : w₁.committed = overlay (latest pList) (w.sees (w.conns c)) := by
    have committed : w₁.shown.committed = w₁.committed := rfl
    obtain ⟨_, made⟩ := performs
    cases shown : w₁.shown with
    | mk contents views =>
      rw [shown] at made committed
      cases made with
      | commits sees latest =>
        rw [← committed, ← view_sees sees]
  refine (?_ : (∃ base log, Sound base log w₂) ∧ w₂.committed = w₁.committed).2.trans first
  induction run with
  | start => exact ⟨sound₁, rfl⟩
  | next before step ih =>
    obtain ⟨⟨base₂, log₂, sound₂⟩, same⟩ := ih
    obtain ⟨⟨_, timely⟩, steps⟩ := next_eq_some.mp step.1
    obtain ⟨sound₃, performs⟩ := sound₂.step timely steps
    rw [step.2] at performs
    exact ⟨sound₃, Moves.committed performs |>.trans same⟩

theorem commits_last_rolled_back : ∃ w : World 2 Nat,
    Runs 1 twoConnections (writes ++ [(0, .frames granted [(1, 7)] true 0)] ++
      [(0, .frames granted [(1, 8)] false 0), (0, .undo)]) w ∧ w.committed 1 = 7 := by
  obtain ⟨w, run, rest⟩ := Option.bind_eq_some_iff.mp (show
    ((writes.foldlM (World.next 1) twoConnections).bind fun w =>
      (w.next 1 (0, .frames granted [(1, 7)] true 0)).bind fun w₁ =>
        (w₁.next 1 (0, .frames granted [(1, 8)] false 0)).bind fun w₂ => (w₂.next 1 (0, .undo)).map fun _ =>
          w.commits 0 (.frames granted [(1, 7)] true 0)) = some (some [(1, 7)]) by decide +kernel)
  obtain ⟨w₁, first, rest⟩ := Option.bind_eq_some_iff.mp rest
  obtain ⟨w₂, second, rest⟩ := Option.bind_eq_some_iff.mp rest
  obtain ⟨w₃, third, commits⟩ := Option.map_eq_some_iff.mp rest
  have earlier := reach_of_foldlM run
  refine ⟨w₃, ((earlier.next first).append ((Reach.start.next second).next third)), ?_⟩
  rw [commits_last earlier first commits ((Reach.start.next ⟨second, rfl⟩).next ⟨third, rfl⟩)]
  rfl

end Results

end SignalPods.SQLite
