import SignalPods.SQLite.WalIndexed

namespace SignalPods.SQLite

variable {D : Type}

section Latest

variable {log rest : List (Nat × D)} {pgno other : Nat} {data : D}

/-- The content that a log has for a database page. -/
def latest (log : List (Nat × D)) (pgno : Nat) : Option D := log.reverse.lookup pgno

theorem latest_append : latest (log ++ rest) pgno = (latest rest pgno).or (latest log pgno) := by
  rw [latest, List.reverse_append, List.lookup_append]
  rfl

theorem latest_singleton : latest [(pgno, data)] other = if other = pgno then some data else none := by
  rw [latest, List.reverse_singleton, List.lookup_cons, List.lookup_nil]
  by_cases same : other = pgno
  · rw [if_pos same, beq_iff_eq.mpr same]
  · rw [if_neg same, beq_eq_false_iff_ne.mpr same]

theorem latest_eq_none (absent : ∀ p ∈ log, p.1 ≠ pgno) : latest log pgno = none := by
  rw [latest, List.lookup_eq_none_iff]
  intro p member
  exact bne_iff_ne.mpr (absent p (List.mem_reverse.mp member)).symm

/-- The last page once more, as often as one likes. -/
theorem latest_replicate {p : Nat × D} (last : log.getLast? = some p) (n : Nat) :
    latest (log ++ List.replicate n p) pgno = latest log pgno := by
  obtain ⟨before, rfl⟩ := List.getLast?_eq_some_iff.mp last
  induction n with
  | zero => rw [List.replicate_zero, List.append_nil]
  | succ n ih =>
    rw [List.replicate_succ', ← List.append_assoc, latest_append, ih, latest_append]
    cases latest [p] pgno <;> rfl

theorem latest_split {before after : List (Nat × D)} :
    latest (before ++ (pgno, data) :: after) other =
      (latest after other).or ((if other = pgno then some data else none).or (latest before other)) := by
  rw [List.append_cons, latest_append, latest_append, latest_singleton]

/-- The last frame of a page is replaced. -/
theorem latest_replace {before after : List (Nat × D)} {old : D} (absent : ∀ p ∈ after, p.1 ≠ pgno) :
    latest (before ++ (pgno, data) :: after) other =
      if other = pgno then some data else latest (before ++ (pgno, old) :: after) other := by
  rw [latest_split, latest_split]
  by_cases same : other = pgno
  · subst other
    rw [latest_eq_none absent, if_pos rfl, if_pos rfl]
    rfl
  · rw [if_neg same, if_neg same, if_neg same]

end Latest

section Contents

variable {frames : Nat → D} {log rest : List (Nat × D)} {p : Nat × D}

/-- The file has the frames of a log. -/
def Contents (frames : Nat → D) (log : List (Nat × D)) : Prop := ∀ i p, log[i]? = some p → frames (i + 1) = p.2

theorem Contents.left (contents : Contents frames (log ++ rest)) : Contents frames log := by
  intro i p here
  obtain ⟨inside, _⟩ := List.getElem?_eq_some_iff.mp here
  exact contents i p (by rwa [List.getElem?_append_left inside])

theorem Contents.take (contents : Contents frames log) (n : Nat) : Contents frames (log.take n) := by
  rw [← List.take_append_drop n log] at contents
  exact contents.left

theorem Contents.append (contents : Contents frames log) (p : Nat × D) :
    Contents (Function.update frames (log.length + 1) p.2) (log ++ [p]) := by
  intro i q here
  obtain ⟨inside, same⟩ := List.getElem?_eq_some_iff.mp here
  rw [List.length_append, List.length_singleton] at inside
  by_cases last : i = log.length
  · subst last
    rw [Function.update_self, ← same, List.getElem_concat_length rfl]
  · have before : i < log.length := by omega
    rw [Function.update_of_ne (by omega)]
    exact contents i q (by rwa [List.getElem?_append_left before] at here)

theorem Contents.replace {before after : List (Nat × D)} {pgno : Nat} {old data : D}
    (contents : Contents frames (before ++ (pgno, old) :: after)) :
    Contents (Function.update frames (before.length + 1) data) (before ++ (pgno, data) :: after) := by
  intro i q here
  by_cases place : i = before.length
  · subst place
    rw [List.getElem?_append_right le_rfl, Nat.sub_self, List.getElem?_cons_zero, Option.some.injEq] at here
    rw [Function.update_self, ← here]
  · rw [Function.update_of_ne (by omega)]
    refine contents i q ?_
    rw [← here]
    by_cases earlier : i < before.length
    · rw [List.getElem?_append_left earlier, List.getElem?_append_left earlier]
    · obtain ⟨j, rfl⟩ : ∃ j, i = before.length + (j + 1) := ⟨i - before.length - 1, by omega⟩
      rw [List.getElem?_append_right (Nat.le_add_right ..), List.getElem?_append_right (Nat.le_add_right ..),
        Nat.add_sub_cancel_left, List.getElem?_cons_succ, List.getElem?_cons_succ]

/-- What is in a frame that is found is the content of the page. -/
theorem split_of_hit {snapshot : Snapshot} {pgno f : Nat} (within : snapshot.mxFrame ≤ log.length)
    (hit : Hit (log.map Prod.fst) snapshot pgno f)
    (greatest : ∀ g, Hit (log.map Prod.fst) snapshot pgno g → g ≤ f) :
    ∃ before old after, log.take snapshot.mxFrame = before ++ (pgno, old) :: after ∧ before.length + 1 = f ∧
      ∀ p ∈ after, p.1 ≠ pgno := by
  obtain ⟨positive, lower, upper, same⟩ := hit
  have inside : f - 1 < (log.take snapshot.mxFrame).length := by
    rw [List.length_take]
    omega
  have number (i : Nat) (less : i < (log.take snapshot.mxFrame).length) :
      (log.map Prod.fst).getD i 0 = (log.take snapshot.mxFrame)[i].1 := by
    rw [List.length_take] at less
    rw [List.getD_eq_getElem _ _ (by rw [List.length_map]; omega), List.getElem_map, List.getElem_take]
  refine ⟨(log.take snapshot.mxFrame).take (f - 1), (log.take snapshot.mxFrame)[f - 1].2,
    (log.take snapshot.mxFrame).drop f, ?_, ?_, fun p member found => ?_⟩
  · have whole := List.take_append_drop (f - 1) (log.take snapshot.mxFrame)
    rw [List.drop_eq_getElem_cons inside, show f - 1 + 1 = f by omega] at whole
    rw [← same, number _ inside]
    exact whole.symm
  · rw [List.length_take]
    omega
  · obtain ⟨i, less, here⟩ := List.getElem_of_mem member
    rw [List.length_drop] at less
    rw [List.getElem_drop] at here
    have later := greatest (f + i + 1)
      ⟨by omega, by omega, by rw [List.length_take] at less; omega, by
        rw [Nat.add_sub_cancel, number _ (by omega), here, found]⟩
    omega

end Contents

section Writing

variable {find : Nat → Nat} {iFirst keep : Nat} {isCommit : Bool} {answers : Answers D} {frames : Nat → D}
  {log done : List (Nat × D)}

/-- The frames that are replaced are the last of their pages. -/
def Own (find : Nat → Nat) (iFirst : Nat) (numbers : List Nat) : Prop :=
  ∀ pgno, iFirst ≤ find pgno →
    ∃ before after, numbers = before ++ pgno :: after ∧ before.length + 1 = find pgno ∧ pgno ∉ after

theorem Own.split (own : Own find iFirst (log.map Prod.fst)) {pgno : Nat} (found : iFirst ≤ find pgno) :
    ∃ before old after, log = before ++ (pgno, old) :: after ∧ before.length + 1 = find pgno ∧
      ∀ p ∈ after, p.1 ≠ pgno := by
  obtain ⟨numbers, others, split, place, absent⟩ := own pgno found
  obtain ⟨before, rest, rfl, rfl, same⟩ := List.map_eq_append_iff.mp split
  obtain ⟨⟨_, old⟩, after, rfl, rfl, rfl⟩ := List.map_eq_cons_iff.mp same
  refine ⟨before, old, after, rfl, ?_, fun p member same => ?_⟩
  · rwa [List.length_map] at place
  · exact absent (same ▸ List.mem_map_of_mem member)

theorem latest_cons {p : Nat × D} {pList : List (Nat × D)} {pgno : Nat} :
    latest (p :: pList) pgno = (latest pList pgno).or (latest [p] pgno) := by
  rw [← List.singleton_append, latest_append]

/-- What the pages of a set leave in the file. The first frames are kept, and the others
may have other contents. -/
theorem writePages_spec (isCommit : Bool) (answers : Answers D)
    (own : iFirst ≠ 0 → Own find iFirst (log.map Prod.fst)) (kept : iFirst ≠ 0 → keep < iFirst)
    (contents : Contents frames (log ++ done)) (pList : List (Nat × D))
    (fresh : pList ≠ [] → iFirst ≠ 0 → ∀ p ∈ done, find p.1 < iFirst) :
    ∃ rc frames' appended log',
      writePages find iFirst isCommit answers frames (log ++ done).length pList = (rc, frames', appended) ∧
        log'.map Prod.fst = log.map Prod.fst ∧ log'.take keep = log.take keep ∧ Contents frames' log' ∧
        ((rc = SQLITE_OK ∧ Contents frames' (log' ++ done ++ appended) ∧ (∀ p ∈ appended, p ∈ pList) ∧
            ∀ pgno, latest (log' ++ done ++ appended) pgno = (latest pList pgno).or (latest (log ++ done) pgno)) ∨
          ∃ k, answers.writes k ≠ SQLITE_OK ∧ rc = answers.writes k) := by
  induction pList generalizing frames log done with
  | nil =>
    refine ⟨_, _, _, log, rfl, rfl, rfl, contents.left, Or.inl ⟨rfl, ?_, fun _ member => member, fun pgno => ?_⟩⟩
    · rwa [List.append_nil]
    · rw [List.append_nil]
      rfl
  | cons p pList ih =>
    obtain ⟨pgno, data⟩ := p
    have single (other : Nat) : (latest [(pgno, data)] other).or (latest (log ++ done) other) =
        if other = pgno then some data else latest (log ++ done) other := by
      rw [latest_singleton]
      split <;> rfl
    rw [writePages]
    dsimp only
    by_cases inPlace : iFirst ≠ 0 ∧ iFirst ≤ if iFirst ≠ 0 ∧ (pList ≠ [] ∨ isCommit = false) then find pgno else 0
    · rw [if_pos inPlace]
      obtain ⟨started, found⟩ := inPlace
      by_cases asked : iFirst ≠ 0 ∧ (pList ≠ [] ∨ isCommit = false)
      · rw [if_pos asked] at found ⊢
        obtain ⟨before, old, after, rfl, place, absent⟩ := (own started).split found
        have later : keep ≤ before.length := by
          have := kept started
          omega
        have missing : ∀ p ∈ after ++ done, p.1 ≠ pgno := by
          intro p member
          rcases List.mem_append.mp member with inLog | inDone
          · exact absent p inLog
          · rintro rfl
            exact absurd found (not_le.mpr (fresh (List.cons_ne_nil _ _) started p inDone))
        have first (content : D) : (before ++ (pgno, content) :: after).take keep =
          (before ++ (pgno, old) :: after).take keep := by
          rw [List.take_append_of_le_length later, List.take_append_of_le_length later]
        have numbers (content : D) : (before ++ (pgno, content) :: after).map Prod.fst =
            (before ++ (pgno, old) :: after).map Prod.fst := by
          rw [List.map_append, List.map_append, List.map_cons, List.map_cons]
        have length (content : D) : (before ++ (pgno, content) :: after ++ done).length =
            (before ++ (pgno, old) :: after ++ done).length := by
          simp only [List.length_append, List.length_cons]
        have replaced (content : D) : Contents (Function.update frames (find pgno) content)
            (before ++ (pgno, content) :: after ++ done) := by
          rw [← place, List.append_assoc, List.cons_append]
          rw [List.append_assoc, List.cons_append] at contents
          exact contents.replace
        by_cases failed : answers.writes pList.length ≠ SQLITE_OK
        · rw [if_pos failed, if_pos failed]
          exact ⟨_, _, _, _, rfl, numbers _, first _, (replaced _).left, Or.inr ⟨_, failed, rfl⟩⟩
        · rw [if_neg failed, if_neg failed]
          have owned (started : iFirst ≠ 0) : Own find iFirst ((before ++ (pgno, data) :: after).map Prod.fst) :=
            numbers data ▸ own started
          obtain ⟨rc, frames', appended, log', written, same, front, contents', outcome⟩ :=
            ih owned (replaced data) fun _ => fresh (List.cons_ne_nil _ _)
          rw [length] at written
          refine ⟨rc, frames', appended, log', written, same.trans (numbers data), front.trans (first data),
            contents', ?_⟩
          refine outcome.imp_left fun ⟨ok, whole, members, contents⟩ => ⟨ok, whole, ?_, fun other => ?_⟩
          · exact fun p member => List.mem_cons_of_mem _ (members p member)
          · rw [contents, latest_cons, Option.or_assoc, single, List.append_assoc, List.append_assoc, List.cons_append,
              List.cons_append, latest_replace missing]
      · rw [if_neg asked] at found
        exact absurd (Nat.le_zero.mp found) started
    · rw [if_neg inPlace]
      have put (content : D) : Contents (Function.update frames ((log ++ done).length + 1) content)
          (log ++ done ++ [(pgno, content)]) := contents.append (pgno, content)
      by_cases failed : answers.writes pList.length ≠ SQLITE_OK
      · rw [if_pos failed, if_pos failed]
        exact ⟨_, _, _, log, rfl, rfl, rfl, (put _).left.left, Or.inr ⟨_, failed, rfl⟩⟩
      · rw [if_neg failed, if_neg failed]
        have fresh' : pList ≠ [] → iFirst ≠ 0 → ∀ p ∈ done ++ [(pgno, data)], find p.1 < iFirst := by
          intro more started p member
          rcases List.mem_append.mp member with earlier | last
          · exact fresh (List.cons_ne_nil _ _) started p earlier
          · rw [List.mem_singleton.mp last]
            rw [if_pos ⟨started, Or.inl more⟩] at inPlace
            exact not_le.mp fun found => inPlace ⟨started, found⟩
        have longer := put data
        rw [List.append_assoc] at longer
        obtain ⟨rc, frames', appended, log', written, same, front, contents', outcome⟩ := ih own longer fresh'
        have length : (log ++ (done ++ [(pgno, data)])).length = (log ++ done).length + 1 := by
          simp only [List.length_append, List.length_singleton]
          omega
        rw [length] at written
        rw [written]
        refine ⟨rc, frames', (pgno, data) :: appended, log', rfl, same, front, contents', ?_⟩
        have regroup : log' ++ (done ++ [(pgno, data)]) ++ appended = log' ++ done ++ (pgno, data) :: appended := by
          simp only [List.append_assoc, List.singleton_append]
        refine outcome.imp_left fun ⟨ok, whole, members, contents⟩ => ⟨ok, regroup ▸ whole, ?_, fun other => ?_⟩
        · intro p member
          rcases List.mem_cons.mp member with rfl | later
          · exact List.mem_cons_self ..
          · exact List.mem_cons_of_mem _ (members p later)
        · rw [← regroup, contents, latest_cons, Option.or_assoc, ← List.append_assoc, latest_append]

theorem padFrames_spec (contents : Contents frames log) (pLast : Nat × D) (nExtra : Nat) :
    ∃ frames', padFrames frames log.length pLast nExtra = (frames', List.replicate nExtra pLast) ∧
      Contents frames' (log ++ List.replicate nExtra pLast) := by
  induction nExtra generalizing frames log with
  | zero => exact ⟨frames, rfl, by rwa [List.replicate_zero, List.append_nil]⟩
  | succ nExtra ih =>
    obtain ⟨frames', padded, whole⟩ := ih (contents.append pLast)
    rw [List.length_append, List.length_singleton] at padded
    refine ⟨frames', ?_, ?_⟩
    · rw [padFrames, padded]
      rfl
    · rwa [List.append_assoc] at whole

theorem padLast_spec {appended : List (Nat × D)} (contents : Contents frames (log ++ appended)) (nExtra : Nat) :
    ∃ frames' extra, padLast frames log.length appended nExtra = (frames', extra) ∧
      Contents frames' (log ++ (appended ++ extra)) ∧ (∀ p ∈ extra, p ∈ appended) ∧
      ∀ pgno, latest (log ++ (appended ++ extra)) pgno = latest (log ++ appended) pgno := by
  rw [padLast]
  cases last : appended.getLast? with
  | none => exact ⟨frames, [], rfl, by rwa [List.append_nil], by simp, fun _ => by rw [List.append_nil]⟩
  | some pLast =>
    obtain ⟨frames', pads, wider⟩ := padFrames_spec contents pLast nExtra
    rw [List.length_append] at pads
    refine ⟨frames', _, pads, by rwa [← List.append_assoc], fun p member => ?_, fun pgno => ?_⟩
    · rw [List.eq_of_mem_replicate member]
      exact List.mem_of_getLast? last
    · rw [← List.append_assoc]
      refine latest_replicate ?_ nExtra
      rw [List.getLast?_append, last]
      rfl

end Writing

section Operations

variable {log : List (Nat × D)} {pWal : Wal D} {pList : List (Nat × D)}

/-- The frames of the log are in the file and in the index. Those that are not committed
are of the connection that has this header. -/
structure Logged (log : List (Nat × D)) (pWal : Wal D) : Prop where
  header : pWal.hdr = { pWal.live with mxFrame := log.length }
  committed : pWal.live.mxFrame ≤ log.length
  index : Indexes (log.map Prod.fst) pWal.apWiData
  proper : ∀ p ∈ log, p.1 ≠ 0
  content : Contents pWal.frames log

theorem Logged.length (logged : Logged log pWal) : pWal.hdr.mxFrame = log.length := by rw [logged.header]

theorem Logged.own (logged : Logged log pWal) (maps : Nat → Nat) (minFrame : Nat) :
    Own (fun pgno => (walFindFrame maps pWal.apWiData ⟨pWal.hdr.mxFrame, minFrame, false⟩ pgno).2)
      (pWal.live.mxFrame + 1) (log.map Prod.fst) := by
  intro pgno later
  dsimp only at later ⊢
  have length := logged.length
  have inside : pWal.hdr.mxFrame ≤ (log.map Prod.fst).length := by rw [List.length_map, length]
  have found : Finds maps (Hit (log.map Prod.fst) ⟨pWal.hdr.mxFrame, minFrame, false⟩ pgno)
      (walFindFrame maps pWal.apWiData ⟨pWal.hdr.mxFrame, minFrame, false⟩ pgno) := logged.index.walFindFrame inside rfl
  rcases found with ⟨iHash, _, outcome⟩ | ⟨_, ⟨hit, greatest⟩ | ⟨nothing, _⟩⟩
  · rw [outcome] at later
    exact absurd later (Nat.not_succ_le_zero _)
  · obtain ⟨before, old, after, split, place, absent⟩ := split_of_hit length.le hit greatest
    rw [List.take_of_length_le length.ge] at split
    refine ⟨before.map Prod.fst, after.map Prod.fst, ?_, ?_, fun member => ?_⟩
    · rw [split, List.map_append, List.map_cons]
    · rw [List.length_map]
      exact place
    · obtain ⟨p, inAfter, same⟩ := List.mem_map.mp member
      exact absent p inAfter same
  · rw [nothing] at later
    exact absurd later (Nat.not_succ_le_zero _)

/-- The answers that a set of frames may fail with. -/
def Refused (answers : Answers D) (rc : Nat) : Prop :=
  rc ≠ SQLITE_OK ∧ (rc = answers.header ∨ (∃ k, rc = answers.writes k) ∨ rc = answers.sync ∨ ∃ iHash,
    rc = answers.maps iHash)

theorem Logged.indexFrames (logged : Logged log pWal) (answers : Answers D)
    (isCommit : Bool) {appended : List (Nat × D)} (proper : ∀ p ∈ appended, p.1 ≠ 0)
    (content : Contents pWal.frames (log ++ appended)) :
    ∃ rc pWal', SQLite.indexFrames answers.maps pWal appended isCommit = (rc, pWal') ∧
      pWal'.minFrame = pWal.minFrame ∧ pWal'.nCkpt = pWal.nCkpt ∧
      ((rc = SQLITE_OK ∧ Logged (log ++ appended) pWal' ∧ pWal'.live = if isCommit then
          { pWal.live with iChange := pWal.live.iChange + 1, mxFrame := (log ++ appended).length } else pWal.live) ∨
        (Refused answers rc ∧ Logged log pWal' ∧ pWal'.live = pWal.live ∧ pWal'.hdr = pWal.hdr)) := by
  have length : (log.map Prod.fst).length = pWal.hdr.mxFrame := by rw [List.length_map, logged.length]
  obtain ⟨rc, pWal', put, same, index, outcome⟩ :=
    logged.index.appendFrames answers.maps (Or.inl length.symm) proper
  rw [length] at put
  rw [SQLite.indexFrames, put, same]
  dsimp only
  by_cases unmapped : rc ≠ SQLITE_OK
  · rw [if_pos unmapped]
    refine ⟨_, _, rfl, rfl, rfl, Or.inr ⟨⟨unmapped, ?_⟩, ?_, rfl, rfl⟩⟩
    · refine Or.inr (Or.inr (Or.inr ?_))
      exact outcome.elim (fun whole => absurd whole.1 unmapped) fun ⟨k, _, same⟩ => ⟨k, same⟩
    · exact ⟨logged.header, logged.committed, index, logged.proper, content.left⟩
  · rw [if_neg unmapped]
    rcases outcome with ⟨_, longer⟩ | ⟨k, refused, same⟩
    · rw [← List.map_append] at longer
      have numbered : ∀ p ∈ log ++ appended, p.1 ≠ 0 := fun p member =>
        (List.mem_append.mp member).elim (logged.proper p) (proper p)
      have further : pWal.hdr.mxFrame + appended.length = (log ++ appended).length := by
        rw [List.length_append, logged.length]
      have grown : pWal.live.mxFrame ≤ (log ++ appended).length := by
        have committed := logged.committed
        rw [List.length_append]
        omega
      cases isCommit with
      | true =>
        refine ⟨_, _, rfl, rfl, rfl, Or.inl ⟨rfl, ⟨?_, ?_, longer, numbered, content⟩, ?_⟩⟩
        · rw [further]
        · exact further.le
        · rw [further, logged.header]
          rfl
      | false =>
        refine ⟨_, _, rfl, rfl, rfl, Or.inl ⟨rfl, ⟨?_, grown, longer, numbered, content⟩, rfl⟩⟩
        dsimp only
        rw [further, logged.header]
    · exact absurd (not_not.mp unmapped) (same ▸ refused)

/-- A set of frames that is written adds its pages to the log, and commits it if it is to.
If it fails, what is committed and the number of frames are as before. -/
theorem Logged.walFrames (logged : Logged log pWal) (pages : ∀ p ∈ pList, p.1 ≠ 0) (answers : Answers D)
    (isCommit : Bool)
    (nExtra : Nat) :
    ∃ rc pWal' log', SQLite.walFrames answers pWal pList isCommit nExtra = (rc, pWal') ∧ Logged log' pWal' ∧
      log'.take pWal.live.mxFrame = log.take pWal.live.mxFrame ∧ pWal'.minFrame = pWal.minFrame ∧
        pWal'.nCkpt = pWal.nCkpt ∧
      ((rc = SQLITE_OK ∧ (∀ pgno, latest log' pgno = (latest pList pgno).or (latest log pgno)) ∧
          pWal'.live =
            if isCommit then { pWal.live with iChange := pWal.live.iChange + 1, mxFrame := log'.length }
            else pWal.live) ∨
        (Refused answers rc ∧ pWal'.live = pWal.live ∧ pWal'.hdr = pWal.hdr)) := by
  have length := logged.length
  rw [SQLite.walFrames]
  dsimp only
  by_cases headed : pWal.hdr.mxFrame = 0 ∧ answers.header ≠ SQLITE_OK
  · rw [if_pos headed]
    exact ⟨_, _, log, rfl, logged, rfl, rfl, rfl, Or.inr ⟨⟨headed.2, Or.inl rfl⟩, rfl, rfl⟩⟩
  · rw [if_neg headed]
    generalize first : (if pWal.hdr ≠ pWal.live then pWal.live.mxFrame + 1 else 0) = iFirst
    have later (started : iFirst ≠ 0) : pWal.live.mxFrame + 1 = iFirst := by
      split at first
      · exact first
      · exact absurd first.symm started
    have kept (started : iFirst ≠ 0) : pWal.live.mxFrame < iFirst := (later started).le
    have own (started : iFirst ≠ 0) := later started ▸ logged.own answers.maps pWal.minFrame
    have content : Contents pWal.frames (log ++ []) := by
      rw [List.append_nil]
      exact logged.content
    obtain ⟨rc, frames, appended, log', written, same, front, contents, outcome⟩ :=
      writePages_spec isCommit answers own kept content pList fun _ _ _ member => absurd member List.not_mem_nil
    have length' : log'.length = log.length := by
      have mapped := congrArg List.length same
      rwa [List.length_map, List.length_map] at mapped
    rw [List.append_nil, ← length] at written
    rw [written]
    dsimp only
    have committed : pWal.live.mxFrame ≤ log'.length := length' ▸ logged.committed
    have numbered : ∀ p ∈ log', p.1 ≠ 0 := by
      intro p member
      obtain ⟨q, inLog, same'⟩ := List.mem_map.mp (same ▸ List.mem_map_of_mem member : p.1 ∈ log.map Prod.fst)
      exact same' ▸ logged.proper q inLog
    have short : Logged log' { pWal with frames := frames } :=
      ⟨by rw [length']; exact logged.header, committed, same ▸ logged.index, numbered, contents⟩
    by_cases failed : rc ≠ SQLITE_OK
    · rw [if_pos failed]
      refine ⟨_, _, log', rfl, short, front, rfl, rfl, Or.inr ⟨⟨failed, Or.inr (Or.inl ?_)⟩, rfl, rfl⟩⟩
      exact outcome.elim (fun whole => absurd whole.1 failed) fun ⟨k, _, same⟩ => ⟨k, same⟩
    · rw [if_neg failed]
      rcases outcome with ⟨_, whole, members, contents'⟩ | ⟨k, refused, same⟩
      · rw [List.append_nil] at whole
        obtain ⟨frames', extra, pads, wider, copies, last⟩ := padLast_spec whole (if isCommit then nExtra else 0)
        rw [length', ← length] at pads
        rw [pads]
        dsimp only
        have short' : Logged log' { pWal with frames := frames' } :=
          ⟨short.header, committed, short.index, numbered, wider.left⟩
        by_cases unsynced : answers.sync ≠ SQLITE_OK
        · rw [if_pos unsynced]
          exact ⟨_, _, log', rfl, short', front, rfl, rfl, Or.inr ⟨⟨unsynced, Or.inr (Or.inr (Or.inl rfl))⟩, rfl, rfl⟩⟩
        · rw [if_neg unsynced]
          have added : ∀ p ∈ appended ++ extra, p.1 ≠ 0 := by
            intro p member
            rcases List.mem_append.mp member with inSet | copy
            · exact pages p (members p inSet)
            · exact pages p (members p (copies p copy))
          obtain ⟨rc', pWal', put, sameMin, sameCkpt, outcome⟩ :=
            short'.indexFrames answers isCommit added wider
          rw [put]
          rcases outcome with ⟨ok, longer, live⟩ | ⟨refused, shorter, sameLive, sameHdr⟩
          · refine ⟨_, _, _, rfl, longer, ?_, sameMin, sameCkpt, Or.inl ⟨ok, fun pgno => ?_, live⟩⟩
            · rw [List.take_append_of_le_length committed, front]
            · have contents := contents' pgno
              rw [List.append_nil, List.append_nil] at contents
              rw [last, contents]
          · exact ⟨_, _, log', rfl, shorter, front, sameMin, sameCkpt, Or.inr ⟨refused, sameLive, sameHdr⟩⟩
      · exact absurd (not_not.mp failed) (same ▸ refused)

theorem Logged.clean (logged : Logged log pWal) : Logged log (walCleanupHash pWal) := by
  have length : pWal.hdr.mxFrame = (log.map Prod.fst).length := by rw [List.length_map, logged.length]
  rw [walCleanupHash_same pWal]
  exact ⟨logged.header, logged.committed, (logged.index.clean length).1, logged.proper, logged.content⟩

/-- Another header, before which there are as many frames of the log. -/
theorem Logged.take (logged : Logged log pWal) {n : Nat} (fewer : n ≤ log.length) (committed : pWal.live.mxFrame ≤ n) :
    Logged (log.take n) { pWal with hdr := { pWal.hdr with mxFrame := n } } := by
  have length : (log.take n).length = n := List.length_take_of_le fewer
  refine ⟨?_, by rwa [length], ?_, fun p member => logged.proper p (List.mem_of_mem_take member), logged.content.take n⟩
  · rw [length, logged.header]
  · rw [List.map_take]
    exact logged.index.take n

theorem Logged.back (logged : Logged log pWal) : Logged
    (log.take pWal.live.mxFrame) { pWal with hdr := pWal.live } := by
  have shorter := logged.take logged.committed le_rfl
  rw [logged.header] at shorter
  exact shorter

theorem Logged.sqlite3WalUndo (logged : Logged log pWal) :
    (SQLite.sqlite3WalUndo pWal).1 = (log.drop pWal.live.mxFrame).map Prod.fst ∧
      Logged (log.take pWal.live.mxFrame) (SQLite.sqlite3WalUndo pWal).2 := by
  have committed := logged.committed
  refine ⟨?_, ?_⟩
  · rw [SQLite.sqlite3WalUndo, logged.length]
    refine List.ext_getElem (by simp) fun i less _ => ?_
    dsimp only at less ⊢
    rw [List.length_map, List.length_range] at less
    rw [List.getElem_map, List.getElem_map, List.getElem_range, List.getElem_drop]
    rw [logged.index.walFramePgno (by omega) (by rw [List.length_map]; omega), List.getD_eq_getElem _ _ (by
      rw [List.length_map]; omega), List.getElem_map]
    simp only [Nat.add_right_comm _ 1 i, Nat.add_sub_cancel]
  · rw [SQLite.sqlite3WalUndo]
    dsimp only
    split
    · exact logged.back.clean
    · exact logged.back

/-- A transaction goes back to a savepoint of it, or to its begin where the log was
restarted after the savepoint was opened. -/
theorem Logged.sqlite3WalSavepointUndo (logged : Logged log pWal) {aWalData : Nat × Nat}
    (kept : aWalData.2 = pWal.nCkpt → pWal.live.mxFrame ≤ aWalData.1)
    (restarted : aWalData.2 ≠ pWal.nCkpt → pWal.live.mxFrame = 0) :
    Logged (log.take (SQLite.sqlite3WalSavepointUndo pWal aWalData).1.1)
      (SQLite.sqlite3WalSavepointUndo pWal aWalData).2 := by
  have length := logged.length
  rw [SQLite.sqlite3WalSavepointUndo]
  dsimp only
  generalize data : (if aWalData.2 ≠ pWal.nCkpt then (0, pWal.nCkpt) else aWalData) = point
  have committed : pWal.live.mxFrame ≤ point.1 := by
    rw [← data]
    split
    · exact (restarted ‹_›).le
    · exact kept (not_not.mp ‹_›)
  split
  · exact (logged.take (by omega) committed).clean
  · rwa [List.take_of_length_le (by omega)]

/-- What a connection reads from the log. -/
theorem Logged.find (logged : Logged log pWal) (snapshot : Snapshot) (within : snapshot.mxFrame ≤ log.length)
    (used : snapshot.ignored = false) (maps : Nat → Nat) (pgno : Nat) :
    (∃ iHash, maps iHash ≠ SQLITE_OK ∧ walFindFrame maps pWal.apWiData snapshot pgno = (maps iHash, 0)) ∨
      ∃ f, walFindFrame maps pWal.apWiData snapshot pgno = (SQLITE_OK, f) ∧
        ((f ≠ 0 ∧ latest (log.take snapshot.mxFrame) pgno = some (pWal.frames f)) ∨
          (f = 0 ∧ ∀ g, ¬ Hit (log.map Prod.fst) snapshot pgno g)) := by
  have inside : snapshot.mxFrame ≤ (log.map Prod.fst).length := by rwa [List.length_map]
  refine (logged.index.walFindFrame inside used).imp_right fun ⟨ok, greatest⟩ => ⟨_, Prod.ext ok rfl, ?_⟩
  rcases greatest with ⟨hit, greatest⟩ | ⟨nothing, absent⟩
  · refine Or.inl ⟨hit.1.ne', ?_⟩
    obtain ⟨before, old, after, split, place, absent⟩ := split_of_hit within hit greatest
    have content := logged.content.take snapshot.mxFrame
    rw [split] at content ⊢
    have here : pWal.frames (before.length + 1) = old := content before.length (pgno, old) (by simp)
    rw [place] at here
    rw [here, latest_split, latest_eq_none absent, if_pos rfl]
    rfl
  · exact Or.inr ⟨nothing, absent⟩

end Operations

end SignalPods.SQLite
