import Mathlib.Data.List.GetD
import SignalPods.SQLite.WalIndex

namespace SignalPods.SQLite

open Foundation

section Slots

variable {aHash : Fin HASHTABLE_NSLOT → Nat} {h : Fin HASHTABLE_NSLOT} {d nCollide : Nat}

theorem walNextHash_eq (h : Fin HASHTABLE_NSLOT) : walNextHash h = forward h 1 :=
  Fin.ext (Nat.and_two_pow_sub_one_eq_mod (h.val + 1) 13)

theorem freeSlot_eq (within : d ≤ nCollide) (passes : ∀ e < d, aHash (forward h e) ≠ 0)
    (free : aHash (forward h d) = 0) : freeSlot aHash nCollide h = some (forward h d) := by
  induction d generalizing h nCollide with
  | zero =>
    rw [forward_zero] at free ⊢
    cases nCollide with
    | zero => exact if_pos free
    | succ => exact if_pos free
  | succ d ih =>
    have taken : aHash h ≠ 0 := by simpa only [forward_zero] using passes 0 (Nat.succ_pos d)
    obtain ⟨nCollide, rfl⟩ : ∃ rest, nCollide = rest + 1 := ⟨nCollide - 1, by omega⟩
    have steps (e : Nat) : forward (walNextHash h) e = forward h (e + 1) := by
      rw [walNextHash_eq, forward_forward, Nat.add_comm]
    rw [freeSlot, if_neg taken, ← steps d]
    refine ih (Nat.le_of_succ_le_succ within) (fun e before => ?_) ?_
    · rw [steps e]
      exact passes (e + 1) (Nat.succ_lt_succ before)
    · rwa [steps d]

/-- Whether a search takes the frame of a key. -/
def Taken (page : WalIndexPage) (iZero : Nat) (snapshot : Snapshot) (pgno key : Nat) : Prop :=
  key + iZero ≤ snapshot.mxFrame ∧ snapshot.minFrame ≤ key + iZero ∧ page.aPgno (key - 1) = pgno

instance (page : WalIndexPage) (iZero : Nat) (snapshot : Snapshot) (pgno key : Nat) :
    Decidable (Taken page iZero snapshot pgno key) :=
  inferInstanceAs (Decidable (_ ∧ _ ∧ _))

theorem searchPage_eq {page : WalIndexPage} {iZero : Nat} {snapshot : Snapshot} {pgno iRead : Nat}
    (within : d ≤ nCollide) (passes : ∀ e < d, page.aHash (forward h e) ≠ 0) (free : page.aHash (forward h d) = 0) :
    searchPage page iZero snapshot pgno nCollide h iRead =
      some (((List.range d).map fun e => page.aHash (forward h e)).foldl
        (fun iRead key => if Taken page iZero snapshot pgno key then key + iZero else iRead) iRead) := by
  induction d generalizing h nCollide iRead with
  | zero =>
    rw [forward_zero] at free
    unfold searchPage
    rw [if_pos free]
    rfl
  | succ d ih =>
    have taken : page.aHash h ≠ 0 := by simpa only [forward_zero] using passes 0 (Nat.succ_pos d)
    obtain ⟨nCollide, rfl⟩ : ∃ rest, nCollide = rest + 1 := ⟨nCollide - 1, by omega⟩
    have steps (e : Nat) : forward (walNextHash h) e = forward h (e + 1) := by
      rw [walNextHash_eq, forward_forward, Nat.add_comm]
    rw [List.range_succ_eq_map, List.map_cons, List.map_map, List.foldl_cons, forward_zero]
    unfold searchPage
    rw [if_neg taken]
    refine (ih (Nat.le_of_succ_le_succ within) (fun e before => ?_) ?_).trans ?_
    · rw [steps e]
      exact passes (e + 1) (Nat.succ_lt_succ before)
    · rwa [steps d]
    · simp only [steps]
      rfl

end Slots

section Blocks

/-- How many frames a page of the index is for. -/
def capacity (iHash : Nat) : Nat := iZero (iHash + 1) - iZero iHash

theorem iZero_succ (iHash : Nat) : iZero (iHash + 1) = HASHTABLE_NPAGE_ONE + iHash * HASHTABLE_NPAGE := by
  simp [iZero]

theorem iZero_add_capacity (iHash : Nat) : iZero iHash + capacity iHash = iZero (iHash + 1) := by
  refine Nat.add_sub_cancel' ?_
  cases iHash with
  | zero => exact Nat.zero_le _
  | succ iHash =>
    rw [iZero_succ, iZero_succ]
    exact Nat.add_le_add_left (Nat.mul_le_mul_right _ (Nat.le_succ iHash)) _

theorem iZero_mono {low high : Nat} (less : low ≤ high) : iZero low ≤ iZero high :=
  monotone_nat_of_le_succ (fun iHash => iZero_add_capacity iHash ▸ Nat.le_add_right ..) less

theorem capacity_le (iHash : Nat) : capacity iHash ≤ HASHTABLE_NPAGE := by
  cases iHash with
  | zero => decide
  | succ iHash =>
    rw [capacity, iZero_succ, iZero_succ, Nat.succ_mul]
    omega

theorem capacity_pos (iHash : Nat) : 0 < capacity iHash := by
  cases iHash with
  | zero => decide
  | succ iHash =>
    rw [capacity, iZero_succ, iZero_succ, Nat.succ_mul]
    have some_frames : 0 < HASHTABLE_NPAGE := by decide
    omega

theorem walFramePage_eq (iFrame : Nat) : walFramePage iFrame = (iFrame + 33) / 4096 := by
  have offset : iFrame + HASHTABLE_NPAGE - HASHTABLE_NPAGE_ONE - 1 = iFrame + 33 := by
    simp only [HASHTABLE_NPAGE_ONE, HASHTABLE_NPAGE, WALINDEX_HDR_SIZE]
    omega
  rw [walFramePage, offset]
  rfl

theorem iZero_walFramePage_lt {iFrame : Nat} (proper : 0 < iFrame) : iZero (walFramePage iFrame) < iFrame := by
  rw [walFramePage_eq]
  have whole := Nat.div_mul_le_self (iFrame + 33) 4096
  cases page : (iFrame + 33) / 4096 with
  | zero => exact proper
  | succ iHash =>
    rw [page] at whole
    rw [iZero_succ, show HASHTABLE_NPAGE_ONE = 4062 from rfl, show HASHTABLE_NPAGE = 4096 from rfl]
    omega

theorem le_iZero_walFramePage_succ (iFrame : Nat) : iFrame ≤ iZero (walFramePage iFrame + 1) := by
  have below := Nat.lt_div_mul_add (a := iFrame + 33) (b := 4096) (by decide)
  rw [walFramePage_eq, iZero_succ, show HASHTABLE_NPAGE_ONE = 4062 from rfl, show HASHTABLE_NPAGE = 4096 from rfl]
  omega

theorem walFramePage_le {iFrame iHash : Nat} (within : iFrame ≤ iZero (iHash + 1)) : walFramePage iFrame ≤ iHash := by
  rw [iZero_succ, show HASHTABLE_NPAGE_ONE = 4062 from rfl, show HASHTABLE_NPAGE = 4096 from rfl] at within
  rw [walFramePage_eq]
  omega

theorem walFramePage_mono {low high : Nat} (less : low ≤ high) : walFramePage low ≤ walFramePage high :=
  walFramePage_le (less.trans (le_iZero_walFramePage_succ high))

theorem walFramePage_unique {iFrame iHash : Nat} (above : iZero iHash < iFrame) (within : iFrame ≤ iZero (iHash + 1)) :
    walFramePage iFrame = iHash := by
  refine le_antisymm (walFramePage_le within) ?_
  by_contra less
  have lower : iZero (walFramePage iFrame + 1) ≤ iZero iHash := iZero_mono (not_le.mp less)
  have inside := le_iZero_walFramePage_succ iFrame
  omega

end Blocks

section Pages

variable {room iPage : Nat} {pages rest : List Nat} {page : WalIndexPage}

/-- A page of the index that has the frames of these pages, and no others. -/
structure Filled (room : Nat) (pages : List Nat) (page : WalIndexPage) : Prop where
  inside : pages.length ≤ room
  numbers : ∀ i, page.aPgno i = pages.getD i 0
  proper : ∀ iPage ∈ pages, iPage ≠ 0
  chained : Chained 0 (fun idx => walHash (pages.getD (idx - 1) 0)) page.aHash
  held : ∀ idx, idx ≠ 0 → ((∃ iKey, page.aHash iKey = idx) ↔ idx ≤ pages.length)

theorem filled_zero : Filled room [] .zero where
  inside := Nat.zero_le room
  numbers _ := rfl
  proper _ member := absurd member List.not_mem_nil
  chained := chained_vacant
  held _ proper := ⟨fun ⟨_, same⟩ => absurd same.symm proper, fun less => absurd (Nat.le_zero.mp less) proper⟩

theorem Filled.mem_Icc (filled : Filled room pages page) (iKey : Fin HASHTABLE_NSLOT) (proper : page.aHash iKey ≠ 0) :
    page.aHash iKey ∈ Finset.Icc 1 pages.length :=
  Finset.mem_Icc.mpr ⟨Nat.pos_of_ne_zero proper, (filled.held _ proper).mp ⟨iKey, rfl⟩⟩

theorem Filled.vacancy (filled : Filled room pages page) (small : room ≤ HASHTABLE_NPAGE) :
    ∃ iKey, page.aHash iKey = 0 := by
  by_contra full
  have every := passes_le_card (h := ⟨0, by decide⟩) le_rfl filled.chained.distinct
    (fun e _ => not_exists.mp full _) filled.mem_Icc
  rw [Nat.card_Icc, Nat.add_sub_cancel] at every
  have inside := filled.inside
  have half : HASHTABLE_NPAGE < HASHTABLE_NSLOT := by decide
  omega

theorem getD_append_left {i : Nat} (inside : i < pages.length) : (pages ++ rest).getD i 0 = pages.getD i 0 :=
  List.getD_append _ _ _ _ inside

theorem Filled.append (filled : Filled room pages page) (small : room ≤ HASHTABLE_NPAGE) (fits : pages.length < room)
    (proper : iPage ≠ 0) :
    ∃ iKey, freeSlot page.aHash (pages.length + 1) (walHash iPage) = some iKey ∧
      Filled room (pages ++ [iPage])
        { aPgno := Function.update page.aPgno pages.length iPage
          aHash := Function.update page.aHash iKey (pages.length + 1) } := by
  obtain ⟨d, less, free, passes, -, -⟩ := filled.chained.walks (filled.vacancy small) (walHash iPage)
  have short := passes_le_card less.le filled.chained.distinct passes filled.mem_Icc
  rw [Nat.card_Icc, Nat.add_sub_cancel] at short
  have last : (pages ++ [iPage]).getD (pages.length + 1 - 1) 0 = iPage := by
    simp [List.getD_eq_getElem?_getD]
  have homes (iKey : Fin HASHTABLE_NSLOT) (taken : page.aHash iKey ≠ 0) :
      walHash ((pages ++ [iPage]).getD (page.aHash iKey - 1) 0) = walHash (pages.getD (page.aHash iKey - 1) 0) := by
    have bounds := Finset.mem_Icc.mp (filled.mem_Icc iKey taken)
    rw [getD_append_left (by omega)]
  refine ⟨_, freeSlot_eq (short.trans (Nat.le_succ _)) passes free, ?_, fun i => ?_, ?_, ?_, fun idx nonzero => ?_⟩
  · rw [List.length_append]
    exact fits
  · show Function.update page.aPgno pages.length iPage i = _
    by_cases here : i = pages.length
    · subst i
      rw [Function.update_self]
      exact last.symm
    · rw [Function.update_of_ne here, filled.numbers i]
      by_cases before : i < pages.length
      · exact (getD_append_left before).symm
      · rw [List.getD_eq_default _ _ (not_lt.mp before), List.getD_eq_default]
        rw [List.length_append, List.length_singleton]
        omega
  · intro other member
    rcases List.mem_append.mp member with earlier | same
    · exact filled.proper other earlier
    · exact List.mem_singleton.mp same ▸ proper
  · have moved := filled.chained.congr (fun idx => walHash ((pages ++ [iPage]).getD (idx - 1) 0)) homes
    have start : walHash ((pages ++ [iPage]).getD (pages.length + 1 - 1) 0) = walHash iPage := by rw [last]
    have below (iKey : Fin HASHTABLE_NSLOT) (taken : page.aHash iKey ≠ 0) : page.aHash iKey < pages.length + 1 :=
      Nat.lt_succ_of_le (Finset.mem_Icc.mp (filled.mem_Icc iKey taken)).2
    have put := moved.update below (Nat.succ_ne_zero _) less
    simp only [start] at put
    exact put free passes
  · rw [List.length_append, List.length_singleton]
    constructor
    · rintro ⟨iKey, (same : Function.update page.aHash (forward (walHash iPage) d) (pages.length + 1) iKey = idx)⟩
      by_cases here : iKey = forward (walHash iPage) d
      · rw [here, Function.update_self] at same
        exact same.ge
      · rw [Function.update_of_ne here] at same
        exact ((filled.held idx nonzero).mp ⟨iKey, same⟩).trans (Nat.le_succ _)
    · intro within
      by_cases here : idx = pages.length + 1
      · exact ⟨forward (walHash iPage) d, (Function.update_self ..).trans here.symm⟩
      · obtain ⟨iKey, same⟩ := (filled.held idx nonzero).mpr (by omega)
        refine ⟨iKey, (Function.update_of_ne ?_ _ _).trans same⟩
        rintro rfl
        exact nonzero (same.symm.trans free)

theorem Filled.clean (filled : Filled room (pages ++ rest) page) : Filled room pages (cleanPage page pages.length) := by
  have homes (iKey : Fin HASHTABLE_NSLOT) (taken : (cleanPage page pages.length).aHash iKey ≠ 0) :
      walHash (pages.getD ((cleanPage page pages.length).aHash iKey - 1) 0) =
        walHash ((pages ++ rest).getD ((cleanPage page pages.length).aHash iKey - 1) 0) := by
    have within : (cleanPage page pages.length).aHash iKey ≤ pages.length := by
      show (if _ then _ else _) ≤ _
      split
      · exact Nat.zero_le _
      · exact not_lt.mp ‹_›
    rw [getD_append_left (by omega)]
  refine ⟨?_, fun i => ?_, fun iPage member => ?_, ?_, fun idx nonzero => ?_⟩
  · exact le_trans (by rw [List.length_append]; exact Nat.le_add_right ..) filled.inside
  · show (if i < pages.length then page.aPgno i else 0) = _
    by_cases before : i < pages.length
    · rw [if_pos before, filled.numbers i, getD_append_left before]
    · rw [if_neg before, List.getD_eq_default _ _ (not_lt.mp before)]
  · exact filled.proper iPage (List.mem_append_left rest member)
  · exact (filled.chained.prune pages.length).congr _ homes
  · constructor
    · rintro ⟨iKey, same⟩
      have same : (if pages.length < page.aHash iKey then 0 else page.aHash iKey) = idx := same
      split at same
      · exact absurd same.symm nonzero
      · exact same ▸ not_lt.mp ‹_›
    · intro within
      obtain ⟨iKey, same⟩ := (filled.held idx nonzero).mpr (within.trans (by simp))
      refine ⟨iKey, ?_⟩
      show (if pages.length < page.aHash iKey then 0 else page.aHash iKey) = idx
      rw [same, if_neg (not_lt.mpr within)]

/-- A search finds the last frame of its page that it may read. -/
theorem Filled.search (filled : Filled room pages page) (small : room ≤ HASHTABLE_NPAGE) (iZero : Nat)
    (snapshot : Snapshot) (pgno : Nat) :
    ∃ iRead, searchPage page iZero snapshot pgno HASHTABLE_NSLOT (walHash pgno) 0 = some iRead ∧
      ((∃ idx, 0 < idx ∧ idx ≤ pages.length ∧ Taken page iZero snapshot pgno idx ∧ iRead = idx + iZero ∧
          ∀ other, 0 < other → other ≤ pages.length → Taken page iZero snapshot pgno other → other ≤ idx) ∨
        (iRead = 0 ∧ ∀ other, 0 < other → other ≤ pages.length → ¬ Taken page iZero snapshot pgno other)) := by
  obtain ⟨d, less, free, passes, met, ordered⟩ := filled.chained.walks (filled.vacancy small) (walHash pgno)
  refine ⟨_, searchPage_eq less.le passes free, ?_⟩
  have starts (idx : Nat) (taken : Taken page iZero snapshot pgno idx) : walHash (pages.getD (idx - 1) 0) =
    walHash pgno := by
    rw [← filled.numbers, taken.2.2]
  have reached (idx : Nat) (positive : 0 < idx) (within : idx ≤ pages.length)
      (taken : Taken page iZero snapshot pgno idx) : idx ∈ (List.range d).map fun e => page.aHash
        (forward (walHash pgno) e) := by
    obtain ⟨iKey, same⟩ := (filled.held idx positive.ne').mpr within
    have member := met iKey (same ▸ positive.ne') (by rw [same]; exact starts idx taken)
    rwa [same] at member
  have bounds (idx : Nat) (member : idx ∈ (List.range d).map fun e => page.aHash (forward (walHash pgno) e)) :
      0 < idx ∧ idx ≤ pages.length := by
    obtain ⟨e, inside, rfl⟩ := List.mem_map.mp member
    exact Finset.mem_Icc.mp (filled.mem_Icc _ (passes e (List.mem_range.mp inside)))
  have order := ordered.imp fun {a b} before (taken : Taken page iZero snapshot pgno b) => before (starts b taken)
  rcases foldl_taken (fun key => key + iZero) 0 order with ⟨idx, member, taken, value, greatest⟩ | ⟨value, absent⟩
  · refine Or.inl ⟨idx, (bounds idx member).1, (bounds idx member).2, taken, value,
      fun other positive within taken' => ?_⟩
    exact greatest other (reached other positive within taken') taken'
  · refine Or.inr ⟨value, fun other positive within taken' => ?_⟩
    exact absent other (reached other positive within taken') taken'

end Pages

section Logs

variable {log : List Nat} {apWiData : Nat → WalIndexPage} {iHash pgno : Nat} {snapshot : Snapshot} {maps : Nat → Nat}

/-- The frames of a log that are on a page of the index. -/
def part (log : List Nat) (iHash : Nat) : List Nat := (log.drop (iZero iHash)).take (capacity iHash)

theorem length_part (log : List Nat) (iHash : Nat) :
    (part log iHash).length = min (capacity iHash) (log.length - iZero iHash) := by
  rw [part, List.length_take, List.length_drop]

theorem getD_part {i : Nat} (inside : i < capacity iHash) : (part log iHash).getD i 0 = log.getD
    (iZero iHash + i) 0 := by
  rw [part, List.getD_eq_getElem?_getD, List.getElem?_take_of_lt inside, List.getElem?_drop, List.getD_eq_getElem?_getD]

theorem part_take (n : Nat) : part (log.take n) iHash = (part log iHash).take (n - iZero iHash) := by
  rw [part, part, List.drop_take, List.take_take, List.take_take, Nat.min_comm]

theorem part_append_of_le {rest : List Nat} (full : iZero (iHash + 1) ≤ log.length) :
    part (log ++ rest) iHash = part log iHash := by
  have whole := iZero_add_capacity iHash
  rw [part, part, List.drop_append_of_le_length (by omega), List.take_append_of_le_length]
  rw [List.length_drop]
  omega

theorem part_append {iPage : Nat} (above : iZero iHash ≤ log.length) (within : log.length < iZero (iHash + 1)) :
    part (log ++ [iPage]) iHash = part log iHash ++ [iPage] := by
  have whole := iZero_add_capacity iHash
  rw [part, part, List.drop_append_of_le_length above, List.take_of_length_le, List.take_of_length_le]
  · rw [List.length_drop]
    omega
  · rw [List.length_append, List.length_drop, List.length_singleton]
    omega

/-- Each page of the index has its frames of the log first, and may have more that are
not in the log. -/
def Indexes (log : List Nat) (apWiData : Nat → WalIndexPage) : Prop :=
  ∀ iHash, iZero iHash < log.length → ∃ rest, Filled (capacity iHash) (part log iHash ++ rest) (apWiData iHash)

theorem indexes_nil : Indexes [] apWiData := fun _ less => absurd less (Nat.not_lt_zero _)

theorem Indexes.take (indexes : Indexes log apWiData) (n : Nat) : Indexes (log.take n) apWiData := by
  intro iHash less
  obtain ⟨rest, filled⟩ := indexes iHash (less.trans_le (List.length_take_le' n log))
  refine ⟨(part log iHash).drop (n - iZero iHash) ++ rest, ?_⟩
  rw [part_take, ← List.append_assoc, List.take_append_drop]
  exact filled

/-- The greatest number with a property, or 0. -/
def Greatest (P : Nat → Prop) (f : Nat) : Prop := (P f ∧ ∀ g, P g → g ≤ f) ∨ (f = 0 ∧ ∀ g, ¬ P g)

theorem Greatest.unique {P : Nat → Prop} {f g : Nat} (first : Greatest P f) (second : Greatest P g) : f = g := by
  rcases first with ⟨here, above⟩ | ⟨rfl, absent⟩ <;> rcases second with ⟨there, beyond⟩ | ⟨rfl, missing⟩
  · exact le_antisymm (beyond f here) (above g there)
  · exact absurd here (missing f)
  · exact absurd there (absent g)
  · rfl

theorem Greatest.congr {P Q : Nat → Prop} {f : Nat} (greatest : Greatest P f) (same : ∀ g, P g ↔ Q g) :
    Greatest Q f := by
  rwa [← funext fun g => propext (same g)]

/-- A frame of a database page that a connection reads. -/
def Hit (log : List Nat) (snapshot : Snapshot) (pgno f : Nat) : Prop :=
  0 < f ∧ snapshot.minFrame ≤ f ∧ f ≤ snapshot.mxFrame ∧ log.getD (f - 1) 0 = pgno

theorem Filled.taken_iff {rest : List Nat} {page : WalIndexPage} {idx : Nat}
    (filled : Filled (capacity iHash) (part log iHash ++ rest) page) (within : snapshot.mxFrame ≤ log.length)
    (positive : 0 < idx) (inside : idx ≤ capacity iHash) :
    Taken page (iZero iHash) snapshot pgno idx ↔ Hit log snapshot pgno (idx + iZero iHash) := by
  have number (known : idx + iZero iHash ≤ snapshot.mxFrame) :
      page.aPgno (idx - 1) = log.getD (idx + iZero iHash - 1) 0 := by
    rw [filled.numbers, getD_append_left (by rw [length_part]; omega), getD_part (by omega),
      show iZero iHash + (idx - 1) = idx + iZero iHash - 1 by omega]
  constructor
  · rintro ⟨known, lower, same⟩
    exact ⟨by omega, lower, known, by rw [← number known, same]⟩
  · rintro ⟨_, lower, known, same⟩
    exact ⟨known, lower, by rw [number known, same]⟩

/-- What the search on one page of the index comes to. -/
theorem Indexes.searchPage (indexes : Indexes log apWiData) (within : snapshot.mxFrame ≤ log.length)
    (reaches : iZero iHash < log.length) (pgno : Nat) :
    ∃ iRead, SQLite.searchPage (apWiData iHash) (iZero iHash) snapshot pgno HASHTABLE_NSLOT (walHash pgno) 0 =
      some iRead ∧
      Greatest (fun f => Hit log snapshot pgno f ∧ iZero iHash < f ∧ f ≤ iZero (iHash + 1)) iRead := by
  have whole := iZero_add_capacity iHash
  obtain ⟨rest, filled⟩ := indexes iHash reaches
  obtain ⟨iRead, found, outcome⟩ := filled.search (capacity_le iHash) (iZero iHash) snapshot pgno
  have known (f : Nat) (hit : Hit log snapshot pgno f) (above : iZero iHash < f) (below : f ≤ iZero (iHash + 1)) :
      f - iZero iHash ≤ (part log iHash ++ rest).length ∧
        Taken (apWiData iHash) (iZero iHash) snapshot pgno (f - iZero iHash) := by
    refine ⟨?_, (filled.taken_iff within (by omega) (by omega)).mpr (by rwa [Nat.sub_add_cancel above.le])⟩
    have inLog := hit.2.2.1.trans within
    rw [List.length_append, length_part]
    omega
  refine ⟨iRead, found, ?_⟩
  rcases outcome with ⟨idx, positive, inside, taken, rfl, greatest⟩ | ⟨rfl, absent⟩
  · have fits := inside.trans filled.inside
    refine Or.inl ⟨⟨(filled.taken_iff within positive fits).mp taken, by omega, by omega⟩,
      fun g ⟨hit, above, below⟩ => ?_⟩
    have before := greatest _ (by omega) (known g hit above below).1 (known g hit above below).2
    omega
  · refine Or.inr ⟨rfl, fun g ⟨hit, above, below⟩ => ?_⟩
    exact absent _ (by omega) (known g hit above below).1 (known g hit above below).2

/-- Either a page of the index is not mapped, or the search comes to the last frame. -/
def Finds (maps : Nat → Nat) (P : Nat → Prop) (outcome : Nat × Nat) : Prop :=
  (∃ iHash, maps iHash ≠ SQLITE_OK ∧ outcome = (maps iHash, 0)) ∨ (outcome.1 = SQLITE_OK ∧ Greatest P outcome.2)

theorem Indexes.searchOne (indexes : Indexes log apWiData) (within : snapshot.mxFrame ≤ log.length)
    (reaches : iZero iHash < log.length) {before : Nat × Nat}
    (earlier : Finds maps (fun f => Hit log snapshot pgno f ∧ f ≤ iZero iHash) before) :
    Finds maps (fun f => Hit log snapshot pgno f ∧ f ≤ iZero (iHash + 1))
      (SQLite.searchOne maps apWiData snapshot pgno iHash before) := by
  have mono : iZero iHash ≤ iZero (iHash + 1) := iZero_mono (Nat.le_succ iHash)
  rw [SQLite.searchOne]
  by_cases low : iHash < walFramePage snapshot.minFrame
  · rw [if_pos low]
    refine Or.inr ⟨rfl, Or.inr ⟨rfl, fun g ⟨hit, below⟩ => ?_⟩⟩
    exact absurd (walFramePage_le (hit.2.1.trans below)) (not_le.mpr low)
  · rw [if_neg low]
    by_cases unmapped : maps iHash ≠ SQLITE_OK
    · rw [if_pos unmapped]
      exact Or.inl ⟨iHash, unmapped, rfl⟩
    · rw [if_neg unmapped]
      obtain ⟨iRead, found, greatest⟩ := indexes.searchPage within reaches pgno
      simp only [found]
      rcases greatest with ⟨⟨hit, above, below⟩, greatest⟩ | ⟨rfl, absent⟩
      · rw [if_pos (by omega)]
        refine Or.inr ⟨rfl, Or.inl ⟨⟨hit, below⟩, fun g ⟨hit', below'⟩ => ?_⟩⟩
        by_cases before : g ≤ iZero iHash
        · exact before.trans above.le
        · exact greatest g ⟨hit', not_le.mp before, below'⟩
      · rw [if_neg (by simp)]
        refine earlier.imp_right (And.imp_right fun known => known.congr fun g => ?_)
        refine ⟨fun ⟨hit, below⟩ => ⟨hit, below.trans mono⟩, fun ⟨hit, below⟩ => ⟨hit, ?_⟩⟩
        by_contra above
        exact absent g ⟨hit, not_le.mp above, below⟩

theorem Indexes.searchPages (indexes : Indexes log apWiData) (within : snapshot.mxFrame ≤ log.length)
    (reaches : iZero iHash < log.length) :
    Finds maps (fun f => Hit log snapshot pgno f ∧ f ≤ iZero (iHash + 1))
      (SQLite.searchPages maps apWiData snapshot pgno iHash) := by
  induction iHash with
  | zero =>
    refine indexes.searchOne within reaches (Or.inr ⟨rfl, Or.inr ⟨rfl, fun g ⟨hit, below⟩ => ?_⟩⟩)
    exact absurd (Nat.le_zero.mp below) hit.1.ne'
  | succ iHash ih =>
    exact indexes.searchOne within reaches (ih ((iZero_mono (Nat.le_succ iHash)).trans_lt reaches))

theorem Indexes.walFindFrame (indexes : Indexes log apWiData) (within : snapshot.mxFrame ≤ log.length)
    (used : snapshot.ignored = false) :
    Finds maps (Hit log snapshot pgno) (SQLite.walFindFrame maps apWiData snapshot pgno) := by
  rw [SQLite.walFindFrame]
  by_cases empty : snapshot.mxFrame = 0
  · rw [if_pos (Or.inl empty)]
    exact Or.inr ⟨rfl, Or.inr ⟨rfl, fun g hit => by have := hit.1; have := hit.2.2.1; omega⟩⟩
  · rw [if_neg (by simp [empty, used])]
    have reaches := (iZero_walFramePage_lt (Nat.pos_of_ne_zero empty)).trans_le within
    refine (indexes.searchPages within reaches).imp_right (And.imp_right fun known => known.congr fun g => ?_)
    exact ⟨And.left, fun hit => ⟨hit, hit.2.2.1.trans (le_iZero_walFramePage_succ _)⟩⟩

theorem Indexes.walFramePgno (indexes : Indexes log apWiData) {iFrame : Nat} (positive : 0 < iFrame)
    (within : iFrame ≤ log.length) : SQLite.walFramePgno apWiData iFrame = log.getD (iFrame - 1) 0 := by
  have above := iZero_walFramePage_lt positive
  have below := le_iZero_walFramePage_succ iFrame
  have whole := iZero_add_capacity (walFramePage iFrame)
  obtain ⟨rest, filled⟩ := indexes _ (above.trans_le within)
  have number : (apWiData (walFramePage iFrame)).aPgno (iFrame - 1 - iZero (walFramePage iFrame)) = log.getD
    (iFrame - 1) 0 := by
    rw [filled.numbers, getD_append_left (by rw [length_part]; omega), getD_part (by omega),
      show iZero (walFramePage iFrame) + (iFrame - 1 - iZero (walFramePage iFrame)) = iFrame - 1 by omega]
  rw [SQLite.walFramePgno]
  cases page : walFramePage iFrame with
  | zero =>
    rw [page] at number
    exact number
  | succ iHash =>
    rw [page] at number above below
    rw [iZero_succ] at number above below
    have place : (iFrame - 1 - HASHTABLE_NPAGE_ONE) % HASHTABLE_NPAGE =
        iFrame - 1 - (HASHTABLE_NPAGE_ONE + iHash * HASHTABLE_NPAGE) := by
      rw [show HASHTABLE_NPAGE_ONE = 4062 from rfl, show HASHTABLE_NPAGE = 4096 from rfl] at *
      omega
    rw [if_neg (Nat.succ_ne_zero iHash), place]
    exact number

theorem Indexes.walFindLinear (indexes : Indexes log apWiData) (within : snapshot.mxFrame ≤ log.length) :
    Greatest (Hit log snapshot pgno) (SQLite.walFindLinear apWiData snapshot.minFrame pgno snapshot.mxFrame) := by
  obtain ⟨mxFrame, minFrame, ignored⟩ := snapshot
  induction mxFrame with
  | zero => exact Or.inr ⟨rfl, fun g hit => absurd (Nat.le_zero.mp hit.2.2.1) hit.1.ne'⟩
  | succ iTest ih =>
    rw [SQLite.walFindLinear, indexes.walFramePgno (Nat.succ_pos iTest) within]
    by_cases low : iTest + 1 < minFrame
    · rw [if_pos low]
      refine Or.inr ⟨rfl, fun g hit => ?_⟩
      exact absurd (hit.2.1.trans hit.2.2.1) (not_le.mpr low)
    · rw [if_neg low]
      by_cases here : log.getD (iTest + 1 - 1) 0 = pgno
      · rw [if_pos here]
        exact Or.inl ⟨⟨Nat.succ_pos iTest, not_lt.mp low, le_rfl, here⟩, fun g hit => hit.2.2.1⟩
      · rw [if_neg here]
        refine (ih ((Nat.le_succ iTest).trans within)).congr fun g => ?_
        refine ⟨fun hit => ⟨hit.1, hit.2.1, hit.2.2.1.trans (Nat.le_succ iTest), hit.2.2.2⟩, fun hit => ?_⟩
        refine ⟨hit.1, hit.2.1, Nat.le_of_lt_succ (lt_of_le_of_ne hit.2.2.1 ?_), hit.2.2.2⟩
        rintro rfl
        exact here hit.2.2.2

end Logs

section Appending

variable {D : Type} {log : List Nat} {pWal : Wal D} {maps : Nat → Nat} {iPage : Nat}

theorem part_of_walFramePage (log : List Nat) :
    (part log (walFramePage log.length)).length = log.length - iZero (walFramePage log.length) := by
  have whole := iZero_add_capacity (walFramePage log.length)
  have below := le_iZero_walFramePage_succ log.length
  rw [length_part]
  omega

/-- The page of the index that has the last frame of a log has no others after it. -/
def Tidy (log : List Nat) (apWiData : Nat → WalIndexPage) : Prop :=
  log ≠ [] → Filled (capacity (walFramePage log.length)) (part log (walFramePage log.length))
    (apWiData (walFramePage log.length))

theorem tidy_append (log : List Nat) (iPage : Nat) (apWiData : Nat → WalIndexPage)
    (filled : Filled (capacity (walFramePage (log.length + 1))) (part (log ++ [iPage]) (walFramePage (log.length + 1)))
      (apWiData (walFramePage (log.length + 1)))) : Tidy (log ++ [iPage]) apWiData := by
  intro _
  rw [List.length_append, List.length_singleton]
  exact filled

/-- Only the index differs. -/
def SameBut (pWal pWal' : Wal D) : Prop := pWal' = { pWal with apWiData := pWal'.apWiData }

theorem SameBut.trans {pWal pWal' pWal'' : Wal D} (first : SameBut pWal pWal') (second : SameBut pWal' pWal'') :
    SameBut pWal pWal'' := by
  rw [SameBut, first] at second
  exact second

theorem walCleanupHash_same (pWal : Wal D) : SameBut pWal (walCleanupHash pWal) := by
  rw [walCleanupHash]
  split <;> rfl

theorem preparePage_same (pWal : Wal D) (iHash idx : Nat) : SameBut pWal (preparePage pWal iHash idx) := by
  rw [preparePage]
  split <;> split
  · exact walCleanupHash_same _
  · rfl
  · exact walCleanupHash_same _
  · rfl

theorem Indexes.clean (indexes : Indexes log pWal.apWiData) (length : pWal.hdr.mxFrame = log.length) :
    Indexes log (walCleanupHash pWal).apWiData ∧ Tidy log (walCleanupHash pWal).apWiData := by
  rw [walCleanupHash]
  by_cases empty : pWal.hdr.mxFrame = 0
  · rw [if_pos empty]
    have nothing : log = [] := List.length_eq_zero_iff.mp (length ▸ empty)
    exact ⟨indexes, fun some_frames => absurd nothing some_frames⟩
  · rw [if_neg empty, length]
    have reaches := iZero_walFramePage_lt (Nat.pos_of_ne_zero (length ▸ empty))
    obtain ⟨rest, filled⟩ := indexes _ reaches
    have cleaned := filled.clean
    rw [part_of_walFramePage] at cleaned
    dsimp only
    refine ⟨fun iHash less => ?_, fun _ => ?_⟩
    · by_cases here : iHash = walFramePage log.length
      · subst here
        refine ⟨[], ?_⟩
        rw [List.append_nil, Function.update_self]
        exact cleaned
      · obtain ⟨rest, filled⟩ := indexes iHash less
        refine ⟨rest, ?_⟩
        rw [Function.update_of_ne here]
        exact filled
    · rw [Function.update_self]
      exact cleaned

theorem Indexes.preparePage (indexes : Indexes log pWal.apWiData)
    (tidy : pWal.hdr.mxFrame = log.length ∨ Tidy log pWal.apWiData) :
    (∀ iHash, iZero iHash < log.length → ∃ rest, Filled (capacity iHash) (part log iHash ++ rest)
        ((SQLite.preparePage pWal (walFramePage (log.length + 1))
          (log.length + 1 - iZero (walFramePage (log.length + 1)))).apWiData
          iHash)) ∧
      Filled (capacity (walFramePage (log.length + 1))) (part log (walFramePage (log.length + 1)))
        ((SQLite.preparePage pWal (walFramePage (log.length + 1))
          (log.length + 1 - iZero (walFramePage (log.length + 1)))).apWiData (walFramePage (log.length + 1))) := by
  have above := iZero_walFramePage_lt (Nat.succ_pos log.length)
  have below := le_iZero_walFramePage_succ (log.length + 1)
  generalize walFramePage (log.length + 1) = page at *
  rw [SQLite.preparePage]
  by_cases first : log.length + 1 - iZero page = 1
  · have nothing : part log page = [] := by
      refine List.length_eq_zero_iff.mp ?_
      rw [length_part]
      omega
    have number : (Function.update pWal.apWiData page WalIndexPage.zero page).aPgno
      (log.length + 1 - iZero page - 1) = 0 := by
      rw [Function.update_self]
      rfl
    rw [if_pos first]
    simp only [number, ne_eq, not_true_eq_false, if_false]
    refine ⟨fun iHash less => ?_, ?_⟩
    · obtain ⟨rest, filled⟩ := indexes iHash less
      refine ⟨rest, (Function.update_of_ne ?_ _ pWal.apWiData).symm ▸ filled⟩
      rintro rfl
      omega
    · rw [Function.update_self, nothing]
      exact filled_zero
  · rw [if_neg first]
    have reaches : iZero page < log.length := by omega
    have whole := iZero_add_capacity page
    obtain ⟨rest, filled⟩ := indexes page reaches
    have same : walFramePage log.length = page := walFramePage_unique reaches (by omega)
    have some_frames : log ≠ [] := by
      rintro rfl
      exact absurd reaches (Nat.not_lt_zero _)
    have next : (part log page).length = log.length + 1 - iZero page - 1 := by
      rw [length_part]
      omega
    by_cases left : (pWal.apWiData page).aPgno (log.length + 1 - iZero page - 1) ≠ 0
    · rw [if_pos left]
      have length : pWal.hdr.mxFrame = log.length := by
        refine tidy.resolve_right fun tidy => left ?_
        have filled := tidy some_frames
        rw [same] at filled
        rw [filled.numbers, ← next, List.getD_eq_default _ _ le_rfl]
      obtain ⟨cleaned, tidied⟩ := indexes.clean length
      exact ⟨cleaned, same ▸ tidied some_frames⟩
    · rw [if_neg left]
      refine ⟨indexes, ?_⟩
      rw [filled.numbers, ← next, List.getD_append_right _ _ _ _ le_rfl, Nat.sub_self, not_not] at left
      cases rest with
      | nil => rwa [List.append_nil] at filled
      | cons iPage rest =>
        exact absurd (filled.proper iPage (List.mem_append_right _ (List.mem_cons_self ..))) (not_not_intro left)

theorem Indexes.walIndexAppend (indexes : Indexes log pWal.apWiData)
    (tidy : pWal.hdr.mxFrame = log.length ∨ Tidy log pWal.apWiData) (proper : iPage ≠ 0)
    (mapped : maps (walFramePage (log.length + 1)) = SQLITE_OK) :
    ∃ pWal', SQLite.walIndexAppend maps pWal (log.length + 1) iPage = (SQLITE_OK, pWal') ∧ SameBut pWal pWal' ∧
      Indexes (log ++ [iPage]) pWal'.apWiData ∧ Tidy (log ++ [iPage]) pWal'.apWiData := by
  have above : iZero (walFramePage (log.length + 1)) ≤ log.length :=
    Nat.le_of_lt_succ (iZero_walFramePage_lt (Nat.succ_pos log.length))
  have below : log.length < iZero (walFramePage (log.length + 1) + 1) := le_iZero_walFramePage_succ (log.length + 1)
  obtain ⟨others, filled⟩ := indexes.preparePage tidy
  have tidied := tidy_append log iPage
  rw [SQLite.walIndexAppend, if_neg (not_not_intro mapped)]
  dsimp only
  generalize walFramePage (log.length + 1) = page at *
  have whole := iZero_add_capacity page
  have next : (part log page).length = log.length + 1 - iZero page - 1 := by
    rw [length_part]
    omega
  have same := preparePage_same pWal page (log.length + 1 - iZero page)
  generalize SQLite.preparePage pWal page (log.length + 1 - iZero page) = pWal' at *
  obtain ⟨iKey, free, appended⟩ := filled.append (capacity_le page) (by rw [length_part]; omega) proper
  rw [← part_append above below, next] at appended
  rw [next] at free
  rw [show log.length + 1 - iZero page - 1 + 1 = log.length + 1 - iZero page by omega] at free appended
  rw [free]
  refine ⟨_, rfl, same.trans rfl, fun iHash less => ?_, tidied _ ?_⟩
  · rw [List.length_append, List.length_singleton] at less
    dsimp only
    by_cases here : iHash = page
    · subst here
      refine ⟨[], ?_⟩
      rw [List.append_nil, Function.update_self]
      exact appended
    · have earlier : iHash < page := by
        by_contra later
        have beyond : iZero (page + 1) ≤ iZero iHash := iZero_mono (lt_of_le_of_ne (not_lt.mp later) (Ne.symm here))
        omega
      have full : iZero (iHash + 1) ≤ log.length := (iZero_mono earlier).trans above
      have room := capacity_pos iHash
      obtain ⟨rest, filled⟩ := others iHash (by have := iZero_add_capacity iHash; omega)
      refine ⟨rest, ?_⟩
      rw [part_append_of_le full, Function.update_of_ne here]
      exact filled
  · dsimp only
    rw [Function.update_self]
    exact appended

/-- Frames are put into the index one after another, until a page of it is not mapped. -/
theorem Indexes.appendFrames (indexes : Indexes log pWal.apWiData) (maps : Nat → Nat)
    (tidy : pWal.hdr.mxFrame = log.length ∨ Tidy log pWal.apWiData) {appended : List (Nat × D)}
    (proper : ∀ p ∈ appended, p.1 ≠ 0) :
    ∃ rc pWal', SQLite.appendFrames maps pWal log.length appended = (rc, pWal') ∧ SameBut pWal pWal' ∧
      Indexes log pWal'.apWiData ∧
      ((rc = SQLITE_OK ∧ Indexes (log ++ appended.map Prod.fst) pWal'.apWiData) ∨
        ∃ iHash, maps iHash ≠ SQLITE_OK ∧ rc = maps iHash) := by
  induction appended generalizing log pWal with
  | nil =>
    refine ⟨_, _, rfl, rfl, indexes, Or.inl ⟨rfl, ?_⟩⟩
    rwa [List.map_nil, List.append_nil]
  | cons p appended ih =>
    rw [SQLite.appendFrames]
    by_cases mapped : maps (walFramePage (log.length + 1)) = SQLITE_OK
    · obtain ⟨pWal', put, same, longer, tidied⟩ :=
        indexes.walIndexAppend tidy (proper p (List.mem_cons_self ..)) mapped
      rw [put]
      have length : (log ++ [p.1]).length = log.length + 1 := by simp
      obtain ⟨rc, pWal'', rest, same', further, outcome⟩ :=
        ih longer (Or.inr tidied) fun other member => proper other (List.mem_cons_of_mem p member)
      rw [length] at rest
      refine ⟨rc, pWal'', by simpa using rest, same.trans same', ?_, ?_⟩
      · have shorter := further.take log.length
        rwa [List.take_left'] at shorter
        rfl
      · rwa [List.append_assoc] at outcome
    · rw [SQLite.walIndexAppend, if_pos mapped]
      refine ⟨_, _, if_pos mapped, rfl, indexes, Or.inr ⟨_, mapped, rfl⟩⟩

end Appending

end SignalPods.SQLite
