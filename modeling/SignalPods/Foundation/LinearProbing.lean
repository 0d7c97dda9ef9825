import Mathlib.Data.Fintype.Card
import Mathlib.Data.List.FinRange
import Mathlib.Data.Nat.ModEq

namespace SignalPods.Foundation

section Slots

variable {n : Nat} {h t : Fin n}

/-- The slot so many after another, with the first after the last. -/
def forward (h : Fin n) (d : Nat) : Fin n := ⟨(h.val + d) % n, Nat.mod_lt _ (Nat.zero_lt_of_lt h.isLt)⟩

theorem forward_zero : forward h 0 = h := Fin.ext (Nat.mod_eq_of_lt h.isLt)

theorem forward_forward (d e : Nat) : forward (forward h d) e = forward h (d + e) := by
  refine Fin.ext ?_
  calc ((h.val + d) % n + e) % n = (h.val + d + e) % n := Nat.mod_add_mod ..
    _ = (h.val + (d + e)) % n := by rw [Nat.add_assoc]

theorem exists_forward (h t : Fin n) : ∃ d < n, forward h d = t := by
  have inside := t.isLt
  by_cases later : h.val ≤ t.val
  · refine ⟨t.val - h.val, by omega, Fin.ext ?_⟩
    show (h.val + (t.val - h.val)) % n = t.val
    rw [Nat.add_sub_cancel' later, Nat.mod_eq_of_lt inside]
  · refine ⟨t.val + n - h.val, by omega, Fin.ext ?_⟩
    show (h.val + (t.val + n - h.val)) % n = t.val
    have around : h.val + (t.val + n - h.val) = t.val + n := by omega
    rw [around, Nat.add_mod_right, Nat.mod_eq_of_lt inside]

theorem forward_inj {d e : Nat} (dLess : d < n) (eLess : e < n) (same : forward h d = forward h e) : d = e := by
  have congruent : h.val + d ≡ h.val + e [MOD n] := congrArg Fin.val same
  have cancelled : d % n = e % n := Nat.ModEq.add_left_cancel' h.val congruent
  rwa [Nat.mod_eq_of_lt dLess, Nat.mod_eq_of_lt eLess] at cancelled

end Slots

section Placing

variable {n : Nat} {K : Type*} (vacant : K) (home : K → Fin n)

/-- Each key stands once, and no slot between its home and its own is vacant. -/
structure Placed (table : Fin n → K) : Prop where
  distinct : ∀ s t, table s = table t → table s ≠ vacant → s = t
  reached : ∀ t, table t ≠ vacant →
    ∃ d < n, forward (home (table t)) d = t ∧ ∀ e < d, table (forward (home (table t)) e) ≠ vacant

variable {vacant home} {table : Fin n → K} {key other : K} {t : Fin n}

/-- The empty table. -/
theorem placed_vacant : Placed vacant home fun _ => vacant :=
  ⟨fun _ _ _ proper => absurd rfl proper, fun _ proper => absurd rfl proper⟩

theorem Placed.update (placed : Placed vacant home table) (absent : ∀ s, table s ≠ key) {d : Nat}
    (less : d < n) (free : table (forward (home key) d) = vacant)
    (passes : ∀ e < d, table (forward (home key) e) ≠ vacant) :
    Placed vacant home (Function.update table (forward (home key) d) key) := by
  have still (s : Fin n) (taken : table s ≠ vacant) : Function.update table (forward (home key) d) key s = table s := by
    refine Function.update_of_ne ?_ key table
    rintro rfl
    exact taken free
  have taken (s : Fin n) (before : table s ≠ vacant) :
      Function.update table (forward (home key) d) key s ≠ vacant := by
    rwa [still s before]
  refine ⟨fun s t same proper' => ?_, fun t proper' => ?_⟩
  · by_cases sHere : s = forward (home key) d
    · by_cases tHere : t = forward (home key) d
      · rw [sHere, tHere]
      · rw [sHere, Function.update_self, Function.update_of_ne tHere] at same
        exact absurd same.symm (absent t)
    · by_cases tHere : t = forward (home key) d
      · rw [tHere, Function.update_self, Function.update_of_ne sHere] at same
        exact absurd same (absent s)
      · rw [Function.update_of_ne sHere] at same proper'
        rw [Function.update_of_ne tHere] at same
        exact placed.distinct s t same proper'
  · by_cases here : t = forward (home key) d
    · rw [here, Function.update_self]
      exact ⟨d, less, rfl, fun e before => taken _ (passes e before)⟩
    · rw [Function.update_of_ne here] at proper' ⊢
      obtain ⟨e, inside, reaches, path⟩ := placed.reached t proper'
      exact ⟨e, inside, reaches, fun f before => taken _ (path f before)⟩

theorem exists_update (free : table t = vacant) (proper : other ≠ vacant) :
    (∃ s, Function.update table t key s = other) ↔ other = key ∨ ∃ s, table s = other := by
  constructor
  · rintro ⟨s, held⟩
    by_cases here : s = t
    · rw [here, Function.update_self] at held
      exact Or.inl held.symm
    · rw [Function.update_of_ne here] at held
      exact Or.inr ⟨s, held⟩
  · rintro (rfl | ⟨s, held⟩)
    · exact ⟨t, Function.update_self ..⟩
    · refine ⟨s, ?_⟩
      rw [Function.update_of_ne ?_, held]
      rintro rfl
      exact proper (held.symm.trans free)

end Placing

section Probing

variable {n : Nat} {K : Type*} [DecidableEq K] (vacant : K) (home : K → Fin n)

/-- The first slot from one on that is vacant or holds the key. -/
def probe (key : K) (table : Fin n → K) : Nat → Fin n → Option (Fin n)
  | 0, _ => none
  | fuel + 1, h => if table h = vacant ∨ table h = key then some h else probe key table fuel (forward h 1)

/-- A key is put into the first vacant slot from its home on. -/
def place (table : Fin n → K) (key : K) : Option (Fin n → K) :=
  (probe vacant vacant table n (home key)).map fun t => Function.update table t key

/-- What a table holds, slot after slot. -/
def entries (table : Fin n → K) : List K := (List.ofFn table).filter (· ≠ vacant)

variable {vacant home} {table : Fin n → K} {key other : K} {h t : Fin n}

theorem probe_eq_some {d fuel : Nat} (less : d < fuel)
    (stops : table (forward h d) = vacant ∨ table (forward h d) = key)
    (passes : ∀ e < d, ¬ (table (forward h e) = vacant ∨ table (forward h e) = key)) :
    probe vacant key table fuel h = some (forward h d) := by
  induction d generalizing h fuel with
  | zero =>
    obtain ⟨fuel, rfl⟩ := Nat.exists_eq_succ_of_ne_zero (Nat.ne_of_gt less)
    rw [forward_zero] at stops ⊢
    exact if_pos stops
  | succ d ih =>
    obtain ⟨fuel, rfl⟩ := Nat.exists_eq_succ_of_ne_zero (Nat.ne_of_gt (Nat.zero_lt_of_lt less))
    have first := passes 0 (Nat.succ_pos d)
    rw [forward_zero] at first
    have next : forward (forward h 1) d = forward h (d + 1) := by rw [forward_forward, Nat.add_comm]
    rw [probe, if_neg first, ← next]
    refine ih (by omega) (by rw [next]; exact stops) fun e less => ?_
    rw [forward_forward, Nat.add_comm]
    exact passes (e + 1) (by omega)

theorem probe_held (placed : Placed vacant home table) (proper : key ≠ vacant) (held : table t = key) :
    probe vacant key table n (home key) = some t := by
  obtain ⟨d, less, here, passes⟩ := placed.reached t (held ▸ proper)
  rw [held] at here passes
  have found : probe vacant key table n (home key) = some (forward (home key) d) := by
    refine probe_eq_some less (Or.inr (here ▸ held)) fun e earlier => ?_
    rintro (free | twice)
    · exact passes e earlier free
    · have same : forward (home key) e = forward (home key) d := by
        rw [here]
        exact placed.distinct _ _ (twice.trans held.symm) (by rw [twice]; exact proper)
      have equal := forward_inj (by omega) less same
      omega
  rwa [here] at found

/-- A search for what is not in the table ends at the first vacant slot. -/
theorem probe_absent (free : ∃ s, table s = vacant) (absent : ∀ s, table s = key → key = vacant) (h : Fin n) :
    ∃ d < n, probe vacant key table n h = some (forward h d) ∧ table (forward h d) = vacant ∧
      ∀ e < d, table (forward h e) ≠ vacant := by
  obtain ⟨s, free⟩ := free
  obtain ⟨far, within, rfl⟩ := exists_forward h s
  have exists_free : ∃ d, table (forward h d) = vacant := ⟨far, free⟩
  have first := Nat.find_spec exists_free
  have earlier : ∀ e < Nat.find exists_free, table (forward h e) ≠ vacant := fun e less => Nat.find_min exists_free less
  have less : Nat.find exists_free < n := (Nat.find_min' exists_free free).trans_lt within
  refine ⟨Nat.find exists_free, less, probe_eq_some less (Or.inl first) ?_, first, earlier⟩
  rintro e before (free | same)
  · exact earlier e before free
  · exact earlier e before (same.trans (absent _ same))

theorem mem_entries : key ∈ entries vacant table ↔ key ≠ vacant ∧ ∃ t, table t = key := by
  unfold entries
  rw [List.mem_filter, List.mem_ofFn, decide_eq_true_eq, and_comm]

theorem Placed.nodup_entries (placed : Placed vacant home table) : (entries vacant table).Nodup := by
  have pairs : (List.ofFn table).Pairwise fun a b => a = b → a = vacant := by
    rw [List.pairwise_ofFn]
    intro s t earlier same
    by_contra proper
    exact absurd (placed.distinct s t same proper) (Fin.ne_of_lt earlier)
  refine (pairs.filter _).imp_of_mem ?_
  intro a b member _ equal same
  exact (mem_entries.mp member).1 (equal same)

theorem length_entries : (entries vacant table).length = (Finset.univ.filter fun t => table t ≠ vacant).card := by
  unfold entries
  rw [List.ofFn_eq_map, List.filter_map, List.length_map]
  rfl

theorem length_entries_le : (entries vacant table).length ≤ n :=
  (List.length_filter_le ..).trans_eq List.length_ofFn

/-- A key put into a vacant slot is one more entry. -/
theorem length_entries_update (free : table t = vacant) (proper : key ≠ vacant) :
    (entries vacant (Function.update table t key)).length = (entries vacant table).length + 1 := by
  have split : (Finset.univ.filter fun s => Function.update table t key s ≠ vacant) =
      insert t (Finset.univ.filter fun s => table s ≠ vacant) := by
    ext s
    by_cases here : s = t
    · simp [here, proper]
    · simp [here]
  rw [length_entries, length_entries, split, Finset.card_insert_of_notMem (by simp [free])]

theorem exists_vacant (room : (entries vacant table).length < n) : ∃ s, table s = vacant := by
  by_contra full
  rw [not_exists] at full
  have all : entries vacant table = List.ofFn table := by
    refine List.filter_eq_self.mpr fun key member => ?_
    obtain ⟨s, rfl⟩ := List.mem_ofFn.mp member
    exact decide_eq_true (full s)
  rw [all, List.length_ofFn] at room
  exact lt_irrefl n room

theorem place_of_room (placed : Placed vacant home table) (proper : key ≠ vacant) (absent : ∀ s, table s ≠ key)
    (room : (entries vacant table).length < n) :
    ∃ after, place vacant home table key = .some after ∧ Placed vacant home after ∧
      (entries vacant after).length = (entries vacant table).length + 1 ∧
      ∀ other, other ≠ vacant → ((∃ s, after s = other) ↔ other = key ∨ ∃ s, table s = other) := by
  have search : ∃ d < n, probe vacant vacant table n (home key) = .some (forward (home key) d) ∧
      table (forward (home key) d) = vacant ∧ ∀ e < d, table (forward (home key) e) ≠ vacant :=
    probe_absent (exists_vacant room) (fun _ _ => rfl) (home key)
  obtain ⟨d, less, found, free, passes⟩ := search
  refine ⟨_, by rw [place, found]; rfl, placed.update absent less free passes, length_entries_update free proper, ?_⟩
  exact fun other proper' => exists_update free proper'

/-- Distinct keys that the table has room for are all placed. -/
theorem foldlM_place {keys : List K} (placed : Placed vacant home table) (proper : ∀ key ∈ keys, key ≠ vacant)
    (absent : ∀ key ∈ keys, ∀ s, table s ≠ key) (distinct : keys.Nodup)
    (room : (entries vacant table).length + keys.length ≤ n) :
    ∃ after, keys.foldlM (place vacant home) table = .some after ∧ Placed vacant home after ∧
      (entries vacant after).length = (entries vacant table).length + keys.length ∧
      ∀ other, other ≠ vacant → ((∃ s, after s = other) ↔ other ∈ keys ∨ ∃ s, table s = other) := by
  induction keys generalizing table with
  | nil => exact ⟨table, rfl, placed, rfl, fun other _ => by simp⟩
  | cons key keys ih =>
    rw [List.length_cons] at room
    obtain ⟨fresh, distinct⟩ := List.nodup_cons.mp distinct
    obtain ⟨first, placedFirst, firstPlaced, one, holds⟩ := place_of_room placed (proper key List.mem_cons_self)
      (absent key List.mem_cons_self) (by omega)
    have later : ∀ other ∈ keys, ∀ s, first s ≠ other := by
      intro other member s held
      rcases (holds other (proper other (List.mem_cons_of_mem _ member))).mp ⟨s, held⟩ with rfl | ⟨s, held⟩
      · exact fresh member
      · exact absent other (List.mem_cons_of_mem _ member) s held
    obtain ⟨after, rest, afterPlaced, all, holdsAll⟩ := ih firstPlaced
      (fun other member => proper other (List.mem_cons_of_mem _ member)) later distinct (by omega)
    refine ⟨after, ?_, afterPlaced, by rw [all, one, List.length_cons]; omega, fun other proper' => ?_⟩
    · rw [List.foldlM_cons, placedFirst]
      exact rest
    · rw [holdsAll other proper', holds other proper', List.mem_cons]
      tauto

end Probing

end SignalPods.Foundation
