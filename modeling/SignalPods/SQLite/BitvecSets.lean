import Mathlib.Algebra.BigOperators.Fin
import SignalPods.SQLite.Bitvec

namespace SignalPods.SQLite

open Foundation

namespace Bitvec

/-- The bits of a bitmap, by their indices. -/
def Contains : Bitvec → Nat → Prop
  | null, _ => False
  | bitmap _ aBitmap, i =>
    ∃ inside : i / BITVEC_SZELEM < BITVEC_NELEM,
      (aBitmap ⟨i / BITVEC_SZELEM, inside⟩).getLsbD (i % BITVEC_SZELEM) = true
  | hash _ _ aHash, i => ∃ h, aHash h = i + 1
  | split _ iDivisor apSub, i =>
    ∃ inside : i / iDivisor < BITVEC_NPTR, Contains (apSub ⟨i / iDivisor, inside⟩) (i % iDivisor)

/-- Each representation is for its sizes, a hash table has a vacant slot and holds
each of its numbers where a search finds it, and what is redirected to has the size
of the divisor. -/
def Valid : Bitvec → Prop
  | null => True
  | bitmap iSize _ => iSize ≤ BITVEC_NBIT
  | hash iSize nSet aHash => BITVEC_NBIT < iSize ∧ nSet = (entries 0 aHash).length ∧ nSet < BITVEC_NINT ∧
      Placed 0 (fun value => BITVEC_HASH (value - 1)) aHash ∧ ∀ h, aHash h ≤ iSize
  | split iSize iDivisor apSub => BITVEC_NBIT < iSize ∧ iDivisor = (iSize + BITVEC_NPTR - 1) / BITVEC_NPTR ∧
      ∀ bin, Valid (apSub bin) ∧ (apSub bin = null ∨ sqlite3BitvecSize (apSub bin) = iDivisor)

/-- How many bitmaps a bitmap is made of. -/
def blocks : Bitvec → Nat
  | null => 0
  | split _ _ apSub => 1 + ∑ bin, blocks (apSub bin)
  | _ => 1

section Arithmetic

theorem divided {iSize iDivisor i : Nat} (large : BITVEC_NBIT < iSize)
    (divisor : iDivisor = (iSize + BITVEC_NPTR - 1) / BITVEC_NPTR) (inside : i < iSize) :
    0 < iDivisor ∧ iDivisor < iSize ∧ i / iDivisor < BITVEC_NPTR ∧ i % iDivisor < iDivisor := by
  have sizes : BITVEC_NBIT = 3968 ∧ BITVEC_NPTR = 62 := by decide
  rw [sizes.1] at large
  rw [sizes.2] at divisor ⊢
  have positive : 0 < iDivisor := by omega
  refine ⟨positive, by omega, ?_, Nat.mod_lt _ positive⟩
  rw [Nat.div_lt_iff_lt_mul positive]
  omega

theorem element_inside {iSize i : Nat} (small : iSize ≤ BITVEC_NBIT) (inside : i < iSize) :
    i / BITVEC_SZELEM < BITVEC_NELEM := by
  have sizes : BITVEC_NBIT = 3968 ∧ BITVEC_SZELEM = 8 ∧ BITVEC_NELEM = 496 := by decide
  rw [sizes.1] at small
  rw [sizes.2.1, sizes.2.2]
  omega

/-- An index is known by where it is redirected to. -/
theorem index_eq_iff {d i j : Nat} : i / d = j / d ∧ i % d = j % d ↔ i = j := by
  constructor
  · rintro ⟨quotient, rest⟩
    rw [← Nat.div_add_mod i d, ← Nat.div_add_mod j d, quotient, rest]
  · rintro rfl
    exact ⟨rfl, rfl⟩

theorem mask_eq (i : Nat) : mask i = BitVec.twoPow BITVEC_SZELEM (i % BITVEC_SZELEM) := (BitVec.twoPow_eq ..).symm

theorem rest_lt (i : Nat) : i % BITVEC_SZELEM < BITVEC_SZELEM := Nat.mod_lt _ (by decide)

theorem getLsbD_mask (i j : Nat) :
    (mask i).getLsbD (j % BITVEC_SZELEM) = decide (i % BITVEC_SZELEM = j % BITVEC_SZELEM) := by
  rw [mask_eq, BitVec.getLsbD_twoPow, decide_eq_true (rest_lt i), Bool.true_and]

theorem and_mask_ne_zero (x : BitVec BITVEC_SZELEM) (i : Nat) :
    (x &&& mask i) != 0 ↔ x.getLsbD (i % BITVEC_SZELEM) = true := by
  rw [mask_eq, BitVec.and_twoPow]
  by_cases set : x.getLsbD (i % BITVEC_SZELEM) = true
  · have some : BitVec.twoPow BITVEC_SZELEM (i % BITVEC_SZELEM) ≠ 0 := by
      intro none
      have bit := congrArg (fun y : BitVec BITVEC_SZELEM => y.getLsbD (i % BITVEC_SZELEM)) none
      simp [rest_lt i] at bit
    rw [if_pos set]
    exact iff_of_true (bne_iff_ne.mpr some) set
  · rw [if_neg set]
    exact iff_of_false (by simp) set

end Arithmetic

section Creation

variable {memory : Memory} {iSize : Nat}

theorem valid_zeroed (iSize : Nat) : Valid (zeroed iSize) := by
  unfold zeroed
  split
  · assumption
  · rename_i large
    refine ⟨by omega, ?_, by decide, placed_vacant, fun h => Nat.zero_le _⟩
    symm
    exact List.length_eq_zero_iff.mpr (List.filter_eq_nil_iff.mpr fun value member => by simp_all)

theorem not_contains_zeroed (iSize i : Nat) : ¬ Contains (zeroed iSize) i := by
  unfold zeroed
  split
  · rintro ⟨_, set⟩
    simp at set
  · rintro ⟨_, same⟩
    exact absurd same.symm (Nat.succ_ne_zero i)

theorem size_zeroed (iSize : Nat) : sqlite3BitvecSize (zeroed iSize) = iSize := by
  unfold zeroed
  split <;> rfl

theorem zeroed_ne_null (iSize : Nat) : zeroed iSize ≠ null := by
  unfold zeroed
  split <;> exact Bitvec.noConfusion

theorem blocks_zeroed (iSize : Nat) : blocks (zeroed iSize) = 1 := by
  unfold zeroed
  split <;> rfl

end Creation

/-- A test tells whether the bit is set. -/
theorem testIndex_spec {p : Bitvec} {i : Nat} (valid : Valid p) (inside : i < sqlite3BitvecSize p) :
    ∃ answer, testIndex p i = some answer ∧ (answer = true ↔ Contains p i) := by
  induction p generalizing i with
  | null => exact absurd inside (Nat.not_lt_zero i)
  | bitmap iSize aBitmap =>
    have element := element_inside valid inside
    refine ⟨_, dif_pos element, ?_⟩
    rw [and_mask_ne_zero]
    exact ⟨fun set => ⟨element, set⟩, fun ⟨_, set⟩ => set⟩
  | hash iSize nSet aHash =>
    obtain ⟨_, count, room, placed, _⟩ := valid
    by_cases held : ∃ h, aHash h = i + 1
    · obtain ⟨h, held⟩ := held
      have found : search aHash i = some h := probe_held placed (Nat.succ_ne_zero i) held
      refine ⟨true, ?_, iff_of_true rfl ⟨h, held⟩⟩
      rw [testIndex, found, Option.map_some, held, beq_self_eq_true]
    · have free := exists_vacant (count ▸ room)
      obtain ⟨d, _, found, vacant, _⟩ := probe_absent free (fun h same => absurd ⟨h, same⟩ held) (BITVEC_HASH i)
      have ended : search aHash i = some (forward (BITVEC_HASH i) d) := found
      refine ⟨false, ?_, iff_of_false Bool.false_ne_true held⟩
      rw [testIndex, ended, Option.map_some, vacant]
      rfl
  | split iSize iDivisor apSub ih =>
    obtain ⟨large, divisor, subs⟩ := valid
    obtain ⟨_, _, bin, rest⟩ := divided large divisor inside
    obtain ⟨sub, size⟩ := subs ⟨i / iDivisor, bin⟩
    have step : testIndex (split iSize iDivisor apSub) i = testIndex (apSub ⟨i / iDivisor, bin⟩) (i % iDivisor) :=
      dif_pos bin
    have same : Contains (split iSize iDivisor apSub) i ↔ Contains (apSub ⟨i / iDivisor, bin⟩) (i % iDivisor) :=
      ⟨fun ⟨_, set⟩ => set, fun set => ⟨bin, set⟩⟩
    rw [step, same]
    rcases size with absent | size
    · rw [absent]
      exact ⟨false, rfl, iff_of_false Bool.false_ne_true id⟩
    · exact ih _ sub (by rw [size]; exact rest)

section Setting

variable {memory : Memory} {p : Bitvec}

/-- How much fuel the setting of a bit needs. -/
def cost (p : Bitvec) : Nat :=
  2 * sqlite3BitvecSize p + match p with
    | split _ _ _ => 1
    | _ => 2

/-- What may come of setting some bits: no other bit is set, and all of these are if
it is said so, as it is whenever the allocator grants all that is asked for. -/
structure SetsBits (memory : Memory) (p : Bitvec) (indices : List Nat) (rc : Nat) (after : Memory)
    (q : Bitvec) : Prop where
  valid : Valid q
  created : q ≠ null
  size : sqlite3BitvecSize q = sqlite3BitvecSize p
  cost : cost q ≤ cost p
  only : ∀ j, Contains q j → Contains p j ∨ j ∈ indices
  all : rc = SQLITE_OK → ∀ j, Contains p j ∨ j ∈ indices → Contains q j
  grants : after.grants = memory.grants
  granted : (∀ n, memory.grants n = true) → rc = SQLITE_OK
  counted : after.live + blocks p = memory.live + blocks q

/-- Nothing was allocated and the bits are set. -/
theorem SetsBits.done {indices : List Nat} {q : Bitvec} (valid : Valid q) (created : q ≠ null)
    (size : sqlite3BitvecSize q = sqlite3BitvecSize p) (cost : Bitvec.cost q ≤ Bitvec.cost p)
      (blocks : blocks q = blocks p)
    (bits : ∀ j, Contains q j ↔ Contains p j ∨ j ∈ indices) : SetsBits memory p indices SQLITE_OK memory q where
  valid := valid
  created := created
  size := size
  cost := cost
  only j := (bits j).mp
  all _ j := (bits j).mpr
  grants := rfl
  granted _ := rfl
  counted := by rw [blocks]

/-- The allocator refused, and nothing is set. -/
theorem SetsBits.refused {indices : List Nat} {after : Memory} (valid : Valid p) (created : p ≠ null)
    (grants : after.grants = memory.grants) (live : after.live = memory.live) (short : ¬ ∀ n, memory.grants n = true) :
    SetsBits memory p indices SQLITE_NOMEM after p where
  valid := valid
  created := created
  size := rfl
  cost := Nat.le_refl _
  only _ := Or.inl
  all ok := absurd ok (by decide)
  grants := grants
  granted plenty := absurd plenty short
  counted := by rw [live]

theorem SetsBits.append {first last : List Nat} {rc failed : Nat} {middle after : Memory} {q r : Bitvec}
    (before : SetsBits memory p first rc middle q) (next : SetsBits middle q last failed after r) :
    SetsBits memory p (first ++ last) (rc ||| failed) after r where
  valid := next.valid
  created := next.created
  size := next.size.trans before.size
  cost := next.cost.trans before.cost
  only j set := by
    rw [List.mem_append, ← or_assoc]
    exact (next.only j set).imp_left (before.only j)
  all ok j set := by
    obtain ⟨okBefore, okNext⟩ := Nat.or_eq_zero_iff.mp ok
    rw [List.mem_append, ← or_assoc] at set
    exact next.all okNext j (set.imp_left (before.all okBefore j))
  grants := next.grants.trans before.grants
  granted plenty := by
    rw [before.granted plenty, next.granted (before.grants ▸ plenty)]
    rfl
  counted := by
    have one := before.counted
    have two := next.counted
    omega

theorem setEach_spec {set : Memory → Bitvec → Nat → Option (Nat × Memory × Bitvec)} {bound : Nat}
    (sets : ∀ memory p i, cost p ≤ bound → Valid p → p ≠ null → i < sqlite3BitvecSize p →
      ∃ rc after q, set memory p i = some (rc, after, q) ∧ SetsBits memory p [i] rc after q)
    {indices : List Nat} (enough : cost p ≤ bound) (valid : Valid p) (created : p ≠ null)
    (inside : ∀ i ∈ indices, i < sqlite3BitvecSize p) :
    ∃ rc after q, setEach set memory p indices = some (rc, after, q) ∧ SetsBits memory p indices rc after q := by
  induction indices using List.reverseRecOn with
  | nil => exact ⟨_, _, _, rfl, .done valid created rfl (Nat.le_refl _) rfl fun j => by simp⟩
  | append_singleton indices i ih =>
    obtain ⟨rc, middle, q, run, before⟩ := ih fun j member => inside j (List.mem_append_left _ member)
    obtain ⟨failed, after, r, last, next⟩ := sets middle q i (before.cost.trans enough) before.valid before.created
      (by rw [before.size]; exact inside i (by simp))
    refine ⟨rc ||| failed, after, r, ?_, before.append next⟩
    unfold setEach at run ⊢
    rw [List.foldlM_append, run]
    simp [last]

theorem contains_hash_iff {iSize nSet i : Nat} {aHash : Fin BITVEC_NINT → Nat} :
    Contains (hash iSize nSet aHash) i ↔ i ∈ (entries 0 aHash).map (· - 1) := by
  rw [List.mem_map]
  constructor
  · intro held
    exact ⟨i + 1, mem_entries.mpr ⟨Nat.succ_ne_zero i, held⟩, rfl⟩
  · rintro ⟨value, listed, rfl⟩
    obtain ⟨positive, h, held⟩ := mem_entries.mp listed
    exact ⟨h, by omega⟩

theorem sum_blocks_update (apSub : Fin BITVEC_NPTR → Bitvec) (bin : Fin BITVEC_NPTR) (sub : Bitvec) :
    ∑ b, blocks (Function.update apSub bin sub b) + blocks (apSub bin) = ∑ b, blocks (apSub b) + blocks sub := by
  have each : (fun b => blocks (Function.update apSub bin sub b)) =
      Function.update (fun b => blocks (apSub b)) bin (blocks sub) := by
    funext b
    exact Function.apply_update (fun _ => blocks) apSub bin sub b
  have whole := Finset.add_sum_erase Finset.univ (fun b => blocks (apSub b)) (Finset.mem_univ bin)
  rw [each, Finset.sum_update_of_mem (Finset.mem_univ bin), Finset.sdiff_singleton_eq_erase, ← whole]
  omega

theorem contains_update_iff {iSize d i j : Nat} {apSub : Fin BITVEC_NPTR → Bitvec} {sub : Bitvec}
    (bin : i / d < BITVEC_NPTR) :
    Contains (split iSize d (Function.update apSub ⟨i / d, bin⟩ sub)) j ↔
      if j / d = i / d then Contains sub (j % d) else Contains (split iSize d apSub) j := by
  by_cases same : j / d = i / d
  · have here (inside : j / d < BITVEC_NPTR) : (⟨j / d, inside⟩ : Fin BITVEC_NPTR) = ⟨i / d, bin⟩ := Fin.ext same
    rw [if_pos same]
    constructor
    · rintro ⟨inside, set⟩
      rwa [here inside, Function.update_self] at set
    · intro set
      refine ⟨same ▸ bin, ?_⟩
      rwa [here, Function.update_self]
  · have elsewhere (inside : j / d < BITVEC_NPTR) :
        Function.update apSub ⟨i / d, bin⟩ sub ⟨j / d, inside⟩ = apSub ⟨j / d, inside⟩ :=
      Function.update_of_ne (fun equal => same (congrArg Fin.val equal)) _ _
    rw [if_neg same]
    constructor
    · rintro ⟨inside, set⟩
      rw [elsewhere inside] at set
      exact ⟨inside, set⟩
    · rintro ⟨inside, set⟩
      refine ⟨inside, ?_⟩
      rwa [elsewhere inside]

theorem contains_bitmap_iff {iSize i j : Nat} {aBitmap : Fin BITVEC_NELEM → BitVec BITVEC_SZELEM}
    {x : BitVec BITVEC_SZELEM} (element : i / BITVEC_SZELEM < BITVEC_NELEM) :
    Contains (bitmap iSize (Function.update aBitmap ⟨i / BITVEC_SZELEM, element⟩ x)) j ↔
      if j / BITVEC_SZELEM = i / BITVEC_SZELEM then x.getLsbD (j % BITVEC_SZELEM) = true
      else Contains (bitmap iSize aBitmap) j := by
  by_cases same : j / BITVEC_SZELEM = i / BITVEC_SZELEM
  · have here (inside : j / BITVEC_SZELEM < BITVEC_NELEM) :
        (⟨j / BITVEC_SZELEM, inside⟩ : Fin BITVEC_NELEM) = ⟨i / BITVEC_SZELEM, element⟩ := Fin.ext same
    rw [if_pos same]
    constructor
    · rintro ⟨inside, set⟩
      rwa [here inside, Function.update_self] at set
    · intro set
      refine ⟨same ▸ element, ?_⟩
      rwa [here, Function.update_self]
  · have elsewhere (inside : j / BITVEC_SZELEM < BITVEC_NELEM) :
        Function.update aBitmap ⟨i / BITVEC_SZELEM, element⟩ x ⟨j / BITVEC_SZELEM, inside⟩ =
          aBitmap ⟨j / BITVEC_SZELEM, inside⟩ :=
      Function.update_of_ne (fun equal => same (congrArg Fin.val equal)) _ _
    rw [if_neg same]
    constructor
    · rintro ⟨inside, set⟩
      rw [elsewhere inside] at set
      exact ⟨inside, set⟩
    · rintro ⟨inside, set⟩
      refine ⟨inside, ?_⟩
      rwa [elsewhere inside]

/-- In the element of an index its other bits are those of the element. -/
theorem contains_element_iff {iSize i j : Nat} {aBitmap : Fin BITVEC_NELEM → BitVec BITVEC_SZELEM}
    (element : i / BITVEC_SZELEM < BITVEC_NELEM) (same : j / BITVEC_SZELEM = i / BITVEC_SZELEM) :
    Contains (bitmap iSize aBitmap) j ↔ (aBitmap ⟨i / BITVEC_SZELEM, element⟩).getLsbD (j % BITVEC_SZELEM) = true := by
  have unchanged : Contains (bitmap iSize (Function.update aBitmap ⟨i / BITVEC_SZELEM, element⟩
      (aBitmap ⟨i / BITVEC_SZELEM, element⟩))) j ↔ if j / BITVEC_SZELEM = i / BITVEC_SZELEM then
        (aBitmap ⟨i / BITVEC_SZELEM, element⟩).getLsbD (j % BITVEC_SZELEM) = true
      else Contains (bitmap iSize aBitmap) j := contains_bitmap_iff element
  rwa [Function.update_eq_self, if_pos same] at unchanged

theorem contains_sub_iff {iSize d i j : Nat} {apSub : Fin BITVEC_NPTR → Bitvec} (bin : i / d < BITVEC_NPTR)
    (near : j / d = i / d) :
    Contains (split iSize d apSub) j ↔ Contains (apSub ⟨i / d, bin⟩) (j % d) := by
  have unchanged : Contains (split iSize d (Function.update apSub ⟨i / d, bin⟩ (apSub ⟨i / d, bin⟩))) j ↔
    if j / d = i / d then Contains (apSub ⟨i / d, bin⟩) (j % d) else Contains (split iSize d apSub) j :=
    contains_update_iff bin
  rwa [Function.update_eq_self, if_pos near] at unchanged

theorem setIndex_bitmap {iSize i fuel : Nat} {aBitmap : Fin BITVEC_NELEM → BitVec BITVEC_SZELEM}
    (valid : Valid (bitmap iSize aBitmap)) (inside : i < iSize) :
    ∃ rc after q, setIndex (fuel + 1) memory (bitmap iSize aBitmap) i = some (rc, after, q) ∧
      SetsBits memory (bitmap iSize aBitmap) [i] rc after q := by
  have element := element_inside valid inside
  refine ⟨_, _, _, dif_pos element, ?_⟩
  have bits (j : Nat) : Contains (bitmap iSize (Function.update aBitmap ⟨i / BITVEC_SZELEM, element⟩
      (aBitmap ⟨i / BITVEC_SZELEM, element⟩ ||| mask i))) j ↔ Contains (bitmap iSize aBitmap) j ∨ j = i := by
    rw [contains_bitmap_iff element]
    by_cases same : j / BITVEC_SZELEM = i / BITVEC_SZELEM
    · have equal : i % BITVEC_SZELEM = j % BITVEC_SZELEM ↔ j = i :=
        ⟨fun rest => index_eq_iff.mp ⟨same, rest.symm⟩, fun equal => by rw [equal]⟩
      rw [if_pos same, BitVec.getLsbD_or, Bool.or_eq_true, getLsbD_mask, decide_eq_true_eq, equal,
        contains_element_iff element same]
    · have different : j ≠ i := fun equal => same (by rw [equal])
      rw [if_neg same, or_iff_left different]
  exact .done valid Bitvec.noConfusion rfl (Nat.le_refl _) rfl fun j => by rw [bits j, List.mem_singleton]

/-- A table that is divided is set again bit by bit, and holds what it held. -/
theorem setEach_divided (middle : Memory) {iSize nSet i fuel : Nat} {aHash : Fin BITVEC_NINT → Nat}
    (sets : ∀ memory p i, cost p ≤ fuel → Valid p → p ≠ null → i < sqlite3BitvecSize p →
      ∃ rc after q, setIndex fuel memory p i = some (rc, after, q) ∧ SetsBits memory p [i] rc after q)
    (enough : cost (hash iSize nSet aHash) ≤ fuel + 1) (valid : Valid (hash iSize nSet aHash)) (inside : i < iSize)
    (grants : middle.grants = memory.grants) (live : middle.live = memory.live) :
    ∃ rc after q, setEach (setIndex fuel) middle (split iSize ((iSize + BITVEC_NPTR - 1) / BITVEC_NPTR) fun _ => null)
        (i :: (entries 0 aHash).map (· - 1)) = some (rc, after, q) ∧
      SetsBits memory (hash iSize nSet aHash) [i] rc after q := by
  obtain ⟨large, _, _, _, bounded⟩ := valid
  have empty : Valid (split iSize ((iSize + BITVEC_NPTR - 1) / BITVEC_NPTR) fun _ => null) :=
    ⟨large, rfl, fun _ => ⟨trivial, Or.inl rfl⟩⟩
  have smaller : cost (split iSize ((iSize + BITVEC_NPTR - 1) / BITVEC_NPTR) fun _ => null) ≤ fuel :=
    Nat.le_of_succ_le_succ enough
  have indices : ∀ j ∈ i :: (entries 0 aHash).map (· - 1), j < iSize := by
    intro j listed
    rcases List.mem_cons.mp listed with rfl | listed
    · exact inside
    · obtain ⟨value, member, rfl⟩ := List.mem_map.mp listed
      obtain ⟨positive, h, rfl⟩ := mem_entries.mp member
      have bound := bounded h
      omega
  obtain ⟨rc, after, q, run, again⟩ := setEach_spec sets smaller empty Bitvec.noConfusion indices
  have none (j : Nat) : ¬ Contains (split iSize ((iSize + BITVEC_NPTR - 1) / BITVEC_NPTR) fun _ => null) j :=
    fun ⟨_, set⟩ => set
  refine ⟨rc, after, q, run, again.valid, again.created, again.size, again.cost.trans (Nat.le_succ _), fun j set => ?_,
    fun ok j set => again.all ok j (Or.inr ?_), again.grants.trans grants,
      fun plenty => again.granted (grants ▸ plenty), ?_⟩
  · rcases List.mem_cons.mp ((again.only j set).resolve_left (none j)) with rfl | listed
    · exact Or.inr List.mem_cons_self
    · exact Or.inl (contains_hash_iff.mpr listed)
  · rcases set with held | listed
    · exact List.mem_cons_of_mem _ (contains_hash_iff.mp held)
    · rw [List.mem_singleton.mp listed]
      exact List.mem_cons_self
  · have counted := again.counted
    have one : blocks (split iSize ((iSize + BITVEC_NPTR - 1) / BITVEC_NPTR) fun _ => null) = 1 := by simp [blocks]
    have hashed : blocks (hash iSize nSet aHash) = 1 := rfl
    omega

theorem setIndex_hash {iSize nSet i fuel : Nat} {aHash : Fin BITVEC_NINT → Nat}
    (sets : ∀ memory p i, cost p ≤ fuel → Valid p → p ≠ null → i < sqlite3BitvecSize p →
      ∃ rc after q, setIndex fuel memory p i = some (rc, after, q) ∧ SetsBits memory p [i] rc after q)
    (enough : cost (hash iSize nSet aHash) ≤ fuel + 1) (valid : Valid (hash iSize nSet aHash)) (inside : i < iSize) :
    ∃ rc after q, setIndex (fuel + 1) memory (hash iSize nSet aHash) i = some (rc, after, q) ∧
      SetsBits memory (hash iSize nSet aHash) [i] rc after q := by
  obtain ⟨large, count, room, placed, bounded⟩ := id valid
  by_cases held : Contains (hash iSize nSet aHash) i
  · obtain ⟨h, here⟩ := id held
    have found : search aHash i = some h := probe_held placed (Nat.succ_ne_zero i) here
    refine ⟨SQLITE_OK, memory, hash iSize nSet aHash, ?_, ?_⟩
    · rw [setIndex, found]
      exact if_pos here
    · refine .done valid Bitvec.noConfusion rfl (Nat.le_refl _) rfl fun j => ?_
      rw [List.mem_singleton]
      exact ⟨Or.inl, fun set => set.elim id fun same => same ▸ held⟩
  have absent : ∀ h, aHash h ≠ i + 1 := fun h same => held ⟨h, same⟩
  obtain ⟨d, less, ended, vacant, passes⟩ := probe_absent (exists_vacant (count ▸ room))
    (fun h same => absurd same (absent h))
    (BITVEC_HASH i)
  have found : search aHash i = some (forward (BITVEC_HASH i) d) := ended
  rw [setIndex, found]
  dsimp only [bind, Option.bind]
  rw [if_neg (absent _)]
  by_cases fits : forward (BITVEC_HASH i) d = BITVEC_HASH i ∧ nSet < BITVEC_NINT - 1 ∨ nSet < BITVEC_MXHASH
  · refine ⟨_, _, _, if_pos fits, ?_⟩
    have sizes : BITVEC_NINT = 124 ∧ BITVEC_MXHASH = 62 := by decide
    refine .done ⟨large, ?_, by omega, placed.update absent less vacant passes, fun h => ?_⟩ Bitvec.noConfusion rfl
      (Nat.le_refl _) rfl fun j => ?_
    · rw [length_entries_update vacant (Nat.succ_ne_zero i), count]
    · by_cases here : h = forward (BITVEC_HASH i) d
      · rw [here, Function.update_self]
        exact inside
      · rw [Function.update_of_ne here]
        exact bounded h
    · have one : (∃ h, Function.update aHash (forward (BITVEC_HASH i) d) (i + 1) h = j + 1) ↔
          j + 1 = i + 1 ∨ ∃ h, aHash h = j + 1 := exists_update vacant (Nat.succ_ne_zero j)
      rw [List.mem_singleton, ← Nat.add_right_cancel_iff (n := 1), or_comm]
      exact one
  · rw [if_neg fits]
    cases granted : memory.grants memory.asked with
    | false =>
      refine ⟨SQLITE_NOMEM, { memory with asked := memory.asked + 1 }, hash iSize nSet aHash, ?_, ?_⟩
      · simp [Memory.request, granted]
      · refine .refused valid Bitvec.noConfusion rfl rfl fun plenty => ?_
        rw [plenty] at granted
        cases granted
    | true =>
      have asked : Memory.grants { memory with asked := memory.asked + 1 } = memory.grants := rfl
      obtain ⟨rc, after, q, run, again⟩ := setEach_divided { memory with asked := memory.asked + 1 } sets enough
        valid inside asked rfl
      refine ⟨rc, after, q, ?_, again⟩
      simpa [Memory.request, granted] using run

/-- What a bit is redirected to, whether it was there or is created. -/
theorem subBitmap_cases (memory : Memory) {d : Nat} {sub : Bitvec} (valid : Valid sub)
    (size : sub = null ∨ sqlite3BitvecSize sub = d) :
    (∃ after, subBitmap memory d sub = (after, null) ∧ after.grants = memory.grants ∧ after.live = memory.live ∧
      ¬ ∀ n, memory.grants n = true) ∨
    ∃ after q, subBitmap memory d sub = (after, q) ∧ q ≠ null ∧ Valid q ∧ sqlite3BitvecSize q = d ∧
      (∀ j, Contains q j ↔ Contains sub j) ∧ after.grants = memory.grants ∧
      after.live + blocks sub = memory.live + blocks q := by
  cases sub with
  | null =>
    cases granted : memory.grants memory.asked with
    | false =>
      refine Or.inl ⟨{ memory with asked := memory.asked + 1 }, ?_, rfl, rfl, fun plenty => ?_⟩
      · simp [subBitmap, sqlite3BitvecCreate, Memory.allocate, Memory.request, granted]
      · rw [plenty] at granted
        cases granted
    | true =>
      refine Or.inr ⟨{ memory with asked := memory.asked + 1, live := memory.live + 1 }, zeroed d, ?_, zeroed_ne_null d,
        valid_zeroed d, size_zeroed d, fun j => iff_of_false (not_contains_zeroed d j) id, rfl, ?_⟩
      · simp [subBitmap, sqlite3BitvecCreate, Memory.allocate, Memory.request, granted]
      · rw [blocks_zeroed]
        rfl
  | _ =>
    exact Or.inr ⟨memory, _, rfl, Bitvec.noConfusion, valid, size.resolve_left Bitvec.noConfusion, fun _ => Iff.rfl,
      rfl, rfl⟩

theorem setIndex_split {iSize d i fuel : Nat} {apSub : Fin BITVEC_NPTR → Bitvec}
    (sets : ∀ memory p i, cost p ≤ fuel → Valid p → p ≠ null → i < sqlite3BitvecSize p →
      ∃ rc after q, setIndex fuel memory p i = some (rc, after, q) ∧ SetsBits memory p [i] rc after q)
    (enough : cost (split iSize d apSub) ≤ fuel + 1) (valid : Valid (split iSize d apSub)) (inside : i < iSize) :
    ∃ rc after q, setIndex (fuel + 1) memory (split iSize d apSub) i = some (rc, after, q) ∧
      SetsBits memory (split iSize d apSub) [i] rc after q := by
  obtain ⟨large, divisor, subs⟩ := id valid
  obtain ⟨_, smaller, bin, rest⟩ := divided large divisor inside
  obtain ⟨subValid, size⟩ := subs ⟨i / d, bin⟩
  rw [setIndex, dif_pos bin]
  rcases subBitmap_cases memory subValid size with ⟨after, asked, grants, live, short⟩ |
    ⟨middle, sub, there, created, valid', size', same, grants, live⟩
  · rw [asked]
    exact ⟨_, _, _, rfl, .refused valid Bitvec.noConfusion grants live short⟩
  · have affordable : cost sub ≤ fuel := by
      have bound : cost sub ≤ 2 * sqlite3BitvecSize sub + 2 := by
        unfold cost
        split <;> omega
      have whole : cost (split iSize d apSub) = 2 * iSize + 1 := rfl
      omega
    obtain ⟨rc, after, q, run, step⟩ := sets middle sub (i % d) affordable valid' created (size' ▸ rest)
    refine ⟨rc, after, split iSize d (Function.update apSub ⟨i / d, bin⟩ q), ?_, ?_⟩
    · rw [there]
      cases sub with
      | null => exact absurd rfl created
      | _ =>
        dsimp only
        rw [run]
        rfl
    · have rests (j : Nat) (near : j / d = i / d) : j % d = i % d ↔ j = i :=
        ⟨fun rest => index_eq_iff.mp ⟨near, rest⟩, fun equal => by rw [equal]⟩
      refine ⟨⟨large, divisor, fun b => ?_⟩, Bitvec.noConfusion, rfl, Nat.le_refl _, fun j set => ?_,
        fun ok j set => ?_, step.grants.trans grants, fun plenty => step.granted (grants ▸ plenty), ?_⟩
      · by_cases here : b = ⟨i / d, bin⟩
        · rw [here, Function.update_self]
          exact ⟨step.valid, Or.inr (step.size.trans size')⟩
        · rw [Function.update_of_ne here]
          exact subs b
      · rw [contains_update_iff] at set
        by_cases near : j / d = i / d
        · rw [if_pos near] at set
          rw [contains_sub_iff bin near, ← same, List.mem_singleton, ← rests j near, ← List.mem_singleton]
          exact step.only _ set
        · rw [if_neg near] at set
          exact Or.inl set
      · rw [contains_update_iff]
        by_cases near : j / d = i / d
        · rw [contains_sub_iff bin near, ← same, List.mem_singleton, ← rests j near, ← List.mem_singleton] at set
          rw [if_pos near]
          exact step.all ok _ set
        · rw [if_neg near]
          refine set.resolve_right fun listed => near ?_
          rw [List.mem_singleton.mp listed]
      · have counted := step.counted
        have sums := sum_blocks_update apSub ⟨i / d, bin⟩ q
        unfold blocks
        omega

/-- With fuel enough a bit is set, unless it is said that memory was short. -/
theorem setIndex_spec (fuel : Nat) (memory : Memory) (p : Bitvec) (i : Nat) (enough : cost p ≤ fuel) (valid : Valid p)
    (created : p ≠ null) (inside : i < sqlite3BitvecSize p) :
    ∃ rc after q, setIndex fuel memory p i = some (rc, after, q) ∧ SetsBits memory p [i] rc after q := by
  induction fuel generalizing memory p i with
  | zero =>
    cases p with
    | null => exact absurd rfl created
    | _ => simp [cost] at enough
  | succ fuel ih =>
    cases p with
    | null => exact absurd rfl created
    | bitmap iSize aBitmap => exact setIndex_bitmap valid inside
    | hash iSize nSet aHash => exact setIndex_hash ih enough valid inside
    | split iSize d apSub => exact setIndex_split ih enough valid inside

end Setting

section Clearing

/-- What comes of clearing a bit: it alone is cleared, and nothing is allocated or freed. -/
structure ClearsBit (p : Bitvec) (i : Nat) (q : Bitvec) : Prop where
  valid : Valid q
  size : sqlite3BitvecSize q = sqlite3BitvecSize p
  null : q = null ↔ p = null
  bits : ∀ j, Contains q j ↔ Contains p j ∧ j ≠ i
  blocks : blocks q = blocks p

theorem clearIndex_hash {iSize nSet : Nat} {aHash : Fin BITVEC_NINT → Nat}
    (valid : Valid (hash iSize nSet aHash)) (i : Nat) :
    ∃ q, clearIndex (hash iSize nSet aHash) i = some q ∧ ClearsBit (hash iSize nSet aHash) i q := by
  obtain ⟨large, count, room, placed, bounded⟩ := valid
  have member (value : Nat) : value ∈ (entries 0 aHash).filter (· ≠ i + 1) ↔
      (value ≠ 0 ∧ ∃ h, aHash h = value) ∧ value ≠ i + 1 := by
    rw [List.mem_filter, mem_entries, decide_eq_true_eq]
  have fewer : ((entries 0 aHash).filter (· ≠ i + 1)).length ≤ (entries 0 aHash).length := List.length_filter_le ..
  have none : (entries 0 fun _ : Fin BITVEC_NINT => 0).length = 0 := by
    rw [length_entries, Finset.filter_false_of_mem fun _ _ => not_not_intro rfl, Finset.card_empty]
  have vacant : Placed 0 (fun value => BITVEC_HASH (value - 1)) fun _ : Fin BITVEC_NINT => 0 := placed_vacant
  obtain ⟨after, run, afterPlaced, length, holds⟩ := foldlM_place vacant
    (fun value listed => ((member value).mp listed).1.1)
    (fun value listed _ same => ((member value).mp listed).1.1 same.symm) (placed.nodup_entries.filter _)
    (by rw [none, Nat.zero_add]; exact fewer.trans length_entries_le)
  rw [none, Nat.zero_add] at length
  have held (value : Nat) (positive : value ≠ 0) : (∃ h, after h = value) ↔ (∃ h, aHash h = value) ∧ value ≠ i + 1 := by
    rw [holds value positive, member value, or_iff_left fun ⟨_, same⟩ => positive same.symm, and_iff_right positive]
  refine ⟨hash iSize ((entries 0 aHash).filter (· ≠ i + 1)).length after, ?_,
    ⟨large, length.symm, fewer.trans_lt (count ▸ room), afterPlaced, fun h => ?_⟩, rfl,
    iff_of_false Bitvec.noConfusion Bitvec.noConfusion, fun j => ?_, rfl⟩
  · rw [clearIndex, run]
    rfl
  · by_cases zero : after h = 0
    · rw [zero]
      exact Nat.zero_le _
    · obtain ⟨⟨h', same⟩, _⟩ := (held _ zero).mp ⟨h, rfl⟩
      rw [← same]
      exact bounded h'
  · have step := held (j + 1) (Nat.succ_ne_zero j)
    rw [Ne, Nat.add_right_cancel_iff] at step
    exact step

/-- A bit is cleared. -/
theorem clearIndex_spec {p : Bitvec} {i : Nat} (valid : Valid p) (inside : p = null ∨ i < sqlite3BitvecSize p) :
    ∃ q, clearIndex p i = some q ∧ ClearsBit p i q := by
  induction p generalizing i with
  | null => exact ⟨null, rfl, trivial, rfl, Iff.rfl, fun j => ⟨False.elim, And.left⟩, rfl⟩
  | bitmap iSize aBitmap =>
    have element := element_inside valid (inside.resolve_left Bitvec.noConfusion)
    refine ⟨_, dif_pos element, valid, rfl, iff_of_false Bitvec.noConfusion Bitvec.noConfusion, fun j => ?_, rfl⟩
    rw [contains_bitmap_iff element]
    by_cases same : j / BITVEC_SZELEM = i / BITVEC_SZELEM
    · have equal : i % BITVEC_SZELEM = j % BITVEC_SZELEM ↔ j = i :=
        ⟨fun rest => index_eq_iff.mp ⟨same, rest.symm⟩, fun equal => by rw [equal]⟩
      rw [if_pos same, BitVec.getLsbD_and, BitVec.getLsbD_not, Bool.and_eq_true, Bool.and_eq_true, decide_eq_true_eq,
        and_iff_right (rest_lt j), getLsbD_mask, Bool.not_eq_true', decide_eq_false_iff_not, equal,
        contains_element_iff element same]
    · have different : j ≠ i := fun equal => same (by rw [equal])
      rw [if_neg same, and_iff_left different]
  | hash iSize nSet aHash => exact clearIndex_hash valid i
  | split iSize d apSub ih =>
    obtain ⟨large, divisor, subs⟩ := id valid
    obtain ⟨_, _, bin, rest⟩ := divided large divisor (inside.resolve_left Bitvec.noConfusion)
    obtain ⟨subValid, size⟩ := subs ⟨i / d, bin⟩
    obtain ⟨q, run, step⟩ := ih ⟨i / d, bin⟩ (i := i % d) subValid (size.imp_right fun same => by rw [same]; exact rest)
    refine ⟨split iSize d (Function.update apSub ⟨i / d, bin⟩ q), ?_, ⟨large, divisor, fun b => ?_⟩, rfl,
      iff_of_false Bitvec.noConfusion Bitvec.noConfusion, fun j => ?_, ?_⟩
    · rw [clearIndex, dif_pos bin, run]
      rfl
    · by_cases here : b = ⟨i / d, bin⟩
      · rw [here, Function.update_self]
        exact ⟨step.valid, size.imp step.null.mpr step.size.trans⟩
      · rw [Function.update_of_ne here]
        exact subs b
    · rw [contains_update_iff]
      by_cases near : j / d = i / d
      · have equal : j % d = i % d ↔ j = i := ⟨fun rest => index_eq_iff.mp ⟨near, rest⟩, fun equal => by rw [equal]⟩
        rw [if_pos near, contains_sub_iff bin near, step.bits, Ne, equal]
      · have different : j ≠ i := fun equal => near (by rw [equal])
        rw [if_neg near, and_iff_left different]
    · have sums := sum_blocks_update apSub ⟨i / d, bin⟩ q
      rw [step.blocks] at sums
      unfold blocks
      omega

end Clearing

/-- All that a bitmap is made of is freed. -/
theorem sqlite3BitvecDestroy_eq (memory : Memory) (p : Bitvec) :
    sqlite3BitvecDestroy memory p = memory.free (blocks p) := by
  induction p generalizing memory with
  | split iSize d apSub ih =>
    have each (bins : List (Fin BITVEC_NPTR)) (memory : Memory) :
        bins.foldl (fun memory bin => sqlite3BitvecDestroy memory (apSub bin)) memory =
          memory.free (bins.map fun bin => blocks (apSub bin)).sum := by
      induction bins generalizing memory with
      | nil => rfl
      | cons bin bins next =>
        rw [List.foldl_cons, ih, next, List.map_cons, List.sum_cons]
        simp [Memory.free, Nat.sub_sub]
    unfold sqlite3BitvecDestroy blocks
    rw [each, Fin.sum_univ_def]
    simp [Memory.free, Nat.sub_sub, Nat.add_comm]
  | _ => rfl

section Runs

inductive Call
  | set (i : Nat)
  | clear (i : Nat)

def Call.InRange (iSize : Nat) : Call → Prop
  | set i => 0 < i ∧ i ≤ iSize
  | clear i => 0 < i ∧ i ≤ iSize

instance (iSize : Nat) (call : Call) : Decidable (call.InRange iSize) := by
  cases call <;> exact inferInstanceAs (Decidable (_ ∧ _))

/-- A call on the linear array that the bitmap is compared with. -/
def Call.onArray (array : Nat → Bool) : Call → Nat → Bool
  | set i => Function.update array i true
  | clear i => Function.update array i false

/-- A call on a bitmap, its result joined to those before it. -/
def Call.perform : Nat × Memory × Bitvec → Call → Option (Nat × Memory × Bitvec)
  | (rc, memory, p), set i => do
    let (failed, memory, p) ← sqlite3BitvecSet memory p i
    return (rc ||| failed, memory, p)
  | (rc, memory, p), clear i => do
    let p ← sqlite3BitvecClear p i
    return (rc, memory, p)

/-- The bitmap has no bit that the array has not, and all that it has unless memory was short. -/
structure Mirrors (iSize : Nat) (array : Nat → Bool) (rc : Nat) (p : Bitvec) : Prop where
  valid : Valid p
  created : p ≠ null
  size : sqlite3BitvecSize p = iSize
  inside : ∀ i, array i = true → 0 < i ∧ i ≤ iSize
  only : ∀ j, Contains p j → array (j + 1) = true
  all : rc = SQLITE_OK → ∀ j, array (j + 1) = true → Contains p j

variable {iSize rc : Nat} {array : Nat → Bool} {p : Bitvec}

/-- A call keeps the bitmap like the array, and counts what it allocates. -/
theorem Mirrors.perform (mirrors : Mirrors iSize array rc p) (memory : Memory) {call : Call}
    (inRange : call.InRange iSize) :
    ∃ rc' after q, call.perform (rc, memory, p) = some (rc', after, q) ∧ Mirrors iSize (call.onArray array) rc' q ∧
      after.grants = memory.grants ∧ ((∀ n, memory.grants n = true) → rc = SQLITE_OK → rc' = SQLITE_OK) ∧
      after.live + blocks p = memory.live + blocks q := by
  obtain ⟨valid, created, size, inside, only, all⟩ := mirrors
  have bound (i : Nat) (value : Bool) (range : 0 < i ∧ i ≤ iSize) (j : Nat)
      (set : Function.update array i value j = true) : 0 < j ∧ j ≤ iSize := by
    by_cases here : j = i
    · exact here ▸ range
    · exact inside j (by rwa [Function.update_of_ne here] at set)
  cases call with
  | set i =>
    obtain ⟨positive, most⟩ := id inRange
    have enough : cost p ≤ 2 * sqlite3BitvecSize p + 2 := by
      unfold cost
      split <;> omega
    obtain ⟨failed, after, q, run, sets⟩ := setIndex_spec _ memory p (i - 1) enough valid created (by omega)
    have index (j : Nat) : j = i - 1 ↔ j + 1 = i := by omega
    refine ⟨rc ||| failed, after, q, ?_,
      ⟨sets.valid, sets.created, sets.size.trans size, bound i true inRange, fun j set => ?_,
      fun ok j set => ?_⟩, sets.grants, fun plenty ok => ?_, sets.counted⟩
    · rw [Call.perform, sqlite3BitvecSet, run]
      rfl
    · rcases sets.only j set with before | listed
      · by_cases here : j + 1 = i
        · rw [Call.onArray, here, Function.update_self]
        · rw [Call.onArray, Function.update_of_ne here]
          exact only j before
      · rw [Call.onArray, (index j).mp (List.mem_singleton.mp listed), Function.update_self]
    · obtain ⟨okBefore, okNow⟩ := Nat.or_eq_zero_iff.mp ok
      refine sets.all okNow j ?_
      by_cases here : j + 1 = i
      · exact Or.inr (List.mem_singleton.mpr ((index j).mpr here))
      · rw [Call.onArray, Function.update_of_ne here] at set
        exact Or.inl (all okBefore j set)
    · rw [ok, sets.granted plenty]
      rfl
  | clear i =>
    obtain ⟨positive, most⟩ := id inRange
    obtain ⟨q, run, clears⟩ := clearIndex_spec (i := i - 1) valid (Or.inr (by omega))
    have index (j : Nat) : j = i - 1 ↔ j + 1 = i := by omega
    refine ⟨rc, memory, q, ?_, ⟨clears.valid, fun none => created (clears.null.mp none), clears.size.trans size,
      bound i false inRange, fun j set => ?_, fun ok j set => ?_⟩, rfl, fun _ ok => ok, by rw [clears.blocks]⟩
    · rw [Call.perform, sqlite3BitvecClear, run]
      rfl
    · obtain ⟨before, other⟩ := (clears.bits j).mp set
      rw [Ne, index] at other
      rw [Call.onArray, Function.update_of_ne other]
      exact only j before
    · by_cases here : j + 1 = i
      · rw [Call.onArray, here, Function.update_self] at set
        cases set
      · rw [Call.onArray, Function.update_of_ne here] at set
        exact (clears.bits j).mpr ⟨all ok j set, fun same => here ((index j).mp same)⟩

theorem Mirrors.run (mirrors : Mirrors iSize array rc p) (memory : Memory) {calls : List Call}
    (inRange : ∀ call ∈ calls, call.InRange iSize) :
    ∃ rc' after q, calls.foldlM Call.perform (rc, memory, p) = some (rc', after, q) ∧
      Mirrors iSize (calls.foldl Call.onArray array) rc' q ∧
      ((∀ n, memory.grants n = true) → rc = SQLITE_OK → rc' = SQLITE_OK) ∧
      after.live + blocks p = memory.live + blocks q := by
  induction calls generalizing rc array memory p with
  | nil => exact ⟨rc, memory, p, rfl, mirrors, fun _ => id, rfl⟩
  | cons call calls ih =>
    obtain ⟨rc₁, middle, q, first, mirrors', grants, okFirst, counted⟩ :=
      mirrors.perform memory (inRange call List.mem_cons_self)
    obtain ⟨rc₂, after, r, rest, mirrors'', okRest, counted'⟩ := ih mirrors' middle fun call member =>
      inRange call (List.mem_cons_of_mem _ member)
    refine ⟨rc₂, after, r, ?_, mirrors'', fun plenty ok => okRest (grants ▸ plenty) (okFirst plenty ok), by omega⟩
    rw [List.foldlM_cons, first]
    exact rest

/-- What a test tells of a bitmap that is like an array, for any number. -/
theorem Mirrors.test (mirrors : Mirrors iSize array rc p) {i : Nat} (word : i < 2 ^ 32) (sized : iSize < 2 ^ 32) :
    ∃ answer, sqlite3BitvecTest p i = some answer ∧ (answer = true → array i = true) ∧
      (rc = SQLITE_OK → answer = array i) := by
  obtain ⟨valid, created, size, inside, only, all⟩ := mirrors
  have asked : sqlite3BitvecTest p i = sqlite3BitvecTestNotNull p i := by
    cases p with
    | null => exact absurd rfl created
    | _ => rfl
  rw [asked, sqlite3BitvecTestNotNull, size]
  by_cases beyond : iSize ≤ (i + (2 ^ 32 - 1)) % 2 ^ 32
  · have unset : array i = false := by
      by_contra set
      obtain ⟨positive, most⟩ := inside i (by simpa using set)
      omega
    rw [if_pos beyond]
    exact ⟨false, rfl, fun set => absurd set Bool.false_ne_true, fun _ => unset.symm⟩
  · have index : (i + (2 ^ 32 - 1)) % 2 ^ 32 + 1 = i := by omega
    rw [if_neg beyond]
    obtain ⟨answer, tested, tells⟩ := testIndex_spec valid (i := (i + (2 ^ 32 - 1)) % 2 ^ 32) (by omega)
    have contained : Contains p ((i + (2 ^ 32 - 1)) % 2 ^ 32) → array i = true := fun set => index ▸ only _ set
    refine ⟨answer, tested, fun set => contained (tells.mp set), fun ok => ?_⟩
    rw [Bool.eq_iff_iff, tells]
    exact ⟨contained, fun set => all ok _ (by rw [index]; exact set)⟩

theorem mirrors_zeroed (iSize rc : Nat) : Mirrors iSize (fun _ => false) rc (zeroed iSize) where
  valid := valid_zeroed iSize
  created := zeroed_ne_null iSize
  size := size_zeroed iSize
  inside _ set := absurd set Bool.false_ne_true
  only j set := absurd set (not_contains_zeroed iSize j)
  all _ _ set := absurd set Bool.false_ne_true

/-- Whatever bits of a new bitmap are set and cleared, and whatever the allocator
refuses: no test finds a bit that a linear array would not have, each finds what
the array has if no call failed, none fails if nothing is refused, and in the end
all is freed that was allocated. -/
theorem bitvec_agrees_with_array (memory : Memory) (granted : memory.grants memory.asked = true)
    (sized : iSize < 2 ^ 32)
    {calls : List Call} (inRange : ∀ call ∈ calls, call.InRange iSize) :
    ∃ rc after q, calls.foldlM Call.perform (SQLITE_OK, sqlite3BitvecCreate memory iSize) = some (rc, after, q) ∧
      (∀ i, i < 2 ^ 32 → ∃ answer, sqlite3BitvecTest q i = some answer ∧
        (answer = true → calls.foldl Call.onArray (fun _ => false) i = true) ∧
        (rc = SQLITE_OK → answer = calls.foldl Call.onArray (fun _ => false) i)) ∧
      ((∀ n, memory.grants n = true) → rc = SQLITE_OK) ∧ (sqlite3BitvecDestroy after q).live = memory.live := by
  have created : sqlite3BitvecCreate memory iSize =
      ({ memory with asked := memory.asked + 1, live := memory.live + 1 }, zeroed iSize) := by
    simp [sqlite3BitvecCreate, Memory.allocate, Memory.request, granted]
  have start : Mirrors iSize (fun _ => false) SQLITE_OK (zeroed iSize) := mirrors_zeroed iSize SQLITE_OK
  obtain ⟨rc, after, q, run, mirrors, ok, counted⟩ :=
    start.run { memory with asked := memory.asked + 1, live := memory.live + 1 } inRange
  refine ⟨rc, after, q, by rw [created]; exact run, fun i word => mirrors.test word sized,
    fun plenty => ok plenty rfl, ?_⟩
  rw [sqlite3BitvecDestroy_eq]
  rw [blocks_zeroed] at counted
  dsimp only [Memory.free] at counted ⊢
  omega

/-- The bits 1 to 62 fill half of the table. Then 126, which meets 1 there, divides it. -/
def dividing : List Call := (List.range 62).map (fun k => .set (k + 1)) ++ [.set 126, .clear 1]

theorem bitvec_agrees_with_array_large :
    ∃ rc after q,
      dividing.foldlM Call.perform (SQLITE_OK, sqlite3BitvecCreate Memory.plenty 5000) = some (rc, after, q) ∧
      (∀ i, i < 2 ^ 32 → ∃ answer, sqlite3BitvecTest q i = some answer ∧
        (answer = true → dividing.foldl Call.onArray (fun _ => false) i = true) ∧
        (rc = SQLITE_OK → answer = dividing.foldl Call.onArray (fun _ => false) i)) ∧
      ((∀ n : Nat, (fun _ : Nat => true) n = true) → rc = SQLITE_OK) ∧ (sqlite3BitvecDestroy after q).live = 0 :=
  bitvec_agrees_with_array Memory.plenty rfl (by decide) (by decide)

end Runs

end Bitvec

end SignalPods.SQLite
