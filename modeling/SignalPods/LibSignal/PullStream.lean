import Mathlib.Data.List.Range
import SignalPods.LibSignal.ColdAsyncStream

namespace SignalPods.LibSignal

variable {Item Error : Type*}

namespace Pulled

def items : Pulled Item Error → List Item
  | .returned chunk _ => chunk
  | .threw _ => []

/-- How a pull ends the stream, if it does. -/
def ending? : Pulled Item Error → Option (Option Error)
  | .returned _ termination => termination.map (·.asError)
  | .threw error => some (some error)

end Pulled

/-- What every `next()` comes to after the end. -/
def Next.ended : Option Error → Next Item Error
  | some error => .threw error
  | none => .nil

namespace AsyncIterator

variable (stream : Nat → Pulled Item Error)

/-- The items of the first `n` pulls. -/
def delivered (n : Nat) : List Item := (List.range n).flatMap fun m => (stream m).items

/-- The pull number `n` is the first that ends the stream. -/
def EndsAt (n : Nat) (error : Option Error) : Prop :=
  (∀ m < n, (stream m).ending? = none) ∧ (stream n).ending? = some error

/-- The iterator after `k` calls of `next()`. -/
def after : Nat → AsyncIterator Item Error
  | 0 => {}
  | k + 1 => ((after k).next stream).2

def result (k : Nat) : Next Item Error := ((after stream k).next stream).1

def Progresses : Prop := ∀ n chunk, stream n = .returned chunk none → chunk ≠ []

variable {stream}

theorem advance_buffered {it : AsyncIterator Item Error} {first : Item} {rest : List Item}
    (buffer : it.currentChunk = first :: rest) (closure : OnBufferEmpty) :
    it.advance stream closure = (.item first, { it with currentChunk := rest }) := by
  rw [advance.eq_def]
  simp only [buffer]

theorem advance_finished {it : AsyncIterator Item Error} {error : Option Error} (buffer : it.currentChunk = [])
    (state : it.state = .finished error) (closure : OnBufferEmpty) :
    it.advance stream closure = (Next.ended error, it) := by
  rw [advance.eq_def]
  cases error <;> simp only [buffer, state, Next.ended]

theorem advance_trapped {it : AsyncIterator Item Error} (buffer : it.currentChunk = []) (state : it.state = .active) :
    it.advance stream .preconditionFailure = (.preconditionFailure, it) := by
  rw [advance.eq_def]
  simp only [buffer, state]

theorem advance_pull {it : AsyncIterator Item Error} (buffer : it.currentChunk = []) (state : it.state = .active) :
    it.advance stream .erasedPull = (it.receive (stream it.pulls)).advance stream .preconditionFailure := by
  conv_lhs => rw [advance.eq_def]
  simp only [buffer, state]

/-- A call of `next()` takes from the buffer, repeats the end, or pulls once
and looks again. -/
theorem next_cases (stream : Nat → Pulled Item Error) (it : AsyncIterator Item Error) :
    (∃ first rest, it.currentChunk = first :: rest ∧
      it.next stream = (.item first, { it with currentChunk := rest })) ∨
    (∃ error, it.currentChunk = [] ∧ it.state = .finished error ∧ it.next stream = (Next.ended error, it)) ∨
    (it.currentChunk = [] ∧ it.state = .active ∧
      it.next stream = (it.receive (stream it.pulls)).advance stream .preconditionFailure) := by
  cases buffer : it.currentChunk with
  | cons first rest => exact Or.inl ⟨first, rest, rfl, advance_buffered buffer _⟩
  | nil =>
    cases state : it.state with
    | finished error => exact Or.inr (Or.inl ⟨error, rfl, rfl, advance_finished buffer state _⟩)
    | active => exact Or.inr (Or.inr ⟨rfl, rfl, advance_pull buffer state⟩)

theorem receive_eq {it : AsyncIterator Item Error} (buffer : it.currentChunk = []) (state : it.state = .active)
    (pulled : Pulled Item Error) : it.receive pulled =
      { state := match pulled.ending? with
          | some error => .finished error
          | none => .active
        currentChunk := pulled.items
        pulls := it.pulls + 1 } := by
  rcases pulled with ⟨chunk, none | termination⟩ | error <;>
    simp [receive, Pulled.ending?, Pulled.items, buffer, state]

/-- Looking again neither pulls nor changes what is known of the end. -/
theorem advance_preconditionFailure_kept (stream : Nat → Pulled Item Error) (it : AsyncIterator Item Error) :
    (it.advance stream .preconditionFailure).2.state = it.state ∧
      (it.advance stream .preconditionFailure).2.pulls = it.pulls := by
  cases buffer : it.currentChunk with
  | cons first rest => rw [advance_buffered buffer]; exact ⟨rfl, rfl⟩
  | nil =>
    cases state : it.state with
    | finished error => rw [advance_finished buffer state]; exact ⟨state, rfl⟩
    | active => rw [advance_trapped buffer state]; exact ⟨state, rfl⟩

/-- The state knows whether one of the pulls made so far ended the stream. -/
structure Kept (stream : Nat → Pulled Item Error) (it : AsyncIterator Item Error) : Prop where
  active : it.state = .active → ∀ m < it.pulls, (stream m).ending? = none
  finished : ∀ error, it.state = .finished error → ∃ n, it.pulls = n + 1 ∧ EndsAt stream n error

theorem Kept.congr {it other : AsyncIterator Item Error} (known : Kept stream it) (state : other.state = it.state)
    (pulls : other.pulls = it.pulls) : Kept stream other := by
  constructor
  · rw [state, pulls]; exact known.active
  · rw [state, pulls]; exact known.finished

theorem Kept.receive {it : AsyncIterator Item Error} (known : Kept stream it) (buffer : it.currentChunk = [])
    (state : it.state = .active) : Kept stream (it.receive (stream it.pulls)) := by
  have before := known.active state
  rw [receive_eq buffer state]
  constructor
  · intro active m bound
    cases ending : (stream it.pulls).ending? with
    | some error => simp [ending] at active
    | none =>
      rcases Nat.lt_succ_iff_lt_or_eq.mp bound with earlier | rfl
      · exact before m earlier
      · exact ending
  · intro error finished
    cases ending : (stream it.pulls).ending? with
    | some found =>
      simp only [ending, State.finished.injEq] at finished
      subst finished
      exact ⟨it.pulls, rfl, before, ending⟩
    | none => simp [ending] at finished

theorem Kept.next {it : AsyncIterator Item Error} (known : Kept stream it) : Kept stream (it.next stream).2 := by
  rcases next_cases stream it with ⟨first, rest, _, run⟩ | ⟨error, _, _, run⟩ | ⟨buffer, state, run⟩
  · rw [run]; exact known.congr rfl rfl
  · rwa [run]
  · obtain ⟨sameState, samePulls⟩ := advance_preconditionFailure_kept stream (it.receive (stream it.pulls))
    rw [run]
    exact (known.receive buffer state).congr sameState samePulls

theorem kept_after (stream : Nat → Pulled Item Error) (k : Nat) : Kept stream (after stream k) := by
  induction k with
  | zero => exact ⟨fun _ m bound => absurd bound (Nat.not_lt_zero m), fun error state => by cases state⟩
  | succ k ih => exact ih.next

theorem delivered_succ (n : Nat) : delivered stream (n + 1) = delivered stream n ++ (stream n).items := by
  simp [delivered, List.range_succ]

theorem delivered_mono (stream : Nat → Pulled Item Error) {n m : Nat} (bound : n ≤ m) :
    delivered stream n <+: delivered stream m := by
  induction bound with
  | refl => exact List.prefix_rfl
  | step _ ih => rw [delivered_succ]; exact ih.trans (List.prefix_append _ _)

/-- After `k` results the buffer holds what was pulled and not yet returned. -/
structure Synced (stream : Nat → Pulled Item Error) (k : Nat) (it : AsyncIterator Item Error) : Prop where
  buffer : it.currentChunk = (delivered stream it.pulls).drop k
  active : it.state = .active → k ≤ (delivered stream it.pulls).length
  progressed : ∀ m < it.pulls, stream m ≠ .returned [] none

/-- The result number `k` is the item of that number, or the end is reached
and every item was returned before. -/
def Settled (stream : Nat → Pulled Item Error) (k : Nat) (outcome : Next Item Error × AsyncIterator Item Error) :
    Prop :=
  (∃ item, outcome.1 = .item item ∧ (delivered stream outcome.2.pulls)[k]? = some item) ∨
  (∃ n error, outcome.1 = Next.ended error ∧ EndsAt stream n error ∧ (delivered stream (n + 1)).length ≤ k)

/-- With something to return, or at the end, the result is settled at once. -/
theorem Synced.settle {k : Nat} {it : AsyncIterator Item Error} (known : Synced stream k it) (kept : Kept stream it)
    (ready : it.currentChunk ≠ [] ∨ it.state ≠ .active) (closure : OnBufferEmpty) :
    Settled stream k (it.advance stream closure) ∧ Synced stream (k + 1) (it.advance stream closure).2 := by
  cases buffer : it.currentChunk with
  | cons first rest =>
    have dropped := known.buffer.symm.trans buffer
    have bound : k < (delivered stream it.pulls).length := by
      by_contra outside
      rw [List.drop_eq_nil_of_le (Nat.not_lt.mp outside)] at dropped
      cases dropped
    rw [List.drop_eq_getElem_cons bound] at dropped
    obtain ⟨here, later⟩ := List.cons.inj dropped
    rw [advance_buffered buffer]
    refine ⟨Or.inl ⟨first, rfl, ?_⟩, ⟨later.symm, fun _ => bound, known.progressed⟩⟩
    rw [List.getElem?_eq_getElem bound, here]
  | nil =>
    cases state : it.state with
    | active => simp [buffer, state] at ready
    | finished error =>
      obtain ⟨n, pulls, ends⟩ := kept.finished error state
      have length : (delivered stream it.pulls).length ≤ k := List.drop_eq_nil_iff.mp (known.buffer.symm.trans buffer)
      rw [advance_finished buffer state]
      refine ⟨Or.inr ⟨n, error, rfl, ends, pulls ▸ length⟩, ⟨?_, ?_, known.progressed⟩⟩
      · rw [buffer, List.drop_eq_nil_of_le (Nat.le_succ_of_le length)]
      · intro active
        rw [state] at active
        cases active

theorem Synced.receive {k : Nat} {it : AsyncIterator Item Error} (known : Synced stream k it)
    (buffer : it.currentChunk = []) (state : it.state = .active) (full : stream it.pulls ≠ .returned [] none) :
    Synced stream k (it.receive (stream it.pulls)) := by
  have length : (delivered stream it.pulls).length = k :=
    Nat.le_antisymm (List.drop_eq_nil_iff.mp (known.buffer.symm.trans buffer)) (known.active state)
  rw [receive_eq buffer state]
  refine ⟨?_, ?_, ?_⟩
  · simp [delivered_succ, ← length]
  · intro _
    simp [delivered_succ, ← length]
  · intro m bound
    rcases Nat.lt_succ_iff_lt_or_eq.mp bound with earlier | rfl
    · exact known.progressed m earlier
    · exact full

theorem eq_empty_iff (pulled : Pulled Item Error) :
    pulled.items = [] ∧ pulled.ending? = none ↔ pulled = .returned [] none := by
  rcases pulled with ⟨chunk, none | termination⟩ | error <;> simp [Pulled.items, Pulled.ending?]

/-- A call that does not trap gives the next item or the end. -/
theorem Synced.next {k : Nat} {it : AsyncIterator Item Error} (known : Synced stream k it) (kept : Kept stream it)
    (running : it.currentChunk = [] → it.state = .active → stream it.pulls ≠ .returned [] none) :
    Settled stream k (it.next stream) ∧ Synced stream (k + 1) (it.next stream).2 := by
  by_cases idle : it.currentChunk = [] ∧ it.state = .active
  · obtain ⟨buffer, state⟩ := idle
    have full := running buffer state
    have ready : (it.receive (stream it.pulls)).currentChunk ≠ [] ∨ (it.receive (stream it.pulls)).state ≠ .active := by
      rw [receive_eq buffer state, ← not_and_or]
      rintro ⟨items, goesOn⟩
      refine full ((eq_empty_iff _).mp ⟨items, ?_⟩)
      cases ending : (stream it.pulls).ending? with
      | none => rfl
      | some error => simp [ending] at goesOn
    rw [AsyncIterator.next, advance_pull buffer state]
    exact (known.receive buffer state full).settle (kept.receive buffer state) ready .preconditionFailure
  · exact known.settle kept (by rwa [ne_eq, ne_eq, ← not_and_or]) .erasedPull

theorem advance_traps_iff (stream : Nat → Pulled Item Error) (it : AsyncIterator Item Error) :
    (it.advance stream .preconditionFailure).1 = .preconditionFailure ↔
      it.currentChunk = [] ∧ it.state = .active := by
  cases buffer : it.currentChunk with
  | cons first rest => simp [advance_buffered buffer]
  | nil =>
    cases state : it.state with
    | finished error => cases error <;> simp [advance_finished buffer state, Next.ended]
    | active => simp [advance_trapped buffer state]

theorem next_traps_iff (stream : Nat → Pulled Item Error) (it : AsyncIterator Item Error) :
    (it.next stream).1 = .preconditionFailure ↔
      it.currentChunk = [] ∧ it.state = .active ∧ stream it.pulls = .returned [] none := by
  rcases next_cases stream it with ⟨first, rest, buffer, run⟩ | ⟨error, buffer, state, run⟩ | ⟨buffer, state, run⟩
  · simp [run, buffer]
  · cases error <;> simp [run, state, Next.ended]
  · rw [run, advance_traps_iff, receive_eq buffer state, ← eq_empty_iff]
    cases (stream it.pulls).ending? <;> simp [buffer, state]

theorem synced_after (k : Nat) (running : ∀ j < k, result stream j ≠ .preconditionFailure) :
    Synced stream k (after stream k) := by
  induction k with
  | zero => exact ⟨rfl, fun _ => Nat.zero_le _, fun m bound => absurd bound (Nat.not_lt_zero m)⟩
  | succ k ih =>
    have known := ih fun j bound => running j (Nat.lt_succ_of_lt bound)
    refine (known.next (kept_after stream k) fun buffer state empty => ?_).2
    exact running k (Nat.lt_succ_self k) ((next_traps_iff stream _).mpr ⟨buffer, state, empty⟩)

/-- Whoever waits for item `n` meets an empty chunk at the latest then. -/
theorem traps_of_empty {n : Nat} (unended : ∀ m < n, (stream m).ending? = none)
    (empty : stream n = .returned [] none) : ∃ k, result stream k = .preconditionFailure := by
  by_contra never
  have running : ∀ k, result stream k ≠ .preconditionFailure := fun k traps => never ⟨k, traps⟩
  have known := synced_after (delivered stream n).length fun j _ => running j
  have kept := kept_after stream (delivered stream n).length
  generalize reached : after stream (delivered stream n).length = it at known kept
  rcases Nat.lt_or_ge n it.pulls with beyond | bound
  · exact known.progressed n beyond empty
  · cases state : it.state with
    | finished error =>
      obtain ⟨m, pulls, _, ends⟩ := kept.finished error state
      rw [unended m (by omega)] at ends
      cases ends
    | active =>
      have length := Nat.le_antisymm (delivered_mono stream bound).length_le (known.active state)
      have buffer : it.currentChunk = [] := by rw [known.buffer, ← length, List.drop_length]
      have next : stream it.pulls = .returned [] none := by
        rcases Nat.lt_or_eq_of_le bound with earlier | same
        · refine (eq_empty_iff _).mp ⟨?_, unended _ earlier⟩
          have longer := (delivered_mono stream (Nat.succ_le_of_lt earlier)).length_le
          rw [delivered_succ, List.length_append] at longer
          exact List.eq_nil_of_length_eq_zero (by omega)
        · rwa [same]
      exact running _ (by rw [result, reached]; exact (next_traps_iff stream it).mpr ⟨buffer, state, next⟩)

/-- The results are determined by the outcomes of the pulls. -/
structure Iterates (stream : Nat → Pulled Item Error) : Prop where
  items : Progresses stream → ∀ n, (∀ m < n, (stream m).ending? = none) → ∀ k item,
    (delivered stream (n + 1))[k]? = some item → result stream k = .item item
  ended : Progresses stream → ∀ n error, EndsAt stream n error → ∀ k,
    (delivered stream (n + 1)).length ≤ k → result stream k = Next.ended error
  nothingElse : Progresses stream → ∀ k,
    (∃ n item, (∀ m < n, (stream m).ending? = none) ∧ (delivered stream (n + 1))[k]? = some item) ∨
    ∃ n error, EndsAt stream n error ∧ (delivered stream (n + 1)).length ≤ k
  pulls : ∀ k, (after stream (k + 1)).pulls = (after stream k).pulls ∨
    (after stream (k + 1)).pulls = (after stream k).pulls + 1 ∧ (after stream k).currentChunk = [] ∧
      ∀ m < (after stream k).pulls, (stream m).ending? = none
  traps : (∃ k, result stream k = .preconditionFailure) ↔
    ∃ n, (∀ m < n, (stream m).ending? = none) ∧ stream n = .returned [] none

theorem pulls_once (stream : Nat → Pulled Item Error) (k : Nat) :
    (after stream (k + 1)).pulls = (after stream k).pulls ∨
    (after stream (k + 1)).pulls = (after stream k).pulls + 1 ∧ (after stream k).currentChunk = [] ∧
      ∀ m < (after stream k).pulls, (stream m).ending? = none := by
  rw [after]
  rcases next_cases stream (after stream k) with
    ⟨first, rest, _, run⟩ | ⟨error, _, _, run⟩ | ⟨buffer, state, run⟩
  · exact Or.inl (by rw [run])
  · exact Or.inl (by rw [run])
  · refine Or.inr ⟨?_, buffer, (kept_after stream k).active state⟩
    rw [run, (advance_preconditionFailure_kept stream _).2, receive_eq buffer state]

theorem traps_iff (stream : Nat → Pulled Item Error) : (∃ k, result stream k = .preconditionFailure) ↔
    ∃ n, (∀ m < n, (stream m).ending? = none) ∧ stream n = .returned [] none := by
  constructor
  · rintro ⟨k, traps⟩
    obtain ⟨_, state, empty⟩ := (next_traps_iff stream _).mp traps
    exact ⟨_, (kept_after stream k).active state, empty⟩
  · rintro ⟨n, unended, empty⟩
    exact traps_of_empty unended empty

/-- A pull made so far was made before the end. -/
theorem Kept.unended {it : AsyncIterator Item Error} (known : Kept stream it) {n : Nat} (pulls : it.pulls = n + 1) :
    ∀ m < n, (stream m).ending? = none := by
  intro m bound
  cases state : it.state with
  | active => exact known.active state m (by omega)
  | finished error =>
    obtain ⟨last, same, unended, _⟩ := known.finished error state
    exact unended m (by omega)

theorem settled (progress : Progresses stream) (k : Nat) :
    (∃ n item, result stream k = .item item ∧ (∀ m < n, (stream m).ending? = none) ∧
      (delivered stream (n + 1))[k]? = some item) ∨
    ∃ n error, result stream k = Next.ended error ∧ EndsAt stream n error ∧
      (delivered stream (n + 1)).length ≤ k := by
  have running : ∀ j < k, result stream j ≠ .preconditionFailure := by
    intro j _ traps
    obtain ⟨n, _, empty⟩ := (traps_iff stream).mp ⟨j, traps⟩
    exact progress n [] empty rfl
  have known := (synced_after k running).next (kept_after stream k) fun _ _ empty => progress _ [] empty rfl
  rcases known.1 with ⟨item, run, here⟩ | ⟨n, error, run, ends, length⟩
  · cases pulls : ((after stream k).next stream).2.pulls with
    | zero => simp [pulls, delivered] at here
    | succ n => exact Or.inl ⟨n, item, run, (kept_after stream k).next.unended pulls, pulls ▸ here⟩
  · exact Or.inr ⟨n, error, run, ends, length⟩

theorem delivered_extends {n m k : Nat} {item : Item} (bound : n ≤ m)
    (here : (delivered stream n)[k]? = some item) : (delivered stream m)[k]? = some item := by
  obtain ⟨later, whole⟩ := delivered_mono stream bound
  obtain ⟨inside, _⟩ := List.getElem?_eq_some_iff.mp here
  rw [← whole, List.getElem?_append_left inside, here]

/-- No pull ends the stream before the first that does. -/
theorem EndsAt.le {n m : Nat} {error : Option Error} (ends : EndsAt stream n error)
    (unended : ∀ before < m, (stream before).ending? = none) : m ≤ n := by
  by_contra beyond
  have goesOn := unended n (Nat.lt_of_not_le beyond)
  rw [ends.2] at goesOn
  cases goesOn

theorem result_item (progress : Progresses stream) {n : Nat} (unended : ∀ m < n, (stream m).ending? = none) {k : Nat}
    {item : Item} (here : (delivered stream (n + 1))[k]? = some item) : result stream k = .item item := by
  rcases settled progress k with ⟨m, other, run, _, there⟩ | ⟨m, error, _, ends, length⟩
  · have first := delivered_extends (Nat.le_max_left (n + 1) (m + 1)) here
    have second := delivered_extends (Nat.le_max_right (n + 1) (m + 1)) there
    rw [run, Option.some.inj (first.symm.trans second)]
  · have there := delivered_extends (Nat.succ_le_succ (ends.le unended)) here
    rw [List.getElem?_eq_none length] at there
    cases there

theorem result_ended (progress : Progresses stream) {n : Nat} {error : Option Error} (ends : EndsAt stream n error)
    {k : Nat} (length : (delivered stream (n + 1)).length ≤ k) : result stream k = Next.ended error := by
  rcases settled progress k with ⟨m, item, _, unended, there⟩ | ⟨m, other, run, otherEnds, _⟩
  · have here := delivered_extends (Nat.succ_le_succ (ends.le unended)) there
    rw [List.getElem?_eq_none length] at here
    cases here
  · obtain rfl : m = n := Nat.le_antisymm (ends.le otherEnds.1) (otherEnds.le ends.1)
    rw [run, Option.some.inj (otherEnds.2.symm.trans ends.2)]

/-- Whatever the pulls come to, iterating gives their items in order up to the
end and then the end for ever. It pulls only when it has to, and traps only on
an empty chunk that does not end the stream. -/
theorem iterates (stream : Nat → Pulled Item Error) : Iterates stream :=
  { items := fun progress _ unended _ _ here => result_item progress unended here
    ended := fun progress _ _ ends _ length => result_ended progress ends length
    nothingElse := fun progress k =>
      (settled progress k).imp (fun ⟨n, item, _, unended, here⟩ => ⟨n, item, unended, here⟩)
        fun ⟨n, error, _, ends, length⟩ => ⟨n, error, ends, length⟩
    pulls := pulls_once stream
    traps := traps_iff stream }

/-- The trap is native code's doing: it hands out nothing, with a null pointer for a reason. -/
theorem erasedPull_eq_empty_iff {convertError : Int → Error} {raw : Except Error (List Item × Int)} :
    erasedPull convertError raw = .returned [] none ↔ raw = .ok ([], 0) := by
  rcases raw with error | ⟨chunk, reason⟩
  · simp [erasedPull]
  · simp only [erasedPull, Pulled.returned.injEq, Except.ok.injEq, Prod.mk.injEq,
      BulkPolledStreamTerminationConverter.convertReturn]
    refine and_congr_right fun _ => ?_
    split
    · simp_all
    · split <;> simp_all

end AsyncIterator

end SignalPods.LibSignal
