import SignalPods.Machine.Holders
import SignalPods.RingRTC.CallReferences

namespace SignalPods.RingRTC

open Machine

/-- The task that runs and those that wait. -/
def CallReferences.line (s : CallReferences) : List CallTask := s.running.toList ++ s.tasks

/-- The object that was handed over. -/
def remoteOf (calls : List HandedCall) (id : Nat) : Nat := (calls[id]?.map HandedCall.remote).getD 0

/-- A call whose conclusion waits for its turn. -/
def Concluding (line : List CallTask) (id : Nat) : Prop := ∃ task ∈ line, task.concludes ∧ task.call = id

/-- The manager holds one reference for each accepted call whose conclusion has
not had its turn. `line` is the task that runs and those that wait. -/
structure Balanced (calls : List HandedCall) (executing : Option Nat) (line : List CallTask) (retainCount : Nat → Int)
    (held : Finset Nat) : Prop where
  counts : Counts (remoteOf calls) held retainCount
  held_iff : ∀ id, id ∈ held ↔
    ∃ call, calls[id]? = some call ∧ call.returned = some true ∧ (call.concluded = true → Concluding line id)
  unanswered : ∀ (id : Nat) (call : HandedCall), calls[id]? = some call → call.returned = none →
    call.concluded = true → Concluding line id
  tasks : ∀ task ∈ line, ∃ call, calls[task.call]? = some call ∧ call.remote = task.remote ∧ call.reported = true ∧
    (task.concludes → call.concluded = true) ∧ (call.concluded = true → Concluding line task.call)
  order : line.Pairwise fun earlier later => earlier.concludes → later.call ≠ earlier.call
  answered : ∀ (id : Nat) (call : HandedCall), calls[id]? = some call → (call.returned = none ↔ executing = some id)
  refused : ∀ (id : Nat) (call : HandedCall), calls[id]? = some call → call.returned = some false → call.reported = false

variable {calls : List HandedCall} {executing : Option Nat} {line rest : List CallTask} {retainCount : Nat → Int}
  {held : Finset Nat}

theorem remoteOf_found {id : Nat} {call : HandedCall} (found : calls[id]? = some call) : remoteOf calls id = call.remote := by
  unfold remoteOf
  rw [found]
  rfl

theorem balanced_start : Balanced [] none [] (fun _ => 0) ∅ := by
  refine ⟨counts_empty _, ?_, ?_, ?_, .nil, ?_, ?_⟩
  · intro id
    simp
  · intro id call none
    cases none
  · intro task none
    cases none
  · intro id call none
    cases none
  · intro id call none
    cases none

/-- While no API call is executed every task has its reference. -/
theorem Balanced.held_of_task (balanced : Balanced calls executing line retainCount held) (idle : executing = none)
    {task : CallTask} (member : task ∈ line) : task.call ∈ held ∧ remoteOf calls task.call = task.remote := by
  obtain ⟨call, found, remote, reported, _, concluding⟩ := balanced.tasks task member
  have accepted : call.returned = some true := by
    cases returned : call.returned with
    | none =>
      have executed := (balanced.answered _ _ found).mp returned
      rw [idle] at executed
      cases executed
    | some accepted =>
      cases accepted with
      | true => rfl
      | false =>
        have silent := balanced.refused _ _ found returned
        rw [reported] at silent
        cases silent
  exact ⟨(balanced.held_iff _).mpr ⟨call, found, accepted, concluding⟩, (remoteOf_found found).trans remote⟩

theorem Balanced.positive (balanced : Balanced calls executing line retainCount held) (idle : executing = none)
    {task : CallTask} (member : task ∈ line) : 1 ≤ retainCount task.remote := by
  obtain ⟨isHeld, remote⟩ := balanced.held_of_task idle member
  rw [← remote]
  exact balanced.counts.positive isHeld

section Append

variable {new call : HandedCall} {id : Nat}

theorem getElem?_append_new (found : (calls ++ [new])[id]? = some call) :
    calls[id]? = some call ∨ id = calls.length ∧ call = new := by
  by_cases inside : id < calls.length
  · rw [List.getElem?_append_left inside] at found
    exact Or.inl found
  · rw [List.getElem?_append_right (Nat.le_of_not_lt inside)] at found
    obtain ⟨index, same⟩ := List.getElem?_eq_some_iff.mp found
    rw [List.length_singleton] at index
    refine Or.inr ⟨by omega, ?_⟩
    rw [← same]
    simp

theorem getElem?_append_old (found : calls[id]? = some call) : (calls ++ [new])[id]? = some call := by
  have inside := (List.getElem?_eq_some_iff.mp found).choose
  rw [List.getElem?_append_left inside, found]

end Append

/-- An API call begins. -/
theorem Balanced.enter (balanced : Balanced calls none line retainCount held) (api : CallApi) (remote : Nat) :
    Balanced (calls ++ [{ api := api, remote := remote }]) (some calls.length) line retainCount held := by
  refine ⟨?_, ?_, ?_, ?_, balanced.order, ?_, ?_⟩
  · refine balanced.counts.congr fun id isHeld => ?_
    obtain ⟨call, found, _⟩ := (balanced.held_iff id).mp isHeld
    rw [remoteOf_found found, remoteOf_found (getElem?_append_old found)]
  · intro id
    rw [balanced.held_iff]
    constructor
    · rintro ⟨call, found, accepted⟩
      exact ⟨call, getElem?_append_old found, accepted⟩
    · rintro ⟨call, found, accepted, concluding⟩
      rcases getElem?_append_new found with old | ⟨_, rfl⟩
      · exact ⟨call, old, accepted, concluding⟩
      · cases accepted
  · intro id call found unanswered concluded
    rcases getElem?_append_new found with old | ⟨_, rfl⟩
    · exact balanced.unanswered id call old unanswered concluded
    · cases concluded
  · intro task member
    obtain ⟨call, found, known⟩ := balanced.tasks task member
    exact ⟨call, getElem?_append_old found, known⟩
  · intro id call found
    rcases getElem?_append_new found with old | ⟨atEnd, rfl⟩
    · have inside := (List.getElem?_eq_some_iff.mp old).choose
      have never : ¬ call.returned = none := fun unanswered => by
        have executed := (balanced.answered id call old).mp unanswered
        cases executed
      refine iff_of_false never ?_
      intro same
      have index := Option.some.inj same
      omega
    · exact iff_of_true rfl (congrArg some atEnd.symm)
  · intro id call found refused
    rcases getElem?_append_new found with old | ⟨_, rfl⟩
    · exact balanced.refused id call old refused
    · rfl

section Set

variable {id other : Nat} {call new found' : HandedCall}

theorem getElem?_set_cases (found : calls[id]? = some call) (entry : (calls.set id new)[other]? = some found') :
    other = id ∧ found' = new ∨ other ≠ id ∧ calls[other]? = some found' := by
  have inside := (List.getElem?_eq_some_iff.mp found).choose
  by_cases same : other = id
  · subst same
    rw [List.getElem?_set_self inside] at entry
    exact Or.inl ⟨rfl, (Option.some.inj entry).symm⟩
  · rw [List.getElem?_set_ne (Ne.symm same)] at entry
    exact Or.inr ⟨same, entry⟩

theorem getElem?_set_found (found : calls[id]? = some call) : (calls.set id new)[id]? = some new := by
  rw [List.getElem?_set_self (List.getElem?_eq_some_iff.mp found).choose]

theorem remoteOf_set (found : calls[id]? = some call) (new : HandedCall) (same : new.remote = call.remote) (other : Nat) :
    remoteOf (calls.set id new) other = remoteOf calls other := by
  by_cases here : other = id
  · subst here
    rw [remoteOf_found (getElem?_set_found found), remoteOf_found found, same]
  · unfold remoteOf
    rw [List.getElem?_set_ne (Ne.symm here)]

end Set

section Answer

variable {id : Nat} {call : HandedCall}

theorem Balanced.id_not_held (balanced : Balanced calls (some id) line retainCount held) (found : calls[id]? = some call) :
    id ∉ held := by
  intro isHeld
  obtain ⟨call', found', accepted, _⟩ := (balanced.held_iff id).mp isHeld
  rw [found] at found'
  rw [← Option.some.inj found', (balanced.answered id call found).mpr rfl] at accepted
  cases accepted

/-- The answer of the native function is all that is known of its call then. -/
theorem Balanced.unanswered_set (balanced : Balanced calls (some id) line retainCount held) (found : calls[id]? = some call)
    (accepted : Bool) {other : Nat} {call' : HandedCall}
    (entry : (calls.set id { call with returned := some accepted })[other]? = some call') : call'.returned ≠ none := by
  rcases getElem?_set_cases found entry with ⟨_, rfl⟩ | ⟨different, found'⟩
  · simp
  · intro unanswered
    exact different (Option.some.inj ((balanced.answered other call' found').mp unanswered)).symm

/-- The native function accepts the call object, which is retained. -/
theorem Balanced.accept (balanced : Balanced calls (some id) line retainCount held) (found : calls[id]? = some call) :
    Balanced (calls.set id { call with returned := some true }) none line
      (Function.update retainCount call.remote (retainCount call.remote + 1)) (insert id held) := by
  have unanswered : call.returned = none := (balanced.answered id call found).mpr rfl
  have new := balanced.id_not_held found
  refine ⟨?_, ?_, ?_, ?_, balanced.order, ?_, ?_⟩
  · have counts := balanced.counts.insert new
    rw [remoteOf_found found] at counts
    exact counts.congr fun other _ => remoteOf_set found { call with returned := some true } rfl other
  · intro other
    rw [Finset.mem_insert]
    constructor
    · rintro (rfl | isHeld)
      · exact ⟨_, getElem?_set_found found, rfl, balanced.unanswered _ call found unanswered⟩
      · have different : other ≠ id := ne_of_mem_of_not_mem isHeld new
        obtain ⟨call', found', accepted⟩ := (balanced.held_iff other).mp isHeld
        exact ⟨call', by rw [List.getElem?_set_ne (Ne.symm different), found'], accepted⟩
    · rintro ⟨call', entry, accepted⟩
      rcases getElem?_set_cases found entry with ⟨rfl, _⟩ | ⟨_, found'⟩
      · exact Or.inl rfl
      · exact Or.inr ((balanced.held_iff other).mpr ⟨call', found', accepted⟩)
  · intro other call' entry none
    exact absurd none (balanced.unanswered_set found true entry)
  · intro task member
    obtain ⟨call', found', remote, reported, concludes, concluding⟩ := balanced.tasks task member
    by_cases same : task.call = id
    · rw [same, found] at found'
      obtain rfl := Option.some.inj found'
      rw [same] at concluding ⊢
      exact ⟨_, getElem?_set_found found, remote, reported, concludes, concluding⟩
    · exact ⟨call', by rw [List.getElem?_set_ne (Ne.symm same), found'], remote, reported, concludes, concluding⟩
  · intro other call' entry
    exact iff_of_false (balanced.unanswered_set found true entry) (by simp)
  · intro other call' entry refused
    rcases getElem?_set_cases found entry with ⟨_, rfl⟩ | ⟨_, found'⟩
    · cases refused
    · exact balanced.refused other call' found' refused

/-- The native function refuses it, having reported nothing. -/
theorem Balanced.refuse (balanced : Balanced calls (some id) line retainCount held) (found : calls[id]? = some call)
    (silent : call.reported = false) :
    Balanced (calls.set id { call with returned := some false }) none line retainCount held := by
  have new := balanced.id_not_held found
  refine ⟨?_, ?_, ?_, ?_, balanced.order, ?_, ?_⟩
  · exact balanced.counts.congr fun other _ => remoteOf_set found { call with returned := some false } rfl other
  · intro other
    constructor
    · intro isHeld
      have different : other ≠ id := ne_of_mem_of_not_mem isHeld new
      obtain ⟨call', found', accepted⟩ := (balanced.held_iff other).mp isHeld
      exact ⟨call', by rw [List.getElem?_set_ne (Ne.symm different), found'], accepted⟩
    · rintro ⟨call', entry, accepted, concluding⟩
      rcases getElem?_set_cases found entry with ⟨_, rfl⟩ | ⟨_, found'⟩
      · cases accepted
      · exact (balanced.held_iff other).mpr ⟨call', found', accepted, concluding⟩
  · intro other call' entry none
    exact absurd none (balanced.unanswered_set found false entry)
  · intro task member
    obtain ⟨call', found', remote, reported, known⟩ := balanced.tasks task member
    have different : task.call ≠ id := by
      intro same
      rw [same, found] at found'
      rw [← Option.some.inj found', silent] at reported
      cases reported
    exact ⟨call', by rw [List.getElem?_set_ne (Ne.symm different), found'], remote, reported, known⟩
  · intro other call' entry
    exact iff_of_false (balanced.unanswered_set found false entry) (by simp)
  · intro other call' entry refused
    rcases getElem?_set_cases found entry with ⟨_, rfl⟩ | ⟨_, found'⟩
    · exact silent
    · exact balanced.refused other call' found' refused

end Answer

theorem Concluding.append {id : Nat} (concluding : Concluding line id) (task : CallTask) :
    Concluding (line ++ [task]) id := by
  obtain ⟨last, member, known⟩ := concluding
  exact ⟨last, List.mem_append_left _ member, known⟩

/-- RingRTC reports something else on a call that goes on; a task may be put
in the line for it. -/
theorem Balanced.report (balanced : Balanced calls executing line retainCount held) {id : Nat} {call : HandedCall}
    (found : calls[id]? = some call) (goesOn : call.concluded = false) (notRefused : call.returned ≠ some false)
    (observer : CallObserver) {line' : List CallTask}
    (longer : line' = line ++ [{ observer := observer, call := id, remote := call.remote }] ∨
      line' = line ∧ observer ≠ .onCallConcluded) :
    Balanced (calls.set id { call with reported := true, concluded := decide (observer = CallObserver.onCallConcluded) })
      executing line' retainCount held := by
  have later : ∀ {other : Nat}, Concluding line other → Concluding line' other := by
    intro other concluding
    rcases longer with rfl | ⟨rfl, _⟩
    · exact concluding.append _
    · exact concluding
  have now : decide (observer = CallObserver.onCallConcluded) = true → Concluding line' id := by
    intro concludes
    rcases longer with rfl | ⟨_, other⟩
    · exact ⟨_, List.mem_append_right _ (List.mem_singleton.mpr rfl), of_decide_eq_true concludes, rfl⟩
    · exact absurd (of_decide_eq_true concludes) other
  refine ⟨?_, ?_, ?_, ?_, ?_, ?_, ?_⟩
  · exact balanced.counts.congr fun other _ => remoteOf_set found
      { call with reported := true, concluded := decide (observer = CallObserver.onCallConcluded) } rfl other
  · intro other
    rw [balanced.held_iff]
    constructor
    · rintro ⟨call', found', accepted, concluding⟩
      by_cases same : other = id
      · subst same
        rw [found] at found'
        obtain rfl := Option.some.inj found'
        exact ⟨_, getElem?_set_found found, accepted, now⟩
      · exact ⟨call', by rw [List.getElem?_set_ne (Ne.symm same), found'], accepted, fun concluded =>
          later (concluding concluded)⟩
    · rintro ⟨call', entry, accepted, concluding⟩
      rcases getElem?_set_cases found entry with ⟨rfl, rfl⟩ | ⟨different, found'⟩
      · refine ⟨call, found, accepted, fun concluded => ?_⟩
        rw [goesOn] at concluded
        cases concluded
      · refine ⟨call', found', accepted, fun concluded => ?_⟩
        obtain ⟨last, member, concludes, here⟩ := concluding concluded
        rcases longer with rfl | ⟨rfl, _⟩
        · rcases List.mem_append.mp member with old | new
          · exact ⟨last, old, concludes, here⟩
          · rw [List.mem_singleton.mp new] at here
            exact absurd here.symm different
        · exact ⟨last, member, concludes, here⟩
  · intro other call' entry none concluded
    rcases getElem?_set_cases found entry with ⟨rfl, rfl⟩ | ⟨_, found'⟩
    · exact now concluded
    · exact later (balanced.unanswered other call' found' none concluded)
  · intro task member
    have old : task ∈ line → ∃ call', (calls.set id { call with
        reported := true, concluded := decide (observer = CallObserver.onCallConcluded) })[task.call]? = some call' ∧
        call'.remote = task.remote ∧ call'.reported = true ∧ (task.concludes → call'.concluded = true) ∧
        (call'.concluded = true → Concluding line' task.call) := by
      intro member
      obtain ⟨call', found', remote, reported, concludes, concluding⟩ := balanced.tasks task member
      by_cases same : task.call = id
      · rw [same] at found' ⊢
        rw [found] at found'
        obtain rfl := Option.some.inj found'
        refine ⟨_, getElem?_set_found found, remote, rfl, fun concludes' => ?_, now⟩
        have concluded := concludes concludes'
        rw [goesOn] at concluded
        cases concluded
      · exact ⟨call', by rw [List.getElem?_set_ne (Ne.symm same), found'], remote, reported, concludes, fun concluded =>
          later (concluding concluded)⟩
    rcases longer with rfl | ⟨rfl, _⟩
    · rcases List.mem_append.mp member with inside | new
      · exact old inside
      · obtain rfl := List.mem_singleton.mp new
        exact ⟨_, getElem?_set_found found, rfl, rfl, fun concludes => decide_eq_true concludes, now⟩
    · exact old member
  · rcases longer with rfl | ⟨rfl, _⟩
    · refine List.pairwise_append.mpr ⟨balanced.order, List.pairwise_singleton _ _, ?_⟩
      intro earlier member last atEnd concludes same
      obtain ⟨call', found', _, _, concluded, _⟩ := balanced.tasks earlier member
      rw [List.mem_singleton.mp atEnd] at same
      have here : id = earlier.call := same
      rw [← here, found] at found'
      have ended := concluded concludes
      rw [← Option.some.inj found', goesOn] at ended
      cases ended
    · exact balanced.order
  · intro other call' entry
    rcases getElem?_set_cases found entry with ⟨rfl, rfl⟩ | ⟨_, found'⟩
    · exact balanced.answered _ call found
    · exact balanced.answered other call' found'
  · intro other call' entry refused
    rcases getElem?_set_cases found entry with ⟨rfl, rfl⟩ | ⟨_, found'⟩
    · exact absurd refused notRefused
    · exact balanced.refused other call' found' refused

/-- The first task has had its turn, and gives its reference back when it was
the last one of its call. -/
theorem Balanced.turn {task : CallTask} (balanced : Balanced calls executing (task :: rest) retainCount held)
    (idle : executing = none) :
    if task.concludes then
      Balanced calls executing rest (Function.update retainCount task.remote (retainCount task.remote - 1))
        (held.erase task.call)
    else Balanced calls executing rest retainCount held := by
  have first := (List.pairwise_cons.mp balanced.order).1
  have concludingRest : ∀ {other : Nat}, (task.concludes → other ≠ task.call) → Concluding (task :: rest) other →
      Concluding rest other := by
    rintro other different ⟨last, member, concludes, here⟩
    rcases List.mem_cons.mp member with rfl | inside
    · exact absurd here.symm (different concludes)
    · exact ⟨last, inside, concludes, here⟩
  have concludingWhole : ∀ {other : Nat}, Concluding rest other → Concluding (task :: rest) other := by
    rintro other ⟨last, member, known⟩
    exact ⟨last, List.mem_cons_of_mem _ member, known⟩
  have never : ∀ (id : Nat) (call : HandedCall), calls[id]? = some call → call.returned ≠ none := by
    intro id call found none
    have executed := (balanced.answered id call found).mp none
    rw [idle] at executed
    cases executed
  have tasks : ∀ later ∈ rest, ∃ call, calls[later.call]? = some call ∧ call.remote = later.remote ∧
      call.reported = true ∧ (later.concludes → call.concluded = true) ∧
      (call.concluded = true → Concluding rest later.call) := by
    intro later member
    obtain ⟨call, found, remote, reported, concludes, concluding⟩ := balanced.tasks later (List.mem_cons_of_mem _ member)
    exact ⟨call, found, remote, reported, concludes, fun concluded =>
      concludingRest (first later member) (concluding concluded)⟩
  have unanswered : ∀ (id : Nat) (call : HandedCall), calls[id]? = some call → call.returned = none →
      call.concluded = true → Concluding rest id := fun id call found none => absurd none (never id call found)
  have order := balanced.order.of_cons
  by_cases concludes : task.concludes
  · rw [if_pos concludes]
    obtain ⟨isHeld, remote⟩ := balanced.held_of_task idle (List.mem_cons_self ..)
    refine ⟨?_, ?_, unanswered, tasks, order, balanced.answered, balanced.refused⟩
    · rw [← remote]
      exact balanced.counts.erase isHeld
    · intro id
      rw [Finset.mem_erase, balanced.held_iff]
      constructor
      · rintro ⟨different, call, found, accepted, concluding⟩
        exact ⟨call, found, accepted, fun concluded => concludingRest (fun _ => different) (concluding concluded)⟩
      · rintro ⟨call, found, accepted, concluding⟩
        refine ⟨?_, call, found, accepted, fun concluded => concludingWhole (concluding concluded)⟩
        rintro rfl
        obtain ⟨call', found', _, _, concluded, _⟩ := balanced.tasks task (List.mem_cons_self ..)
        rw [found] at found'
        obtain rfl := Option.some.inj found'
        obtain ⟨last, member, _, here⟩ := concluding (concluded concludes)
        exact first last member concludes here
  · rw [if_neg concludes]
    refine ⟨balanced.counts, ?_, unanswered, tasks, order, balanced.answered, balanced.refused⟩
    intro id
    rw [balanced.held_iff]
    constructor
    · rintro ⟨call, found, accepted, concluding⟩
      exact ⟨call, found, accepted, fun concluded =>
        concludingRest (fun concludes' => absurd concludes' concludes) (concluding concluded)⟩
    · rintro ⟨call, found, accepted, concluding⟩
      exact ⟨call, found, accepted, fun concluded => concludingWhole (concluding concluded)⟩

namespace CallReferences

variable {s after : CallReferences} {event : CallEvent}

def Safe (s : CallReferences) : Prop :=
  (∃ held, Balanced s.calls s.executing s.line s.retainCount held) ∧ ∀ seen ∈ s.taken, 1 ≤ seen.2

theorem Safe.enter {api : CallApi} {remote : Nat} (safe : s.Safe) (entered : s.enter api remote = some after) :
    after.Safe := by
  obtain ⟨⟨held, balanced⟩, taken⟩ := safe
  unfold CallReferences.enter at entered
  split at entered
  · rename_i idle
    obtain rfl := Option.some.inj entered
    rw [idle] at balanced
    exact ⟨⟨held, balanced.enter api remote⟩, taken⟩
  · cases entered

theorem Safe.returns {accepted : Bool} (safe : s.Safe) (returned : s.returns accepted = some after) : after.Safe := by
  obtain ⟨⟨held, balanced⟩, taken⟩ := safe
  unfold CallReferences.returns at returned
  cases executed : s.executing with
  | none =>
    rw [executed] at returned
    cases returned
  | some id =>
    rw [executed] at returned balanced
    cases found : s.calls[id]? with
    | none =>
      simp only [found] at returned
      cases returned
    | some call =>
      simp only [found] at returned
      cases accepted with
      | true =>
        obtain rfl := Option.some.inj returned
        exact ⟨⟨insert id held, balanced.accept found⟩, taken⟩
      | false =>
        by_cases reported : call.reported = true
        · simp [reported] at returned
        · simp only [Bool.false_eq_true, if_false] at returned
          rw [if_neg reported] at returned
          obtain rfl := Option.some.inj returned
          exact ⟨⟨held, balanced.refuse found (by simpa using reported)⟩, taken⟩

theorem observe_line (observer : CallObserver) (call remote : Nat) :
    (s.observe observer call remote).line = s.line ++ [{ observer := observer, call := call, remote := remote }] ∨
      (s.observe observer call remote).line = s.line ∧ observer ≠ .onCallConcluded := by
  have enqueued : line { s with tasks := s.tasks ++ [{ observer := observer, call := call, remote := remote }] } =
      s.line ++ [{ observer := observer, call := call, remote := remote }] := (List.append_assoc ..).symm
  unfold observe
  split
  · exact Or.inr ⟨rfl, by simp⟩
  · exact Or.inr ⟨rfl, by simp⟩
  · exact Or.inl enqueued

theorem observe_rest (observer : CallObserver) (call remote : Nat) :
    (s.observe observer call remote).calls = s.calls ∧ (s.observe observer call remote).executing = s.executing ∧
      (s.observe observer call remote).retainCount = s.retainCount ∧
      (s.observe observer call remote).taken = s.taken := by
  unfold observe
  split <;> exact ⟨rfl, rfl, rfl, rfl⟩

theorem Safe.reports {id : Nat} {observer : CallObserver} (safe : s.Safe) (reported : s.reports id observer = some after) :
    after.Safe := by
  obtain ⟨⟨held, balanced⟩, taken⟩ := safe
  unfold CallReferences.reports at reported
  cases found : s.calls[id]? with
  | none =>
    rw [found] at reported
    cases reported
  | some call =>
    simp only [found] at reported
    split at reported
    · cases reported
    · rename_i allowed
      rw [not_or] at allowed
      obtain rfl := Option.some.inj reported
      unfold Safe
      rw [(observe_rest ..).1, (observe_rest ..).2.1, (observe_rest ..).2.2.1, (observe_rest ..).2.2.2]
      exact ⟨⟨held, balanced.report found (by simpa using allowed.2) allowed.1 observer (observe_line ..)⟩, taken⟩

theorem taken_concat {remote : Nat} (taken : ∀ seen ∈ s.taken, 1 ≤ seen.2) (alive : 1 ≤ s.retainCount remote) :
    ∀ seen ∈ s.taken ++ [(remote, s.retainCount remote)], 1 ≤ seen.2 := by
  intro seen member
  rcases List.mem_append.mp member with old | new
  · exact taken seen old
  · rw [List.mem_singleton.mp new]
    exact alive

theorem Safe.run {delegateAlive : Bool} (safe : s.Safe) (ran : s.run delegateAlive = some after) : after.Safe := by
  obtain ⟨⟨held, balanced⟩, taken⟩ := safe
  unfold CallReferences.run at ran
  split at ran
  · rename_i task rest idle stopped waiting
    have line : s.line = task :: rest := by
      unfold CallReferences.line
      rw [stopped, waiting]
      rfl
    rw [line] at balanced
    have alive := balanced.positive idle (List.mem_cons_self ..)
    have turn := balanced.turn idle
    have stays : s.running.toList ++ rest = rest := by
      rw [stopped]
      rfl
    rw [← stays] at turn
    dsimp only at ran
    by_cases concludes : task.concludes
    · rw [if_pos concludes] at ran turn
      cases delegateAlive with
      | true =>
        obtain rfl := Option.some.inj ran
        exact ⟨⟨held, balanced⟩, taken_concat taken alive⟩
      | false =>
        obtain rfl := Option.some.inj ran
        exact ⟨⟨held.erase task.call, turn⟩, taken_concat taken alive⟩
    · rw [if_neg concludes] at ran turn
      cases delegateAlive with
      | true =>
        obtain rfl := Option.some.inj ran
        exact ⟨⟨held, balanced⟩, taken_concat taken alive⟩
      | false =>
        obtain rfl := Option.some.inj ran
        exact ⟨⟨held, turn⟩, taken⟩
  · cases ran

theorem Safe.delegateReturns (safe : s.Safe) (returned : s.delegateReturns = some after) : after.Safe := by
  obtain ⟨⟨held, balanced⟩, taken⟩ := safe
  unfold CallReferences.delegateReturns at returned
  split at returned
  · rename_i task idle running
    have line : s.line = task :: s.tasks := by
      unfold CallReferences.line
      rw [running]
      rfl
    rw [line] at balanced
    have turn := balanced.turn idle
    dsimp only at returned
    by_cases concludes : task.concludes
    · rw [if_pos concludes] at returned turn
      obtain rfl := Option.some.inj returned
      exact ⟨⟨held.erase task.call, turn⟩, taken⟩
    · rw [if_neg concludes] at returned turn
      obtain rfl := Option.some.inj returned
      exact ⟨⟨held, turn⟩, taken⟩
  · cases returned

theorem Safe.next (safe : s.Safe) (stepped : s.next event = some after) : after.Safe := by
  cases event with
  | enter api remote => exact safe.enter stepped
  | returns accepted => exact safe.returns stepped
  | reports call observer => exact safe.reports stepped
  | run delegateAlive => exact safe.run stepped
  | delegateReturns => exact safe.delegateReturns stepped

theorem safe_of_run {events : List CallEvent} (run : events.foldlM CallReferences.next {} = some s) : s.Safe := by
  have start : Safe {} := ⟨⟨∅, balanced_start⟩, fun seen none => by cases none⟩
  exact (reach_of_foldlM run).invariant (fun _ state => state.Safe) start fun _ safe stepped => safe.next stepped

/-- Whenever the main actor takes a call object the manager holds a reference
to it; and once every accepted call of an object has concluded, and the main
actor has dealt with that, it holds none. -/
theorem call_references_balance {events : List CallEvent} (run : events.foldlM CallReferences.next {} = some s) :
    (∀ seen ∈ s.taken, 1 ≤ seen.2) ∧
      ∀ remote, (∀ call ∈ s.calls, call.remote = remote → call.returned = some true → call.concluded = true) →
        (∀ task ∈ s.line, task.remote = remote → ¬ task.concludes) → s.retainCount remote = 0 := by
  obtain ⟨⟨held, balanced⟩, taken⟩ := safe_of_run run
  refine ⟨taken, ?_⟩
  intro remote concluded dealtWith
  have nobody : holders (remoteOf s.calls) held remote = 0 := by
    refine Finset.card_eq_zero.mpr (Finset.filter_eq_empty_iff.mpr ?_)
    intro id isHeld same
    obtain ⟨call, found, accepted, concluding⟩ := (balanced.held_iff id).mp isHeld
    rw [remoteOf_found found] at same
    obtain ⟨task, member, concludes, here⟩ :=
      concluding (concluded call (List.mem_of_getElem? found) same accepted)
    obtain ⟨call', found', remote', _⟩ := balanced.tasks task member
    rw [here, found] at found'
    obtain rfl := Option.some.inj found'
    exact dealtWith task member (remote'.symm.trans same) concludes
  rw [balanced.counts, nobody]
  rfl

/-- A call is placed, and taken again as an offer inside the delegate's method;
the delegate is gone when the first of the two concludes. -/
def takenTwice : List CallEvent :=
  [.enter .placeCall 7, .reports 0 .onStartCall, .returns true, .run true, .enter .receivedOffer 7, .returns true,
    .delegateReturns, .reports 0 .onCallConcluded, .reports 1 .onSendAnswer, .run false, .run true, .delegateReturns,
    .reports 1 .onCallConcluded, .run true, .delegateReturns]

theorem call_references_balance_takenTwice : ∃ s, takenTwice.foldlM CallReferences.next {} = some s ∧
    (∀ seen ∈ s.taken, 1 ≤ seen.2) ∧ s.retainCount 7 = 0 := by
  have run : takenTwice.foldlM CallReferences.next {} = some _ := rfl
  obtain ⟨taken, balance⟩ := call_references_balance run
  exact ⟨_, run, taken, balance 7 (by decide) (by decide)⟩

end CallReferences

end SignalPods.RingRTC
