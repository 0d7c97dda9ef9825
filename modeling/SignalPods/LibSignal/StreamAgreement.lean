import SignalPods.LibSignal.IoProtocols
import SignalPods.Machine.Reach

namespace SignalPods.LibSignal

open Machine

/-- How far an answered request moves a stream on. -/
def passed : StreamRequest × StreamAnswer → Nat
  | (.read _, .read bytes) => bytes.length
  | (.skip amount, .skipped) => amount.toNat
  | _ => 0

def position (history : List (StreamRequest × StreamAnswer)) : Nat := (history.map passed).sum

/-- What `SignalInputStream` promises of one request, made at a position in
the input: bytes that come next, none only at the end or for an empty buffer, and
an error for a skip that goes past the end and for no other. -/
def Correct (input : List UInt8) (position : Nat) : StreamRequest × StreamAnswer → Prop
  | (.read count, .read bytes) =>
    bytes = (input.drop position).take bytes.length ∧ bytes.length ≤ count ∧ position + bytes.length ≤ input.length ∧
      (bytes = [] → count = 0 ∨ position = input.length)
  | (.skip amount, .skipped) => position + amount.toNat ≤ input.length
  | (.skip amount, .threw _) => input.length < position + amount.toNat
  | _ => False

/-- Each request of a history is answered correctly at the position that the
ones before it led to, so that reads and skips tile the input from its start. -/
def Delivers (input : List UInt8) (history : List (StreamRequest × StreamAnswer)) : Prop :=
  ∀ past entry, past ++ [entry] <+: history → Correct input (position past) entry

/-- What is left of an input of this length after a request that stays in it. -/
def leftAfter (left : Nat) : StreamRequest → Nat
  | .read count => left - count
  | .skip amount => left - amount.toNat

/-- No skip goes past what is left. -/
def SkipsInside (length : Nat) (requests : List StreamRequest) : Prop :=
  EachStep leftAfter length (fun _ left request => ∀ amount, request = .skip amount → amount.toNat ≤ left) requests

variable {input : List UInt8} {history : List (StreamRequest × StreamAnswer)} {entry : StreamRequest × StreamAnswer}

theorem position_concat (history : List (StreamRequest × StreamAnswer)) (entry : StreamRequest × StreamAnswer) :
    position (history ++ [entry]) = position history + passed entry := by
  simp [position]

theorem delivers_nil (input : List UInt8) : Delivers input [] := by
  intro past entry here
  have length := here.length_le
  simp at length

theorem Delivers.concat (delivers : Delivers input history) (correct : Correct input (position history) entry) :
    Delivers input (history ++ [entry]) := by
  intro past last here
  rcases List.prefix_concat_iff.mp here with whole | inside
  · obtain ⟨rfl, same⟩ := List.append_inj' whole rfl
    rw [List.singleton_inj.mp same]
    exact correct
  · exact delivers past last inside

/-- The bytes of a read, wherever the stream keeps its position. -/
theorem correct_read (input : List UInt8) {position : Nat} (inside : position ≤ input.length) (count : Nat) :
    Correct input position (.read count, .read ((input.drop position).take count)) := by
  have lengths : ((input.drop position).take count).length = min count (input.length - position) := by
    rw [List.length_take, List.length_drop]
  refine ⟨?_, ?_, ?_, ?_⟩
  · rw [lengths, ← List.length_drop, List.take_eq_take_min]
  · omega
  · omega
  · intro empty
    rw [empty, List.length_nil] at lengths
    omega

namespace SignalInputStreamAdapter

/-- The adapter is at its position in the input, and keeps the promise. -/
structure At (input : List UInt8) (history : List (StreamRequest × StreamAnswer)) (stream : SignalInputStreamAdapter) :
    Prop where
  inner : stream.inner = input.drop (position history)
  inside : position history ≤ input.length
  delivers : Delivers input history

theorem At.perform {stream after : SignalInputStreamAdapter} {request : StreamRequest} {answer : StreamAnswer}
    (reached : At input history stream) (performed : stream.perform request = some (answer, after)) :
    At input (history ++ [(request, answer)]) after := by
  have left : stream.inner.length = input.length - position history := by rw [reached.inner, List.length_drop]
  have inside := reached.inside
  cases request with
  | read count =>
    obtain ⟨rfl, rfl⟩ := Prod.mk.inj (Option.some.inj performed)
    have read : (stream.read count).1 = (input.drop (position history)).take count := by
      unfold SignalInputStreamAdapter.read
      dsimp only
      rw [← List.take_eq_take_min, reached.inner]
    have length : (stream.read count).1.length = min count stream.inner.length := by
      rw [read, List.length_take, ← reached.inner]
    refine ⟨?_, ?_, ?_⟩
    · rw [position_concat, passed, length, ← List.drop_drop, ← reached.inner]
      rfl
    · rw [position_concat, passed, length]
      omega
    · refine reached.delivers.concat ?_
      rw [read]
      exact correct_read input inside count
  | skip amount =>
    unfold SignalInputStreamAdapter.perform SignalInputStreamAdapter.skip at performed
    by_cases behind : stream.inner.length < amount.toNat
    · simp only [if_pos behind] at performed
      obtain ⟨rfl, rfl⟩ := Prod.mk.inj (Option.some.inj performed)
      have stays : position (history ++ [(.skip amount, .threw .unexpectedEof)]) = position history :=
        position_concat history _
      refine ⟨by rw [stays, reached.inner], by rw [stays]; exact inside, reached.delivers.concat ?_⟩
      unfold Correct
      omega
    · simp only [if_neg behind] at performed
      obtain ⟨rfl, rfl⟩ := Prod.mk.inj (Option.some.inj performed)
      refine ⟨?_, ?_, reached.delivers.concat ?_⟩
      · rw [position_concat, passed, ← List.drop_drop, ← reached.inner]
      · rw [position_concat, passed]
        omega
      · unfold Correct
        omega

end SignalInputStreamAdapter

namespace FileHandle

/-- The handle is at its position in the file, as long as no skip went past
the end. -/
structure At (input : List UInt8) (history : List (StreamRequest × StreamAnswer)) (handle : FileHandle) : Prop where
  file : handle.file = input
  offset : handle.offsetInFile = position history
  inside : position history ≤ input.length

variable {handle : FileHandle}

theorem At.read (reached : At input history handle) (count : Nat) :
    (handle.read count).1 = (input.drop (position history)).take count ∧
      At input (history ++ [(.read count, .read (handle.read count).1)]) (handle.read count).2 := by
  have data : (handle.readData count).1 = (input.drop (position history)).take count := by
    unfold readData
    rw [reached.file, reached.offset]
  have read : (handle.read count).1 = (input.drop (position history)).take count := by
    unfold FileHandle.read
    dsimp only
    rw [data, List.take_take, Nat.min_self]
  have length : (handle.read count).1.length = min count (input.length - position history) := by
    rw [read, List.length_take, List.length_drop]
  have inside := reached.inside
  refine ⟨read, reached.file, ?_, ?_⟩
  · rw [position_concat, passed, read, ← data, ← reached.offset]
    rfl
  · rw [position_concat, passed, length]
    omega

theorem At.skip (reached : At input history handle) (fits : input.length ≤ intMax) {amount : UInt64}
    (inside : amount.toNat ≤ input.length - position history) :
    ∃ after, handle.perform (.skip amount) = some (.skipped, after) ∧
      At input (history ++ [(.skip amount, .skipped)]) after := by
  have start := reached.inside
  have bound : handle.offsetInFile + amount.toNat ≤ intMax := by
    rw [reached.offset]
    omega
  have small : handle.offsetInFile + amount.toNat < 2 ^ 64 := by
    unfold intMax at bound
    omega
  refine ⟨{ handle with offsetInFile := handle.offsetInFile + amount.toNat }, ?_, reached.file, ?_, ?_⟩
  · unfold FileHandle.perform FileHandle.skip seek
    dsimp only
    rw [if_pos small, if_pos bound]
    rfl
  · rw [position_concat, passed, reached.offset]
  · rw [position_concat, passed]
    omega

/-- A file handle never throws. -/
theorem perform_skip {amount : UInt64} {answer : StreamAnswer} {after : FileHandle}
    (performed : handle.perform (.skip amount) = some (answer, after)) : answer = .skipped := by
  obtain ⟨_, _, same⟩ := Option.map_eq_some_iff.mp performed
  exact (Prod.mk.inj same).1.symm

end FileHandle

/-- The two streams answer all requests alike, and keep the promise. -/
def StreamsAgree (input : ByteString) (requests : List StreamRequest) : Prop :=
  ∃ history stream handle,
    runCalls SignalInputStreamAdapter.perform (.init input) requests = some (history, stream) ∧
      runCalls FileHandle.perform (.openOn input) requests = some (history, handle) ∧ Delivers input.bytes history

theorem init_at (input : ByteString) : SignalInputStreamAdapter.At input.bytes [] (.init input) :=
  ⟨rfl, Nat.zero_le _, delivers_nil _⟩

theorem adapter_at {input : ByteString} {requests : List StreamRequest} {stream : SignalInputStreamAdapter}
    (run : runCalls SignalInputStreamAdapter.perform (.init input) requests = some (history, stream)) :
    SignalInputStreamAdapter.At input.bytes history stream :=
  runCalls_invariant (init_at input) (fun _ _ _ _ _ reached performed => reached.perform performed) run

/-- While all skips stay inside, the two streams stay at one position. -/
theorem runs_of_skipsInside {input : ByteString} {requests : List StreamRequest}
    (inside : SkipsInside input.bytes.length requests) :
    ∃ history stream handle,
      runCalls SignalInputStreamAdapter.perform (.init input) requests = some (history, stream) ∧
        runCalls FileHandle.perform (.openOn input) requests = some (history, handle) ∧
        FileHandle.At input.bytes history handle ∧
        requests.foldl leftAfter input.bytes.length = input.bytes.length - position history := by
  induction requests using List.reverseRecOn with
  | nil => exact ⟨[], _, _, rfl, rfl, ⟨rfl, rfl, Nat.zero_le _⟩, rfl⟩
  | append_singleton requests request ih =>
    obtain ⟨earlier, last⟩ := eachStep_concat_iff.mp inside
    obtain ⟨history, stream, handle, adapterRun, handleRun, atHandle, left⟩ := ih earlier
    have atStream := adapter_at adapterRun
    have lengths : stream.inner.length = input.bytes.length - position history := by
      rw [atStream.inner, List.length_drop]
    rw [left] at last
    cases request with
    | read count =>
      obtain ⟨read, after⟩ := atHandle.read count
      have same : (stream.read count).1 = (handle.read count).1 := by
        rw [read, ← atStream.inner]
        unfold SignalInputStreamAdapter.read
        dsimp only
        rw [← List.take_eq_take_min]
      refine ⟨history ++ [(.read count, .read (handle.read count).1)], (stream.read count).2, (handle.read count).2,
        runCalls_concat_eq_some_iff.mpr ⟨history, stream, _, adapterRun, ?_, rfl⟩,
        runCalls_concat_eq_some_iff.mpr ⟨history, handle, _, handleRun, rfl, rfl⟩, after, ?_⟩
      · rw [← same]
        rfl
      · have length : (handle.read count).1.length = min count (input.bytes.length - position history) := by
          rw [read, List.length_take, List.length_drop]
        rw [List.foldl_append, left, position_concat, passed, length]
        change input.bytes.length - position history - count = _
        omega
    | skip amount =>
      have fits := last amount rfl
      obtain ⟨handle', performed, after⟩ := atHandle.skip input.count_le fits
      refine ⟨history ++ [(.skip amount, .skipped)], { inner := stream.inner.drop amount.toNat }, handle',
        runCalls_concat_eq_some_iff.mpr ⟨history, stream, _, adapterRun, ?_, rfl⟩,
        runCalls_concat_eq_some_iff.mpr ⟨history, handle, _, handleRun, performed, rfl⟩, after, ?_⟩
      · unfold SignalInputStreamAdapter.perform SignalInputStreamAdapter.skip
        simp only [if_neg (show ¬ stream.inner.length < amount.toNat by omega)]
      · rw [List.foldl_append, left, position_concat, passed]
        change input.bytes.length - position history - amount.toNat = _
        omega

/-- A file handle is as good a stream as an adapter until a skip goes past the
end of the file: it throws no error there. -/
theorem streamsAgree_iff_skipsInside (input : ByteString) (requests : List StreamRequest) :
    StreamsAgree input requests ↔ SkipsInside input.bytes.length requests := by
  constructor
  · intro agree
    induction requests using List.reverseRecOn with
    | nil =>
      intro past request here
      have length := here.length_le
      simp at length
    | append_singleton requests request ih =>
      obtain ⟨history, stream, handle, adapterRun, handleRun, delivers⟩ := agree
      obtain ⟨before, stream', answer, adapterBefore, adapterLast, rfl⟩ := runCalls_concat_eq_some_iff.mp adapterRun
      obtain ⟨before', handle', answer', handleBefore, handleLast, same⟩ := runCalls_concat_eq_some_iff.mp handleRun
      obtain ⟨rfl, last⟩ := List.append_inj' same rfl
      obtain rfl := (Prod.mk.inj (List.singleton_inj.mp last)).2
      have earlier : SkipsInside input.bytes.length requests :=
        ih ⟨before, stream', handle', adapterBefore, handleBefore, fun past entry here =>
          delivers past entry (here.trans (List.prefix_append _ _))⟩
      refine eachStep_concat_iff.mpr ⟨earlier, ?_⟩
      rintro amount rfl
      obtain ⟨history, _, _, adapterBefore', _, _, left⟩ := runs_of_skipsInside earlier
      rw [adapterBefore] at adapterBefore'
      obtain ⟨rfl, _⟩ := Prod.mk.inj (Option.some.inj adapterBefore')
      have correct := delivers before (.skip amount, answer) List.prefix_rfl
      rw [FileHandle.perform_skip handleLast] at correct
      rw [left]
      have inside : position before + amount.toNat ≤ input.bytes.length := correct
      omega
  · intro inside
    obtain ⟨history, stream, handle, adapterRun, handleRun, _⟩ := runs_of_skipsInside inside
    exact ⟨history, stream, handle, adapterRun, handleRun, (adapter_at adapterRun).delivers⟩

/-- Two bytes are skipped of a file of one. -/
theorem streams_disagree_past_the_end : ¬ StreamsAgree ⟨[65], by decide⟩ [.skip 2] := by
  rintro ⟨history, stream, handle, adapterRun, handleRun, _⟩
  have adapter : runCalls SignalInputStreamAdapter.perform (.init ⟨[65], by decide⟩) [.skip 2] =
      some ([(.skip 2, .threw .unexpectedEof)], { inner := [65] }) := rfl
  have file : runCalls FileHandle.perform (.openOn ⟨[65], by decide⟩) [.skip 2] =
      some ([(.skip 2, .skipped)], { file := [65], offsetInFile := 2 }) := rfl
  rw [adapterRun] at adapter
  rw [handleRun] at file
  have one := (Prod.mk.inj (Option.some.inj adapter)).1
  have other := (Prod.mk.inj (Option.some.inj file)).1
  rw [one] at other
  cases other

end SignalPods.LibSignal
