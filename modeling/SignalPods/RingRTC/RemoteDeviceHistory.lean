import Mathlib.Data.List.DropRight
import SignalPods.Machine.History
import SignalPods.RingRTC.GroupCallRouting

namespace SignalPods.RingRTC

open Machine GroupCall

/-- The device list a callback reports. -/
def GroupCall.Op.report? : Op → Option (List RemoteDeviceState)
  | .handle (.handleRemoteDevicesChanged remoteDeviceStates) =>
    some (remoteDeviceStates.filterMap RemoteDeviceState.fromApp)
  | _ => none

def ReceivedAudioLevel.levelOf? (id : DemuxId) (received : ReceivedAudioLevel) : Option UInt16 :=
  if received.demuxId = id then some received.audioLevel else none

/-- The level a callback delivers for a device, the last one if there are several. -/
def GroupCall.Op.level? (id : DemuxId) : Op → Option UInt16
  | .handle (.handleAudioLevels _ receivedLevels) => latest (ReceivedAudioLevel.levelOf? id) receivedLevels
  | _ => none

def GroupCall.Op.track? (id : DemuxId) : Op → Option Nat
  | .handle (.handleIncomingVideoTrack remoteDemuxId videoTrack) =>
    if remoteDemuxId = id then some videoTrack else none
  | _ => none

/-- The last entry for a device in a report. -/
def lastEntry (id : DemuxId) (report : List RemoteDeviceState) : Option RemoteDeviceState :=
  latest (fun device => if device.demuxId = id then some device else none) report

/-- The devices of the most recent report. -/
def reported (ops : List Op) : List RemoteDeviceState := (latest Op.report? ops).getD []

/-- `present` are the ops since the report that brought the device in: it was
not there before and is in every report since. -/
def PresentSince (id : DemuxId) (ops present : List Op) : Prop :=
  ∃ before op report, ops = before ++ op :: present ∧ op.report? = some report ∧
    id ∈ report.map (·.demuxId) ∧ id ∉ (reported before).map (·.demuxId) ∧
    ∀ later ∈ present, ∀ report ∈ later.report?, id ∈ report.map (·.demuxId)

/-- The dictionary is what the ops since the last end make of it. -/
structure DeviceHistory (ops : List Op) (devices : DemuxId → Option RemoteDeviceState) : Prop where
  keys : ∀ id, devices id ≠ none ↔ id ∈ (reported ops).map (·.demuxId)
  value : ∀ id device, devices id = some device → device.demuxId = id ∧
    ∃ entry present, lastEntry id (reported ops) = some entry ∧ PresentSince id ops present ∧
      device = { entry with
        videoTrack := latest (Op.track? id) present
        audioLevel := (latest (Op.level? id) present).getD 0 }

/-- Tracks and levels for devices that are not there change nothing. -/
structure IgnoresAbsent (c : GroupCall) : Prop where
  track : ∀ id videoTrack, c.remoteDeviceStates id = none → (c.handleIncomingVideoTrack id videoTrack).call = c
  level : ∀ capturedLevel receivedLevels, (c.handleAudioLevels capturedLevel receivedLevels).call =
    (c.handleAudioLevels capturedLevel (receivedLevels.filter fun received =>
      (c.remoteDeviceStates received.demuxId).isSome)).call

def GroupCall.Op.isEnded : Op → Bool
  | .handle (.handleEnded _) => true
  | _ => false

/-- Whether there is a client, and the ops since the last one was ended. A
`handleEnded` that finds no client is refused and ends nothing. -/
def endStep (state : Bool × List Op) (op : Op) : Bool × List Op :=
  match op with
  | .handle (.handleEnded _) => (false, if state.1 then [] else state.2 ++ [op])
  | .perform (.connect _ created) => (state.1 || created != invalidClientId, state.2 ++ [op])
  | _ => (state.1, state.2 ++ [op])

def sinceEnd (ops : List Op) : List Op := (ops.foldl endStep (false, [])).2

theorem lastEntry_isSome_iff {id : DemuxId} {report : List RemoteDeviceState} :
    (lastEntry id report).isSome ↔ id ∈ report.map (·.demuxId) := by
  rw [lastEntry, latest_isSome_iff, List.mem_map]
  refine exists_congr fun device => and_congr_right fun _ => ?_
  split <;> simp [*]

/-- The history of one device: what is known of it after the ops. -/
def DeviceAt (id : DemuxId) (ops : List Op) : Option RemoteDeviceState → Prop
  | none => id ∉ (reported ops).map (·.demuxId)
  | some device => ∃ entry present, lastEntry id (reported ops) = some entry ∧ PresentSince id ops present ∧
      device = { entry with
        videoTrack := latest (Op.track? id) present
        audioLevel := (latest (Op.level? id) present).getD 0 }

/-- What an op that does not end the call does to one device. -/
def deviceStep (id : DemuxId) (device : Option RemoteDeviceState) (op : Op) : Option RemoteDeviceState :=
  match op.report? with
  | some report => (lastEntry id report).map (maintain device)
  | none => device.map fun device => { device with
      videoTrack := (op.track? id).or device.videoTrack
      audioLevel := (op.level? id).getD device.audioLevel }

theorem setAudioLevel_apply (devices : DemuxId → Option RemoteDeviceState) (received : ReceivedAudioLevel)
    (id : DemuxId) : setAudioLevel devices received id = (devices id).map fun device =>
      { device with audioLevel := (received.levelOf? id).getD device.audioLevel } := by
  unfold setAudioLevel ReceivedAudioLevel.levelOf?
  by_cases same : received.demuxId = id
  · subst same
    cases found : devices received.demuxId <;> simp [found]
  · cases devices received.demuxId <;> simp [same, Function.update_of_ne (Ne.symm same)]

theorem foldl_setAudioLevel (received : List ReceivedAudioLevel) (devices : DemuxId → Option RemoteDeviceState)
    (id : DemuxId) : received.foldl setAudioLevel devices id = (devices id).map fun device =>
      { device with audioLevel := (latest (ReceivedAudioLevel.levelOf? id) received).getD device.audioLevel } := by
  induction received using List.reverseRecOn with
  | nil => simp
  | append_singleton received last ih =>
    rw [List.foldl_append, List.foldl_cons, List.foldl_nil, setAudioLevel_apply, ih, Option.map_map, latest_concat]
    cases last.levelOf? id <;> rfl

theorem deviceStep_silent {id : DemuxId} {op : Op} (noReport : op.report? = none) (noTrack : op.track? id = none)
    (noLevel : op.level? id = none) (device : Option RemoteDeviceState) : deviceStep id device op = device := by
  cases device <;> simp [deviceStep, noReport, noTrack, noLevel]

/-- Whether the op takes the client away. -/
def GroupCall.ends (c : GroupCall) : Op → Bool
  | .handle (.handleEnded _) => c.clientId.isSome
  | _ => false

theorem GroupCall.handleRemoteDevicesChanged_apply (c : GroupCall) (remoteDeviceStates : List RemoteDeviceState)
    (id : DemuxId) : (c.handleRemoteDevicesChanged remoteDeviceStates).call.remoteDeviceStates id =
      (lastEntry id remoteDeviceStates).map (maintain (c.remoteDeviceStates id)) := by
  have same : ∀ device : RemoteDeviceState,
      (if device.demuxId = id then some (maintain (c.remoteDeviceStates device.demuxId) device) else none) =
        (if device.demuxId = id then some device else none).map (maintain (c.remoteDeviceStates id)) := by
    intro device
    split
    · rename_i here; rw [here]; rfl
    · rfl
  rw [lastEntry, ← latest_map, ← funext same]
  exact (foldl_update_eq_latest RemoteDeviceState.demuxId _ _ _ id).trans (Option.or_none ..)

theorem GroupCall.handleIncomingVideoTrack_apply (c : GroupCall) (remoteDemuxId : DemuxId) (videoTrack : Nat) (id : DemuxId) :
    (c.handleIncomingVideoTrack remoteDemuxId videoTrack).call.remoteDeviceStates id =
      deviceStep id (c.remoteDeviceStates id) (.handle (.handleIncomingVideoTrack remoteDemuxId videoTrack)) := by
  unfold handleIncomingVideoTrack
  by_cases same : remoteDemuxId = id
  · subst same
    split <;> simp_all [deviceStep, Op.report?, Op.track?, Op.level?, notify]
  · have other : Op.track? id (.handle (.handleIncomingVideoTrack remoteDemuxId videoTrack)) = none := if_neg same
    rw [deviceStep_silent rfl other rfl]
    split
    · rfl
    · exact Function.update_of_ne (Ne.symm same) _ _

/-- Device by device, every op but an end acts on the old entry alone. -/
theorem GroupCall.step_remoteDeviceStates {c : GroupCall} {op : Op} (goesOn : c.ends op = false) (id : DemuxId) :
    (c.step op).remoteDeviceStates id = deviceStep id (c.remoteDeviceStates id) op := by
  cases op with
  | perform method =>
    rw [deviceStep_silent rfl rfl rfl]
    exact congrFun (c.perform_reported method).2.1 id
  | handle callback =>
    cases callback with
    | handleRemoteDevicesChanged remoteDeviceStates => exact c.handleRemoteDevicesChanged_apply _ id
    | handleAudioLevels capturedLevel receivedLevels => exact foldl_setAudioLevel receivedLevels _ id
    | handleIncomingVideoTrack remoteDemuxId videoTrack => exact c.handleIncomingVideoTrack_apply _ _ id
    | handleEnded reason =>
      rw [deviceStep_silent rfl rfl rfl, step, apply, handle, handleEnded, withClient_none]
      simpa [ends] using goesOn
    | _ => rw [deviceStep_silent rfl rfl rfl]; rfl

theorem reported_concat (ops : List Op) (op : Op) :
    reported (ops ++ [op]) = match op.report? with
      | some report => report
      | none => reported ops := by
  rw [reported, latest_concat]
  cases op.report? <;> rfl

theorem lastEntry_mem {id : DemuxId} {report : List RemoteDeviceState} {entry : RemoteDeviceState}
    (last : lastEntry id report = some entry) : entry ∈ report ∧ entry.demuxId = id := by
  obtain ⟨before, device, after, rfl, here, _⟩ := (latest_eq_some_iff _).mp last
  split at here
  · cases here
    exact ⟨by simp, by assumption⟩
  · cases here

/-- Objects made from a report have neither a track nor a level yet. -/
theorem report_fresh {op : Op} {report : List RemoteDeviceState} (isReport : op.report? = some report)
    {entry : RemoteDeviceState} (member : entry ∈ report) : entry.videoTrack = none ∧ entry.audioLevel = 0 := by
  unfold Op.report? at isReport
  split at isReport
  · cases isReport
    obtain ⟨device, _, made⟩ := List.mem_filterMap.mp member
    obtain ⟨userId, _, rfl⟩ := Option.map_eq_some_iff.mp made
    exact ⟨rfl, rfl⟩
  · cases isReport

theorem PresentSince.goesOn {id : DemuxId} {ops present : List Op} (since : PresentSince id ops present) {op : Op}
    (listed : ∀ report ∈ op.report?, id ∈ report.map (·.demuxId)) :
    PresentSince id (ops ++ [op]) (present ++ [op]) := by
  obtain ⟨before, first, report, rfl, isReport, member, absent, later⟩ := since
  refine ⟨before, first, report, by simp, isReport, member, absent, ?_⟩
  intro next inside
  rcases List.mem_append.mp inside with old | new
  · exact later next old
  · rw [List.mem_singleton.mp new]; exact listed

/-- One op keeps the history of one device. -/
theorem DeviceAt.step {id : DemuxId} {ops : List Op} {device : Option RemoteDeviceState} (known : DeviceAt id ops device)
    (op : Op) : DeviceAt id (ops ++ [op]) (deviceStep id device op) := by
  cases isReport : op.report? with
  | some report =>
    have now : reported (ops ++ [op]) = report := by rw [reported_concat, isReport]
    have silent : op.track? id = none ∧ op.level? id = none := by
      unfold Op.report? at isReport
      split at isReport
      · exact ⟨rfl, rfl⟩
      · cases isReport
    simp only [deviceStep, isReport]
    cases last : lastEntry id report with
    | none =>
      rw [Option.map_none, DeviceAt, now, ← lastEntry_isSome_iff, last]
      simp
    | some entry =>
      have member : id ∈ report.map (·.demuxId) := lastEntry_isSome_iff.mp (by rw [last]; rfl)
      rw [← now] at last
      cases device with
      | none =>
        obtain ⟨noTrack, noLevel⟩ := report_fresh isReport (now ▸ (lastEntry_mem last).1)
        refine ⟨entry, [], last, ⟨ops, op, report, rfl, isReport, member, known, by simp⟩, ?_⟩
        simp only [maintain, latest_nil, Option.getD_none, ← noTrack, ← noLevel]
      | some device =>
        obtain ⟨old, present, _, since, rfl⟩ := known
        refine ⟨entry, present ++ [op], last, since.goesOn (by simpa [isReport] using member), ?_⟩
        simp only [maintain, latest_concat, silent.1, silent.2, Option.none_or]
  | none =>
    have now : reported (ops ++ [op]) = reported ops := by rw [reported_concat, isReport]
    simp only [deviceStep, isReport]
    cases device with
    | none => rwa [Option.map_none, DeviceAt, now]
    | some device =>
      obtain ⟨entry, present, last, since, rfl⟩ := known
      refine ⟨entry, present ++ [op], now ▸ last, since.goesOn (by simp [isReport]), ?_⟩
      simp only [latest_concat]
      cases op.level? id <;> rfl

theorem DeviceHistory.of_deviceAt {ops : List Op} {devices : DemuxId → Option RemoteDeviceState}
    (known : ∀ id, DeviceAt id ops (devices id)) : DeviceHistory ops devices := by
  constructor
  · intro id
    have here := known id
    cases found : devices id with
    | none =>
      rw [found] at here
      simp only [ne_eq, not_true_eq_false, false_iff]
      exact here
    | some device =>
      rw [found] at here
      obtain ⟨entry, present, last, _⟩ := here
      simp only [ne_eq, reduceCtorEq, not_false_eq_true, true_iff]
      exact lastEntry_isSome_iff.mp (by rw [last]; rfl)
  · intro id device found
    have here := known id
    rw [found] at here
    obtain ⟨entry, present, last, since, rfl⟩ := here
    exact ⟨(lastEntry_mem last).2, entry, present, last, since, rfl⟩

theorem GroupCall.ignoresAbsent (c : GroupCall) : IgnoresAbsent c := by
  constructor
  · intro id videoTrack absent
    simp only [handleIncomingVideoTrack, absent]
  · intro capturedLevel receivedLevels
    have same : receivedLevels.foldl setAudioLevel c.remoteDeviceStates = (receivedLevels.filter fun received =>
        (c.remoteDeviceStates received.demuxId).isSome).foldl setAudioLevel c.remoteDeviceStates := by
      funext id
      rw [foldl_setAudioLevel, foldl_setAudioLevel]
      cases found : c.remoteDeviceStates id with
      | none => rfl
      | some device =>
        have kept : (receivedLevels.filter fun received =>
            (c.remoteDeviceStates received.demuxId).isSome).filterMap (ReceivedAudioLevel.levelOf? id) =
            receivedLevels.filterMap (ReceivedAudioLevel.levelOf? id) := by
          rw [List.filterMap_filter]
          refine List.filterMap_congr fun received _ => ?_
          by_cases here : received.demuxId = id
          · simp [here, found]
          · simp [ReceivedAudioLevel.levelOf?, here]
        rw [latest, latest, kept]
    simp only [handleAudioLevels, same]

theorem GroupCall.step_ends {c : GroupCall} {op : Op} (ends : c.ends op = true) : c.step op = c.reset := by
  unfold GroupCall.ends at ends
  split at ends
  · obtain ⟨clientId, client⟩ := Option.isSome_iff_exists.mp ends
    rw [step, apply, handle, handleEnded, withClient_some client]
  · cases ends

theorem endStep_since (c : GroupCall) (since : List Op) (op : Op) :
    (endStep (c.clientId.isSome, since) op).2 = if c.ends op then [] else since ++ [op] := by
  unfold endStep GroupCall.ends
  split <;> simp

theorem endStep_client (c : GroupCall) (since : List Op) (op : Op) :
    (endStep (c.clientId.isSome, since) op).1 = (c.step op).clientId.isSome := by
  unfold endStep
  split
  · rw [step, apply, handle, handleEnded, withClient_call]
    split
    · rfl
    · rename_i absent
      exact (Bool.not_eq_true _ ▸ absent).symm
  · rename_i media created
    simp only [step, apply, perform]
    cases client : c.clientId with
    | some clientId => rw [connect_existing client, client]; rfl
    | none =>
      by_cases failed : created = invalidClientId
      · rw [failed, connect_failed client]
        simp [makeTracks, client]
      · rw [connect_created client media failed]
        simp [failed]
  · rename_i notEnded notConnect
    rcases c.apply_cases op with quiet | ⟨media, created, rfl, _⟩ | ⟨reason, _, rfl, _⟩
    · exact congrArg Option.isSome quiet.1.symm
    · exact absurd rfl (notConnect media created)
    · exact absurd rfl (notEnded reason)

/-- What the ops say of the client and the devices is so. -/
theorem GroupCall.foldl_history (settings : GroupCallSettings) (ops : List Op) :
    (ops.foldl endStep (false, [])).1 = (ops.foldl GroupCall.step { settings }).clientId.isSome ∧
      ∀ id, DeviceAt id (sinceEnd ops) ((ops.foldl GroupCall.step { settings }).remoteDeviceStates id) := by
  induction ops using List.reverseRecOn with
  | nil => exact ⟨rfl, fun id => by simp [DeviceAt, sinceEnd, reported]⟩
  | append_singleton ops op ih =>
    obtain ⟨client, devices⟩ := ih
    rw [sinceEnd, List.foldl_append, List.foldl_append, List.foldl_cons, List.foldl_nil, List.foldl_cons,
      List.foldl_nil]
    generalize before : ops.foldl GroupCall.step { settings } = c at client devices ⊢
    have known : ops.foldl endStep (false, []) = (c.clientId.isSome, sinceEnd ops) := Prod.ext client rfl
    rw [known]
    refine ⟨endStep_client c _ op, fun id => ?_⟩
    rw [endStep_since]
    cases ends : c.ends op with
    | true => simp [step_ends ends, GroupCall.reset, DeviceAt, reported]
    | false =>
      rw [step_remoteDeviceStates ends id]
      exact (devices id).step op

theorem GroupCall.foldl_endStep (settings : GroupCallSettings) (ops : List Op) :
    ops.foldl endStep (false, []) =
      ((ops.foldl GroupCall.step { settings }).clientId.isSome, sinceEnd ops) :=
  Prod.ext (foldl_history settings ops).1 rfl

/-- Through the call manager every `handleEnded` finds the client it is about,
so that each one is an end. -/
theorem World.sinceEnd_eq {Ref : Type*} [DecidableEq Ref] {settings : Ref → GroupCallSettings}
    {events : List (Event Ref)} {w : World Ref} (reach : Reach Step (fresh settings) events w) (g : Ref) :
    sinceEnd (w.appliedTo g) = (w.appliedTo g).rtakeWhile (!·.isEnded) := by
  induction reach with
  | start => rfl
  | @next events before event after previous run ih =>
    have applied : ∀ target op, (before.calls target).ends op = op.isEnded →
        sinceEnd ((before.apply target op).appliedTo g) =
          ((before.apply target op).appliedTo g).rtakeWhile (!·.isEnded) := by
      intro target op same
      rw [appliedTo_apply]
      split
      · rename_i here
        subst here
        rw [sinceEnd, List.foldl_append, foldl_endStep (settings target), ← calls_eq_foldl previous, List.foldl_cons,
          List.foldl_nil, endStep_since, List.rtakeWhile_concat, same, ih]
        cases op.isEnded <;> rfl
      · rwa [List.append_nil]
    obtain ⟨_, rfl⟩ := run
    cases event with
    | perform target method => exact applied target _ rfl
    | deliver clientId callback =>
      cases owner : before.groupCallByClientId clientId with
      | none => rwa [next_deliver_unowned owner]
      | some target =>
        rw [next_deliver_owned owner]
        refine applied target _ ?_
        have client := ((coherent_of_reach previous).owned clientId target).mp owner
        cases callback <;> simp [GroupCall.ends, Op.isEnded, client]

/-- The remote devices of a call are what its history since the last end says,
whatever is done to the call, and in any run of the calls of a call manager the
last end is the last `handleEnded`. -/
theorem remoteDeviceStates_follow_history {Ref : Type*} [DecidableEq Ref] {settings : Ref → GroupCallSettings}
    {events : List (World.Event Ref)} {w : World Ref}
    (reach : Reach World.Step (World.fresh settings) events w) (g : Ref) :
    (∀ ops : List Op, DeviceHistory (sinceEnd ops) (ops.foldl step { settings := settings g }).remoteDeviceStates ∧
      IgnoresAbsent (ops.foldl step { settings := settings g })) ∧
    DeviceHistory ((w.appliedTo g).rtakeWhile (!·.isEnded)) (w.calls g).remoteDeviceStates ∧
    IgnoresAbsent (w.calls g) := by
  have history : ∀ ops : List Op,
      DeviceHistory (sinceEnd ops) (ops.foldl step { settings := settings g }).remoteDeviceStates :=
    fun ops => .of_deviceAt (foldl_history (settings g) ops).2
  refine ⟨fun ops => ⟨history ops, ignoresAbsent _⟩, ?_, ignoresAbsent _⟩
  rw [← World.sinceEnd_eq reach, World.calls_eq_foldl reach]
  exact history _

/-- One call whose report and track are delivered to it. -/
theorem remoteDeviceStates_follow_history_report :
    let w := (((World.fresh fun _ : Unit => ⟨.groupId [], "", none, [], none, 0, none, 0⟩).next
      (.perform () (.connect ⟨0, 1, 2⟩ 7))).next
      (.deliver 7 (.handleRemoteDevicesChanged [⟨5, some 1, true, none, none, none, none, 0, 0, none, false⟩]))).next
      (.deliver 7 (.handleIncomingVideoTrack 5 9))
    DeviceHistory ((w.appliedTo ()).rtakeWhile (!·.isEnded)) (w.calls ()).remoteDeviceStates :=
  (remoteDeviceStates_follow_history (World.reach_next
    (World.reach_next (World.reach_next .start (.perform () (.connect ⟨0, 1, 2⟩ 7)) (Or.inr rfl))
      (.deliver 7 (.handleRemoteDevicesChanged [⟨5, some 1, true, none, none, none, none, 0, 0, none, false⟩])) trivial)
    (.deliver 7 (.handleIncomingVideoTrack 5 9)) trivial) ()).2.1

end SignalPods.RingRTC
