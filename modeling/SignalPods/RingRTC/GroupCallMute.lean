import SignalPods.Machine.Reach
import SignalPods.Machine.History
import SignalPods.RingRTC.GroupCall

namespace SignalPods.RingRTC.GroupCall

open Machine

/-- The ops that touch the tracks or the mute flags. A connect that asks for a
client is given one. -/
inductive MediaOp
  | connect (media : FactoryMedia) (created : { clientId : ClientId // clientId ≠ invalidClientId })
  | join
  | leave
  | disconnect
  | setOutgoingAudioMuted (newValue : Bool)
  | setOutgoingVideoMuted (newValue : Bool)
  | setOutgoingAudioRemotelyMuted (source : DemuxId)
  | handleEnded (reason : CallEndReason)

def MediaOp.op : MediaOp → Op
  | .connect media created => .perform (.connect media created)
  | .join => .perform .join
  | .leave => .perform .leave
  | .disconnect => .perform .disconnect
  | .setOutgoingAudioMuted newValue => .perform (.setOutgoingAudioMuted newValue)
  | .setOutgoingVideoMuted newValue => .perform (.setOutgoingVideoMuted newValue)
  | .setOutgoingAudioRemotelyMuted source => .perform (.setOutgoingAudioRemotelyMuted source)
  | .handleEnded reason => .handle (.handleEnded reason)

def mediaStep (c : GroupCall) (op : MediaOp) : GroupCall := c.step op.op

/-- Whether the call is wanted after a connect or join, or was given up by a
leave or disconnect. -/
def MediaOp.wanted? : MediaOp → Option Bool
  | .connect _ _ | .join => some true
  | .leave | .disconnect => some false
  | _ => none

/-- The mute flags and the tracks agree with each other and with the history. -/
structure MuteCoherent (ops : List MediaOp) (c : GroupCall) : Prop where
  audioMuted : c.isOutgoingAudioMuted = true → ∀ track ∈ c.audioTrack, track.isEnabled = false
  videoMuted : c.isOutgoingVideoMuted = true → ∀ track ∈ c.videoTrack, track.isEnabled = false
  left : latest MediaOp.wanted? ops = some false →
    (∀ track ∈ c.audioTrack, track.isEnabled = false) ∧ ∀ track ∈ c.videoTrack, track.isEnabled = false
  live : c.clientId ≠ none → latest MediaOp.wanted? ops = some true →
    c.audioTrack.map (·.isEnabled) = some (!c.isOutgoingAudioMuted) ∧
      c.videoTrack.map (·.isEnabled) = some (!c.isOutgoingVideoMuted)

/-- In a call that was left with its client still there, the next step neither
unmutes nor comes back unmuted. -/
def StaysQuiet (ops : List MediaOp) (c : GroupCall) (op : MediaOp) : Prop :=
  c.clientId ≠ none → latest MediaOp.wanted? ops = some false →
    match op with
    | .connect _ _ | .join => c.isOutgoingAudioMuted = true ∧ c.isOutgoingVideoMuted = true
    | .setOutgoingAudioMuted newValue | .setOutgoingVideoMuted newValue => newValue = true
    | _ => True

/-- Tracks exist as long as the client does, and are enabled when the call is
wanted and not muted. -/
structure TracksFollow (ops : List MediaOp) (c : GroupCall) : Prop where
  absent : c.clientId = none → c.audioTrack = none ∧ c.videoTrack = none
  present : c.clientId ≠ none → ∃ wanted, latest MediaOp.wanted? ops = some wanted ∧
    c.audioTrack.map (·.isEnabled) = some (wanted && !c.isOutgoingAudioMuted) ∧
    c.videoTrack.map (·.isEnabled) = some (wanted && !c.isOutgoingVideoMuted)

theorem setTrackEnabled_isEnabled {track : Option Track} {before : Bool}
    (made : track.map (·.isEnabled) = some before) (enabled : Bool) :
    (setTrackEnabled enabled track).map (·.isEnabled) = some enabled := by
  obtain ⟨found, rfl, _⟩ := Option.map_eq_some_iff.mp made
  rfl

theorem disabled_of_map {track : Option Track} {enabled : Bool} (follows : track.map (·.isEnabled) = some enabled)
    (off : enabled = false) : ∀ found ∈ track, found.isEnabled = false := by
  intro found member
  rw [Option.mem_def.mp member, Option.map_some, off] at follows
  exact Option.some.inj follows

theorem TracksFollow.coherent {ops : List MediaOp} {c : GroupCall} (known : TracksFollow ops c) :
    MuteCoherent ops c := by
  cases client : c.clientId with
  | none =>
    obtain ⟨noAudio, noVideo⟩ := known.absent client
    constructor <;> simp [noAudio, noVideo, client]
  | some clientId =>
    obtain ⟨wanted, phase, audio, video⟩ := known.present (by simp [client])
    constructor
    · intro muted
      exact disabled_of_map audio (by simp [muted])
    · intro muted
      exact disabled_of_map video (by simp [muted])
    · intro left
      obtain rfl : wanted = false := Option.some.inj (phase.symm.trans left)
      exact ⟨disabled_of_map audio rfl, disabled_of_map video rfl⟩
    · intro _ live
      obtain rfl : wanted = true := Option.some.inj (phase.symm.trans live)
      exact ⟨audio, video⟩

theorem TracksFollow.of_absent (ops : List MediaOp) {c : GroupCall} (client : c.clientId = none)
    (noAudio : c.audioTrack = none) (noVideo : c.videoTrack = none) : TracksFollow ops c :=
  ⟨fun _ => ⟨noAudio, noVideo⟩, fun present => absurd client present⟩

theorem fresh_tracksFollow (settings : GroupCallSettings) : TracksFollow [] { settings } :=
  .of_absent [] rfl rfl rfl

/-- Without a client only a connect has tracks to make. -/
theorem TracksFollow.step_absent {ops : List MediaOp} {c : GroupCall} (known : TracksFollow ops c)
    (client : c.clientId = none) (op : MediaOp) : TracksFollow (ops ++ [op]) (c.mediaStep op) := by
  obtain ⟨noAudio, noVideo⟩ := known.absent client
  have nothing : ∀ body : ClientId → Outcome, TracksFollow (ops ++ [op]) (c.withClient body).call := by
    intro body
    rw [withClient_none client]
    exact .of_absent _ client noAudio noVideo
  cases op with
  | connect media created =>
    have after : c.mediaStep (.connect media created) = { c.makeTracks media with clientId := some created.val } := by
      simp only [mediaStep, MediaOp.op, step, apply, perform, connect_created client media created.property]
    rw [after]
    exact ⟨fun gone => by simp at gone, fun _ => ⟨true, by simp [MediaOp.wanted?], rfl, rfl⟩⟩
  | join | leave | disconnect | handleEnded => exact nothing _
  | setOutgoingAudioMuted | setOutgoingVideoMuted | setOutgoingAudioRemotelyMuted =>
    refine .of_absent _ client ?_ ?_ <;>
      simp [mediaStep, MediaOp.op, step, apply, perform, setOutgoingAudioMuted, setOutgoingVideoMuted,
        setOutgoingAudioRemotelyMuted, andTell, noAudio, noVideo, setTrackEnabled]

/-- With a client every op leaves the tracks as its own assignment says. -/
theorem TracksFollow.step_present {ops : List MediaOp} {c : GroupCall} {clientId : ClientId}
    (known : TracksFollow ops c) (client : c.clientId = some clientId) (op : MediaOp)
    (quiet : StaysQuiet ops c op) : TracksFollow (ops ++ [op]) (c.mediaStep op) := by
  have isPresent : c.clientId ≠ none := by simp [client]
  obtain ⟨wanted, phase, audio, video⟩ := known.present isPresent
  have stopped : ∀ effects : ClientId → List Effect, latest MediaOp.wanted? (ops ++ [op]) = some false →
      TracksFollow (ops ++ [op]) (c.withClient fun clientId => ⟨c.stopMedia, effects clientId, true⟩).call := by
    intro effects left
    rw [withClient_some client]
    exact ⟨fun gone => absurd gone isPresent, fun _ => ⟨false, left,
      setTrackEnabled_isEnabled audio false, setTrackEnabled_isEnabled video false⟩⟩
  have back : latest MediaOp.wanted? (ops ++ [op]) = some true →
      (wanted = false → c.isOutgoingAudioMuted = true ∧ c.isOutgoingVideoMuted = true) →
      TracksFollow (ops ++ [op]) c := by
    intro now muted
    refine ⟨fun gone => absurd gone isPresent, fun _ => ⟨true, now, ?_⟩⟩
    cases wanted with
    | true => exact ⟨audio, video⟩
    | false =>
      obtain ⟨audioMuted, videoMuted⟩ := muted rfl
      exact ⟨by simpa [audioMuted] using audio, by simpa [videoMuted] using video⟩
  have same : latest MediaOp.wanted? (ops ++ [op]) = (op.wanted?).or (some wanted) := by
    rw [latest_concat, phase]
  cases op with
  | connect media created =>
    rw [mediaStep, MediaOp.op, step, apply, perform, connect_existing client]
    exact back same fun left => quiet isPresent (left ▸ phase)
  | join =>
    rw [mediaStep, MediaOp.op, step, apply, perform, join, withClient_some client]
    exact back same fun left => quiet isPresent (left ▸ phase)
  | leave | disconnect => exact stopped _ same
  | setOutgoingAudioMuted newValue =>
    refine ⟨fun gone => absurd gone isPresent, fun _ => ⟨wanted, same, ?_, video⟩⟩
    refine (setTrackEnabled_isEnabled audio (!newValue)).trans ?_
    cases wanted with
    | true => rfl
    | false => rw [quiet isPresent phase]; rfl
  | setOutgoingVideoMuted newValue =>
    refine ⟨fun gone => absurd gone isPresent, fun _ => ⟨wanted, same, audio, ?_⟩⟩
    refine (setTrackEnabled_isEnabled video (!newValue)).trans ?_
    cases wanted with
    | true => rfl
    | false => rw [quiet isPresent phase]; rfl
  | setOutgoingAudioRemotelyMuted source =>
    refine ⟨fun gone => absurd gone isPresent, fun _ => ⟨wanted, same, ?_, video⟩⟩
    exact (setTrackEnabled_isEnabled audio false).trans (congrArg some (Bool.and_false wanted).symm)
  | handleEnded reason =>
    rw [mediaStep, MediaOp.op, step, apply, handle, handleEnded, withClient_some client]
    exact .of_absent _ rfl rfl rfl

theorem TracksFollow.step {ops : List MediaOp} {c : GroupCall} {op : MediaOp} (known : TracksFollow ops c)
    (quiet : StaysQuiet ops c op) : TracksFollow (ops ++ [op]) (c.mediaStep op) := by
  cases client : c.clientId with
  | none => exact known.step_absent client op
  | some clientId => exact known.step_present client op quiet

/-- Any other step leaves a live microphone or camera in a call that was left,
or a silent one in a call that was joined again. -/
theorem TracksFollow.broken {ops : List MediaOp} {c : GroupCall} {op : MediaOp} (known : TracksFollow ops c)
    (loud : ¬ StaysQuiet ops c op) : ¬ MuteCoherent (ops ++ [op]) (c.mediaStep op) := by
  simp only [StaysQuiet, not_forall] at loud
  obtain ⟨isPresent, phase, unmutes⟩ := loud
  obtain ⟨clientId, client⟩ := Option.ne_none_iff_exists'.mp isPresent
  obtain ⟨wanted, same, audio, video⟩ := known.present isPresent
  obtain rfl : wanted = false := Option.some.inj (same.symm.trans phase)
  have back : latest MediaOp.wanted? (ops ++ [op]) = some true →
      ¬ (c.isOutgoingAudioMuted = true ∧ c.isOutgoingVideoMuted = true) → ¬ MuteCoherent (ops ++ [op]) c := by
    intro now unmuted coherent
    obtain ⟨audioLive, videoLive⟩ := coherent.live isPresent now
    exact unmuted ⟨by simpa using audio.symm.trans audioLive, by simpa using video.symm.trans videoLive⟩
  have left : latest MediaOp.wanted? (ops ++ [op]) = (op.wanted?).or (some false) := by
    rw [latest_concat, phase]
  intro coherent
  cases op with
  | connect media created =>
    rw [mediaStep, MediaOp.op, GroupCall.step, apply, perform, connect_existing client] at coherent
    exact back left unmutes coherent
  | join =>
    rw [mediaStep, MediaOp.op, GroupCall.step, apply, perform, join, withClient_some client] at coherent
    exact back left unmutes coherent
  | setOutgoingAudioMuted newValue =>
    obtain ⟨track, made, enabled⟩ := Option.map_eq_some_iff.mp (setTrackEnabled_isEnabled audio (!newValue))
    have silent := (coherent.left left).1 track made
    rw [enabled] at silent
    exact unmutes (by simpa using silent)
  | setOutgoingVideoMuted newValue =>
    obtain ⟨track, made, enabled⟩ := Option.map_eq_some_iff.mp (setTrackEnabled_isEnabled video (!newValue))
    have silent := (coherent.left left).2 track made
    rw [enabled] at silent
    exact unmutes (by simpa using silent)
  | leave | disconnect | setOutgoingAudioRemotelyMuted | handleEnded => exact unmutes trivial

/-- Flags, tracks and history agree all along a run exactly when it never
unmutes, or comes back unmuted, in a call it left with the client still there. -/
theorem muteCoherent_iff_staysQuiet (settings : GroupCallSettings) (ops : List MediaOp) :
    Throughout mediaStep { settings } MuteCoherent ops ↔ EachStep mediaStep { settings } StaysQuiet ops :=
  throughout_iff_eachStep TracksFollow (fresh_tracksFollow settings) (fun _ _ known => known.coherent)
    (fun _ _ _ known quiet => known.step quiet) (fun _ _ _ known loud => known.broken loud) ops

/-- Leaving and joining again unmuted stays silent, and unmuting after having
left turns the microphone on. -/
theorem rejoin_is_silent_and_unmute_is_live :
    ¬ Throughout mediaStep { settings := ⟨.groupId [], "", none, [], none, 0, none, 0⟩ } MuteCoherent
        [.connect ⟨0, 1, 2⟩ ⟨7, by decide⟩, .leave, .join] ∧
      ¬ Throughout mediaStep { settings := ⟨.groupId [], "", none, [], none, 0, none, 0⟩ } MuteCoherent
        [.connect ⟨0, 1, 2⟩ ⟨7, by decide⟩, .leave, .setOutgoingAudioMuted false] := by
  constructor
  · intro all
    have live := ((all _ List.prefix_rfl).live (by decide) rfl).1
    exact absurd live (by decide)
  · intro all
    have silent := ((all _ List.prefix_rfl).left rfl).1 ⟨0, true⟩ rfl
    exact absurd silent (by decide)

end SignalPods.RingRTC.GroupCall
