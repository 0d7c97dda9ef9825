import Mathlib.Logic.Function.Basic
import SignalPods.RingRTC.GroupCallData

namespace SignalPods.RingRTC

/-- The `let` properties of a group call. -/
structure GroupCallSettings where
  connectInfo : ConnectInfo
  sfuUrl : String
  endorsementPublicKey : Option Data
  hkdfExtraInfo : Data
  audioLevelsIntervalMillis : Option UInt64
  dredDuration : UInt8
  svcConfig : Option SvcConfig
  /-- Which `VideoCaptureController` the call was given. Calls may share one. -/
  videoCaptureController : Nat
  deriving DecidableEq, Repr

structure GroupCall where
  settings : GroupCallSettings
  clientId : Option ClientId := none
  localDeviceState : LocalDeviceState := {}
  remoteDeviceStates : DemuxId → Option RemoteDeviceState := fun _ => none
  peekInfo : Option PeekInfo := none
  audioTrack : Option Track := none
  videoTrack : Option Track := none
  isOutgoingAudioMuted : Bool := false
  isOutgoingVideoMuted : Bool := false

/-- What a method does outside its own object. -/
inductive Effect
  /-- `groupCallByClientId[clientId] = self`, or `= nil`. -/
  | register (clientId : ClientId) (present : Bool)
  /-- `videoCaptureController.capturerDelegate = videoSource`. -/
  | capturerDelegate (videoSource : Nat)
  | native (call : NativeCall)
  | delegate (call : DelegateCall)
  deriving DecidableEq, Repr

/-- The object after a method, its effects in the order of the source, and the
value `connect` returns. -/
structure Outcome where
  call : GroupCall
  effects : List Effect
  returned : Bool := true

namespace GroupCall

def invalidClientId : ClientId := 0

/-- Most methods start by looking for a client and do nothing without one. -/
def withClient (c : GroupCall) (body : ClientId → Outcome) : Outcome :=
  match c.clientId with
  | none => ⟨c, [], false⟩
  | some clientId => body clientId

theorem withClient_none {c : GroupCall} (client : c.clientId = none) (body : ClientId → Outcome) :
    c.withClient body = ⟨c, [], false⟩ := by
  simp only [withClient, client]

theorem withClient_some {c : GroupCall} {clientId : ClientId} (client : c.clientId = some clientId)
    (body : ClientId → Outcome) : c.withClient body = body clientId := by
  simp only [withClient, client]

theorem withClient_call (c after : GroupCall) (effects : ClientId → List Effect) :
    (c.withClient fun clientId => ⟨after, effects clientId, true⟩).call =
      if c.clientId.isSome then after else c := by
  cases client : c.clientId with
  | none => simp [withClient_none client]
  | some clientId => simp [withClient_some client]

def setTrackEnabled (enabled : Bool) (track : Option Track) : Option Track :=
  track.map ({ · with isEnabled := enabled })

def createClient (c : GroupCall) (media : FactoryMedia) (created : ClientId) : NativeCall :=
  let arguments : ClientArguments :=
    { sfuUrl := c.settings.sfuUrl
      hkdfExtraInfo := c.settings.hkdfExtraInfo
      audioLevelsIntervalMillis := c.settings.audioLevelsIntervalMillis.getD 0
      dredDuration := c.settings.dredDuration
      svcConfig := c.settings.svcConfig
      audioTrack := media.audioTrack
      videoTrack := media.videoTrack }
  match c.settings.connectInfo with
  | .groupId groupId => .createGroupCallClient groupId arguments created
  | .callLink authCredentialPresentation rootKey adminPasskey =>
    .createCallLinkCallClient c.settings.endorsementPublicKey authCredentialPresentation rootKey adminPasskey
      arguments created

/-- The tracks made for a new client start in the current mute state. -/
def makeTracks (c : GroupCall) (media : FactoryMedia) : GroupCall :=
  { c with
    audioTrack := some ⟨media.audioTrack, !c.isOutgoingAudioMuted⟩
    videoTrack := some ⟨media.videoTrack, !c.isOutgoingVideoMuted⟩ }

/-- `media` are the objects the factory makes and `created` is the id native
code answers with, if this call asks for them at all. -/
def connect (c : GroupCall) (media : FactoryMedia) (created : ClientId) : Outcome :=
  match c.clientId with
  | some clientId => ⟨c, [.native (.connect clientId)], true⟩
  | none =>
    let creating : List Effect :=
      [.capturerDelegate media.videoSource, .native (c.createClient media created)]
    if created ≠ invalidClientId then
      ⟨{ c.makeTracks media with clientId := some created },
        creating ++ [.register created true,
          .native (.setOutgoingAudioMuted created c.isOutgoingAudioMuted),
          .native (.setOutgoingVideoMuted created c.isOutgoingVideoMuted),
          .native (.connect created)], true⟩
    else
      -- the new tracks and the capturer's delegate stay behind
      ⟨c.makeTracks media, creating, false⟩

theorem connect_existing {c : GroupCall} {clientId : ClientId} (client : c.clientId = some clientId)
    (media : FactoryMedia) (created : ClientId) :
    c.connect media created = ⟨c, [.native (.connect clientId)], true⟩ := by
  simp only [connect, client]

theorem connect_failed {c : GroupCall} (client : c.clientId = none) (media : FactoryMedia) :
    c.connect media invalidClientId = ⟨c.makeTracks media,
      [.capturerDelegate media.videoSource, .native (c.createClient media invalidClientId)], false⟩ := by
  simp only [connect, client, ne_eq, not_true_eq_false, if_false]

theorem connect_created {c : GroupCall} (client : c.clientId = none) (media : FactoryMedia) {created : ClientId}
    (valid : created ≠ invalidClientId) :
    c.connect media created = ⟨{ c.makeTracks media with clientId := some created },
      [.capturerDelegate media.videoSource, .native (c.createClient media created), .register created true,
        .native (.setOutgoingAudioMuted created c.isOutgoingAudioMuted),
        .native (.setOutgoingVideoMuted created c.isOutgoingVideoMuted), .native (.connect created)], true⟩ := by
  simp only [connect, client, if_pos valid, List.cons_append, List.nil_append]

def join (c : GroupCall) : Outcome :=
  c.withClient fun clientId => ⟨c, [.native (.join clientId)], true⟩

def stopMedia (c : GroupCall) : GroupCall :=
  { c with
    audioTrack := setTrackEnabled false c.audioTrack
    videoTrack := setTrackEnabled false c.videoTrack }

def leave (c : GroupCall) : Outcome :=
  c.withClient fun clientId => ⟨c.stopMedia, [.native (.leave clientId)], true⟩

def disconnect (c : GroupCall) : Outcome :=
  c.withClient fun clientId => ⟨c.stopMedia, [.native (.disconnect clientId)], true⟩

def request (c : GroupCall) (request : Request) : Outcome :=
  c.withClient fun clientId => ⟨c, [.native (.request clientId request)], true⟩

/-- The mute setters write their flag and track first, client or not. -/
def andTell (c : GroupCall) (call : ClientId → NativeCall) : Outcome :=
  ⟨c, c.clientId.toList.map fun clientId => .native (call clientId), true⟩

def setOutgoingAudioMuted (c : GroupCall) (newValue : Bool) : Outcome :=
  { c with
    isOutgoingAudioMuted := newValue
    audioTrack := setTrackEnabled (!newValue) c.audioTrack }.andTell
    (.setOutgoingAudioMuted · newValue)

def setOutgoingAudioRemotelyMuted (c : GroupCall) (source : DemuxId) : Outcome :=
  { c with
    isOutgoingAudioMuted := true
    audioTrack := setTrackEnabled false c.audioTrack }.andTell
    (.setOutgoingAudioMutedRemotely · source)

def setOutgoingVideoMuted (c : GroupCall) (newValue : Bool) : Outcome :=
  { c with
    isOutgoingVideoMuted := newValue
    videoTrack := setTrackEnabled (!newValue) c.videoTrack }.andTell
    (.setOutgoingVideoMuted · newValue)

/-- A handler that changes the object and then tells the delegate. -/
def notify (c : GroupCall) (call : DelegateCall) : Outcome := ⟨c, [.delegate call], true⟩

def requestMembershipProof (c : GroupCall) : Outcome := c.notify .requestMembershipProof

def requestGroupMembers (c : GroupCall) : Outcome := c.notify .requestGroupMembers

def handleConnectionStateChanged (c : GroupCall) (connectionState : ConnectionState) : Outcome :=
  { c with localDeviceState := { c.localDeviceState with connectionState } }.notify .onLocalDeviceStateChanged

def handleNetworkRouteChanged (c : GroupCall) (networkRoute : NetworkRoute) : Outcome :=
  { c with localDeviceState := { c.localDeviceState with networkRoute } }.notify .onLocalDeviceStateChanged

def setAudioLevel (devices : DemuxId → Option RemoteDeviceState) (received : ReceivedAudioLevel) :
    DemuxId → Option RemoteDeviceState :=
  match devices received.demuxId with
  | none => devices
  | some device =>
    Function.update devices received.demuxId (some { device with audioLevel := received.audioLevel })

def handleAudioLevels (c : GroupCall) (capturedLevel : UInt16) (receivedLevels : List ReceivedAudioLevel) :
    Outcome :=
  { c with
    localDeviceState := { c.localDeviceState with audioLevel := capturedLevel }
    remoteDeviceStates := receivedLevels.foldl setAudioLevel c.remoteDeviceStates }.notify .onAudioLevels

def handleLowBandwidthForVideo (c : GroupCall) (recovered : Bool) : Outcome :=
  c.notify (.onLowBandwidthForVideo recovered)

def handleReactions (c : GroupCall) (reactions : List Reaction) : Outcome := c.notify (.onReactions reactions)

def handleRaisedHands (c : GroupCall) (raisedHands : List DemuxId) : Outcome :=
  c.notify (.onRaisedHands raisedHands)

def handleJoinStateChanged (c : GroupCall) (joinState : JoinState) (demuxId : Option DemuxId) : Outcome :=
  { c with localDeviceState := { c.localDeviceState with joinState, demuxId } }.notify .onLocalDeviceStateChanged

/-- A device that was there before passes on its track and its level. -/
def maintain (existing : Option RemoteDeviceState) (device : RemoteDeviceState) : RemoteDeviceState :=
  match existing with
  | none => device
  | some existing => { device with videoTrack := existing.videoTrack, audioLevel := existing.audioLevel }

def handleRemoteDevicesChanged (c : GroupCall) (remoteDeviceStates : List RemoteDeviceState) : Outcome :=
  let remoteDeviceByDemuxId : DemuxId → Option RemoteDeviceState :=
    remoteDeviceStates.foldl (fun byDemuxId device =>
      Function.update byDemuxId device.demuxId (some (maintain (c.remoteDeviceStates device.demuxId) device)))
      fun _ => none
  { c with remoteDeviceStates := remoteDeviceByDemuxId }.notify .onRemoteDeviceStatesChanged

def handleIncomingVideoTrack (c : GroupCall) (remoteDemuxId : DemuxId) (videoTrack : Nat) : Outcome :=
  match c.remoteDeviceStates remoteDemuxId with
  | none => ⟨c, [], true⟩
  | some device =>
    { c with
      remoteDeviceStates := Function.update c.remoteDeviceStates remoteDemuxId
        (some { device with videoTrack := some videoTrack }) }.notify .onRemoteDeviceStatesChanged

def handlePeekChanged (c : GroupCall) (peekInfo : PeekInfo) : Outcome :=
  { c with peekInfo := some peekInfo }.notify .onPeekChanged

/-- What is left of a call whose client is gone. -/
def reset (c : GroupCall) : GroupCall :=
  { c with
    clientId := none
    localDeviceState := {}
    remoteDeviceStates := fun _ => none
    peekInfo := none
    audioTrack := none
    videoTrack := none }

def handleEnded (c : GroupCall) (reason : CallEndReason) : Outcome :=
  c.withClient fun clientId =>
    ⟨c.reset,
      [.register clientId false, .native (.deleteGroupCallClient clientId), .delegate (.onEnded reason)], true⟩

def handleSpeakingNotification (c : GroupCall) (event : SpeechEvent) : Outcome :=
  c.notify (.onSpeakingNotification event)

def handleRemoteMuteRequest (c : GroupCall) (muteSource : DemuxId) : Outcome :=
  c.notify (.onRemoteMuteRequest muteSource)

def handleObservedRemoteMute (c : GroupCall) (muteSource muteTarget : DemuxId) : Outcome :=
  c.notify (.onObservedRemoteMute muteSource muteTarget)

/-- The methods an application calls. -/
inductive Method
  | connect (media : FactoryMedia) (created : ClientId)
  | join
  | leave
  | disconnect
  | request (request : Request)
  | setOutgoingAudioMuted (newValue : Bool)
  | setOutgoingVideoMuted (newValue : Bool)
  | setOutgoingAudioRemotelyMuted (source : DemuxId)

def perform (c : GroupCall) : Method → Outcome
  | .connect media created => c.connect media created
  | .join => c.join
  | .leave => c.leave
  | .disconnect => c.disconnect
  | .request request => c.request request
  | .setOutgoingAudioMuted newValue => c.setOutgoingAudioMuted newValue
  | .setOutgoingVideoMuted newValue => c.setOutgoingVideoMuted newValue
  | .setOutgoingAudioRemotelyMuted source => c.setOutgoingAudioRemotelyMuted source

/-- The callbacks of native code. -/
inductive Callback
  | requestMembershipProof
  | requestGroupMembers
  | handleConnectionStateChanged (connectionState : ConnectionState)
  | handleNetworkRouteChanged (networkRoute : NetworkRoute)
  | handleAudioLevels (capturedLevel : UInt16) (receivedLevels : List ReceivedAudioLevel)
  | handleLowBandwidthForVideo (recovered : Bool)
  | handleReactions (reactions : List Reaction)
  | handleRaisedHands (raisedHands : List DemuxId)
  | handleJoinStateChanged (joinState : JoinState) (demuxId : Option DemuxId)
  | handleRemoteDevicesChanged (remoteDeviceStates : List AppRemoteDeviceState)
  | handleIncomingVideoTrack (remoteDemuxId : DemuxId) (videoTrack : Nat)
  | handlePeekChanged (peekInfo : PeekInfo)
  | handleEnded (reason : CallEndReason)
  | handleSpeakingNotification (event : SpeechEvent)
  | handleRemoteMuteRequest (muteSource : DemuxId)
  | handleObservedRemoteMute (muteSource muteTarget : DemuxId)

def handle (c : GroupCall) : Callback → Outcome
  | .requestMembershipProof => c.requestMembershipProof
  | .requestGroupMembers => c.requestGroupMembers
  | .handleConnectionStateChanged connectionState => c.handleConnectionStateChanged connectionState
  | .handleNetworkRouteChanged networkRoute => c.handleNetworkRouteChanged networkRoute
  | .handleAudioLevels capturedLevel receivedLevels => c.handleAudioLevels capturedLevel receivedLevels
  | .handleLowBandwidthForVideo recovered => c.handleLowBandwidthForVideo recovered
  | .handleReactions reactions => c.handleReactions reactions
  | .handleRaisedHands raisedHands => c.handleRaisedHands raisedHands
  | .handleJoinStateChanged joinState demuxId => c.handleJoinStateChanged joinState demuxId
  | .handleRemoteDevicesChanged remoteDeviceStates =>
    c.handleRemoteDevicesChanged (remoteDeviceStates.filterMap RemoteDeviceState.fromApp)
  | .handleIncomingVideoTrack remoteDemuxId videoTrack => c.handleIncomingVideoTrack remoteDemuxId videoTrack
  | .handlePeekChanged peekInfo => c.handlePeekChanged peekInfo
  | .handleEnded reason => c.handleEnded reason
  | .handleSpeakingNotification event => c.handleSpeakingNotification event
  | .handleRemoteMuteRequest muteSource => c.handleRemoteMuteRequest muteSource
  | .handleObservedRemoteMute muteSource muteTarget => c.handleObservedRemoteMute muteSource muteTarget

/-- All that happens to a call on the main actor. -/
inductive Op
  | perform (method : Method)
  | handle (callback : Callback)

def apply (c : GroupCall) : Op → Outcome
  | .perform method => c.perform method
  | .handle callback => c.handle callback

def step (c : GroupCall) (op : Op) : GroupCall := (c.apply op).call

/-- No method of the application touches what native code reports. -/
theorem perform_reported (c : GroupCall) (method : Method) :
    (c.perform method).call.localDeviceState = c.localDeviceState ∧
      (c.perform method).call.remoteDeviceStates = c.remoteDeviceStates ∧
      (c.perform method).call.peekInfo = c.peekInfo := by
  cases method with
  | connect media created =>
    simp only [perform, connect]
    split
    · exact ⟨rfl, rfl, rfl⟩
    · split <;> exact ⟨rfl, rfl, rfl⟩
  | join | leave | disconnect | request =>
    simp only [perform, join, leave, disconnect, request, withClient_call]
    split <;> exact ⟨rfl, rfl, rfl⟩
  | setOutgoingAudioMuted | setOutgoingVideoMuted | setOutgoingAudioRemotelyMuted => exact ⟨rfl, rfl, rfl⟩

end GroupCall

end SignalPods.RingRTC
