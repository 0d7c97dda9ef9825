import SignalPods.RingRTC.CallContext

namespace SignalPods.RingRTC

abbrev ClientId := UInt32
abbrev DemuxId := UInt32
abbrev UUID := BitVec 128
abbrev Data := List UInt8

inductive ConnectionState
  | notConnected | connecting | connected | reconnecting
  deriving DecidableEq, Repr

inductive JoinState
  | notJoined | joining | pending | joined
  deriving DecidableEq, Repr

inductive NetworkAdapterType
  | unknown | ethernet | wifi | cellular | vpn | loopback | anyAddress
  | cellular2G | cellular3G | cellular4G | cellular5G
  deriving DecidableEq, Repr

structure NetworkRoute where
  localAdapterType : NetworkAdapterType
  deriving DecidableEq, Repr

inductive SpeechEvent
  | stoppedSpeaking | lowerHandSuggestion
  deriving DecidableEq, Repr

inductive CallEndReason
  | localHangup | remoteHangup | remoteHangupNeedPermission | remoteHangupAccepted | remoteHangupDeclined
  | remoteHangupBusy | remoteBusy | remoteGlare | remoteReCall | timeout | internalFailure | signalingFailure
  | connectionFailure | appDroppedCall | deviceExplicitlyDisconnected | serverExplicitlyDisconnected
  | deniedRequestToJoinCall | removedFromCall | callManagerIsBusy | sfuClientFailedToJoin
  | failedToCreatePeerConnectionFactory | failedToNegotiateSrtpKeys | failedToCreatePeerConnection
  | failedToStartPeerConnection | failedToUpdatePeerConnection | failedToSetMaxSendBitrate
  | iceFailedWhileConnecting | iceFailedAfterConnected | serverChangedDemuxId | hasMaxDevices
  deriving DecidableEq, Repr

structure LocalDeviceState where
  connectionState : ConnectionState := .notConnected
  networkRoute : NetworkRoute := ⟨.unknown⟩
  joinState : JoinState := .notJoined
  audioLevel : UInt16 := 0
  demuxId : Option DemuxId := none
  deriving DecidableEq, Repr

structure ReceivedAudioLevel where
  demuxId : DemuxId
  audioLevel : UInt16
  deriving DecidableEq, Repr

structure Reaction where
  demuxId : DemuxId
  value : String
  deriving DecidableEq, Repr

/-- What native code reports of one remote device. -/
structure AppRemoteDeviceState where
  demuxId : DemuxId
  userId : Option UUID
  mediaKeysReceived : Bool
  audioMuted : Option Bool
  videoMuted : Option Bool
  presenting : Option Bool
  sharingScreen : Option Bool
  addedTime : UInt64
  speakerTime : UInt64
  forwardingVideo : Option Bool
  isHigherResolutionPending : Bool
  deriving DecidableEq, Repr

structure RemoteDeviceState where
  demuxId : DemuxId
  userId : UUID
  mediaKeysReceived : Bool
  audioMuted : Option Bool := none
  videoMuted : Option Bool := none
  presenting : Option Bool := none
  sharingScreen : Option Bool := none
  addedTime : UInt64
  speakerTime : UInt64
  forwardingVideo : Option Bool := none
  isHigherResolutionPending : Bool
  audioLevel : UInt16 := 0
  /-- The `RTCVideoTrack` object, once one was delivered. -/
  videoTrack : Option Nat := none
  deriving DecidableEq, Repr

/-- A report without a usable user id is skipped; any other becomes an object
that has no track yet and the level it was made with. -/
def RemoteDeviceState.fromApp (device : AppRemoteDeviceState) : Option RemoteDeviceState :=
  device.userId.map fun userId =>
    { demuxId := device.demuxId
      userId
      mediaKeysReceived := device.mediaKeysReceived
      audioMuted := device.audioMuted
      videoMuted := device.videoMuted
      presenting := device.presenting
      sharingScreen := device.sharingScreen
      addedTime := device.addedTime
      speakerTime := device.speakerTime
      forwardingVideo := device.forwardingVideo
      isHigherResolutionPending := device.isHigherResolutionPending }

structure PeekInfo where
  joinedMembers : List UUID
  creator : Option UUID
  eraId : Option String
  maxDevices : Option UInt32
  deviceCountIncludingPendingDevices : UInt32
  deviceCountExcludingPendingDevices : UInt32
  pendingUsers : List UUID
  deriving DecidableEq, Repr

structure SvcConfig where
  mode : String
  modeForScreenshare : String
  maxBitrateBps : Option UInt32
  deriving DecidableEq, Repr

inductive ConnectInfo
  | groupId (groupId : Data)
  | callLink (authCredentialPresentation rootKey : Data) (adminPasskey : Option Data)
  deriving DecidableEq, Repr

inductive DataMode
  | low | normal
  deriving DecidableEq, Repr

structure VideoRequest where
  demuxId : DemuxId
  width : UInt16
  height : UInt16
  framerate : Option UInt16
  deriving DecidableEq, Repr

structure GroupMember where
  userId : UUID
  userIdCipherText : Data
  deriving DecidableEq, Repr

/-- The methods that only pass their arguments on to native code. -/
inductive Request
  | react (value : String)
  | raiseHand (raise : Bool)
  | sendRemoteMuteRequest (target : DemuxId)
  | ringAll
  | resendMediaKeys
  | updateDataMode (dataMode : DataMode)
  | updateVideoRequests (resolutions : List VideoRequest) (activeSpeakerHeight : UInt16)
  | approveUser (userId : UUID)
  | denyUser (userId : UUID)
  | removeClient (demuxId : DemuxId)
  | blockClient (demuxId : DemuxId)
  | updateGroupMembers (members : List GroupMember)
  | updateMembershipProof (proof : Data)
  deriving DecidableEq, Repr

/-- The arguments both `ringrtcCreate...Client` functions take. -/
structure ClientArguments where
  sfuUrl : String
  hkdfExtraInfo : Data
  audioLevelsIntervalMillis : UInt64
  dredDuration : UInt8
  svcConfig : Option SvcConfig
  audioTrack : Nat
  videoTrack : Nat
  deriving DecidableEq, Repr

/-- Calls into native code. The two that create a client carry its answer. -/
inductive NativeCall
  | createGroupCallClient (groupId : Data) (arguments : ClientArguments) (clientId : ClientId)
  | createCallLinkCallClient (endorsementPublicKey : Option Data) (authCredentialPresentation rootKey : Data)
      (adminPasskey : Option Data) (arguments : ClientArguments) (clientId : ClientId)
  | deleteGroupCallClient (clientId : ClientId)
  | setOutgoingAudioMuted (clientId : ClientId) (muted : Bool)
  | setOutgoingVideoMuted (clientId : ClientId) (muted : Bool)
  | setOutgoingAudioMutedRemotely (clientId : ClientId) (source : DemuxId)
  | connect (clientId : ClientId)
  | join (clientId : ClientId)
  | leave (clientId : ClientId)
  | disconnect (clientId : ClientId)
  | request (clientId : ClientId) (request : Request)
  deriving DecidableEq, Repr

/-- Notifications to the call's delegate. -/
inductive DelegateCall
  | requestMembershipProof
  | requestGroupMembers
  | onLocalDeviceStateChanged
  | onRemoteDeviceStatesChanged
  | onAudioLevels
  | onLowBandwidthForVideo (recovered : Bool)
  | onReactions (reactions : List Reaction)
  | onRaisedHands (raisedHands : List DemuxId)
  | onPeekChanged
  | onEnded (reason : CallEndReason)
  | onSpeakingNotification (event : SpeechEvent)
  | onRemoteMuteRequest (muteSource : DemuxId)
  | onObservedRemoteMute (muteSource muteTarget : DemuxId)
  deriving DecidableEq, Repr

end SignalPods.RingRTC
