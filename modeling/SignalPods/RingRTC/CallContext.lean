namespace SignalPods.RingRTC

/-- An `RTCMediaStreamTrack`: which object it is, and whether it sends. -/
structure Track where
  object : Nat
  isEnabled : Bool
  deriving DecidableEq, Repr

/-- The objects an `RTCPeerConnectionFactory` makes for one call. -/
structure FactoryMedia where
  audioTrack : Nat
  videoSource : Nat
  videoTrack : Nat
  deriving DecidableEq, Repr

structure CallContext where
  audioTrack : Track
  videoTrack : Track
  /-- Which `VideoCaptureController` the context was made with. -/
  videoCaptureController : Nat
  currentVideoEnableSetting : Bool
  deriving DecidableEq, Repr

namespace CallContext

/-- `proceed` makes both tracks disabled and assumes that video starts out so. -/
def init (media : FactoryMedia) (videoCaptureController : Nat) : CallContext where
  audioTrack := ⟨media.audioTrack, false⟩
  videoTrack := ⟨media.videoTrack, false⟩
  videoCaptureController := videoCaptureController
  currentVideoEnableSetting := false

def setAudioEnabled (c : CallContext) (enabled : Bool) : CallContext :=
  { c with audioTrack := { c.audioTrack with isEnabled := enabled } }

/-- Whether the setting changed, with the context after it. -/
def setVideoEnabled (c : CallContext) (enabled : Bool) : Bool × CallContext :=
  if enabled = c.currentVideoEnableSetting then (false, c)
  else (true, { c with
    videoTrack := { c.videoTrack with isEnabled := enabled }
    currentVideoEnableSetting := enabled })

end CallContext

end SignalPods.RingRTC
