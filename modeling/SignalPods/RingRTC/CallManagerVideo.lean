import SignalPods.RingRTC.CallContext
import SignalPods.RingRTC.VideoCaptureController

namespace SignalPods.RingRTC

/-- `CallContext.setCameraEnabled`, on the controller of the context. -/
def VideoCaptureController.setCameraEnabled (phone : Phone) (controller : VideoCaptureController) (enabled : Bool) :
    VideoCaptureController :=
  if enabled then controller.startCapture phone else controller.stopCapture

/-- The manager as far as the video of one call context goes. -/
structure LocalVideo where
  context : CallContext
  videoCaptureController : VideoCaptureController
  /-- The arguments of `ringrtcSetVideoEnable`, and whether it answered other
  than nil, oldest first. -/
  videoEnable : List (Bool × Bool) := []
  /-- The tasks left for `onUpdateLocalVideoSession`, by whether they show a
  session. -/
  updates : List Bool := []
  failDebug : List String := []
  deriving DecidableEq, Repr

namespace LocalVideo

/-- `active` is whether there is an active context, and `succeeds` what the
native request answers if it is made. -/
def setLocalVideoEnabled (phone : Phone) (m : LocalVideo) (active enabled succeeds : Bool) : LocalVideo :=
  if active then
    match m.context.setVideoEnabled enabled with
    | (false, _) => m
    | (true, context) =>
      let updated :=
        { m with
          context := context
          videoCaptureController := m.videoCaptureController.setCameraEnabled phone enabled
          videoEnable := m.videoEnable ++ [(enabled, succeeds)] }
      if succeeds then { updated with updates := m.updates ++ [enabled] }
      else { updated with failDebug := m.failDebug ++ ["ringrtcSetVideoEnable() function failure"] }
  else if enabled then { m with failDebug := m.failDebug ++ ["Can't enable video on non-existent context"] }
  else m

end LocalVideo

end SignalPods.RingRTC
