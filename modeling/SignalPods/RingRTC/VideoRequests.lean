import SignalPods.Machine.Reach
import SignalPods.Machine.History
import SignalPods.RingRTC.CallManagerVideo
import SignalPods.RingRTC.CameraPrivacy

namespace SignalPods.RingRTC

open Machine

/-- A call of `setLocalVideoEnabled` while the context is active, with what the
native request answers if it is made. -/
structure EnableCall where
  enabled : Bool
  succeeds : Bool
  deriving DecidableEq, Repr

/-- The lookups of `startCaptureSync` find a device and a format. -/
def VideoCaptureController.Finds (phone : Phone) (controller : VideoCaptureController) : Prop :=
  ∃ found, device phone (position controller.isUsingFrontCamera) = some found ∧ (format phone found).isSome

theorem VideoCaptureController.startCapture_isCapturing_iff (phone : Phone) (controller : VideoCaptureController) :
    (controller.startCapture phone).isCapturing = true ↔ controller.isCapturing = true ∨ controller.Finds phone := by
  unfold startCapture
  by_cases capturing : controller.isCapturing = true
  · simp [capturing]
  · rw [if_neg capturing]
    unfold startCaptureSync Finds
    cases device phone (position controller.isUsingFrontCamera) with
    | none => simp [capturing]
    | some camera => cases chosen : format phone camera <;> simp [chosen, capturing]

theorem VideoCaptureController.stopCapture_isCapturing (controller : VideoCaptureController) :
    controller.stopCapture.isCapturing = false := by
  unfold stopCapture
  split
  · rfl
  · rename_i idle
    simpa using idle

namespace LocalVideo

/-- The context as `proceed` makes it. -/
def start (media : FactoryMedia) (id : Nat) (controller : VideoCaptureController) : LocalVideo :=
  { context := CallContext.init media id, videoCaptureController := controller }

def step (phone : Phone) (m : LocalVideo) (call : EnableCall) : LocalVideo :=
  m.setLocalVideoEnabled phone true call.enabled call.succeeds

/-- The value last sent to native code with success; video is off before. -/
def inEffect (m : LocalVideo) : Bool :=
  (latest (fun request : Bool × Bool => if request.2 then some request.1 else none) m.videoEnable).getD false

/-- One call that can be made again when it fails. -/
structure Retryable (before : LocalVideo) (call : EnableCall) (after : LocalVideo) : Prop where
  track : after.context.videoTrack.isEnabled = after.context.currentVideoEnableSetting
  camera : after.videoCaptureController.isCapturing = after.context.currentVideoEnableSetting
  restored : after.videoEnable = before.videoEnable ++ [(call.enabled, false)] →
    after.context = before.context ∧ after.videoCaptureController.isCapturing = before.videoCaptureController.isCapturing
  again : before.inEffect ≠ call.enabled → after.videoEnable = before.videoEnable ++ [(call.enabled, call.succeeds)]
  sent : after.videoEnable = before.videoEnable ++ [(call.enabled, true)] ∨ before.inEffect = call.enabled →
    after.inEffect = after.context.videoTrack.isEnabled

/-- A call that finds its setting in force with the camera to match, or that
changes it with success, and finds the camera if it needs one. -/
def Smooth (phone : Phone) (before : LocalVideo) (call : EnableCall) : Prop :=
  if call.enabled = before.context.currentVideoEnableSetting then
    before.videoCaptureController.isCapturing = call.enabled
  else
    call.succeeds = true ∧
      (call.enabled = true →
        before.videoCaptureController.isCapturing = true ∨ before.videoCaptureController.Finds phone)

/-- Cache, track and native code have the same value. -/
structure InForce (m : LocalVideo) : Prop where
  track : m.context.videoTrack.isEnabled = m.context.currentVideoEnableSetting
  native : m.inEffect = m.context.currentVideoEnableSetting

variable {phone : Phone} {m : LocalVideo} {call : EnableCall}

/-- A call for the setting in force does nothing. -/
theorem step_same (same : call.enabled = m.context.currentVideoEnableSetting) : m.step phone call = m := by
  simp only [step, setLocalVideoEnabled, CallContext.setVideoEnabled, if_pos same, if_true]

/-- Any other call updates the components and makes the native request. -/
theorem step_changed (phone : Phone) (changed : call.enabled ≠ m.context.currentVideoEnableSetting) :
    (m.step phone call).context.currentVideoEnableSetting = call.enabled ∧
      (m.step phone call).context.videoTrack.isEnabled = call.enabled ∧
      (m.step phone call).videoCaptureController = m.videoCaptureController.setCameraEnabled phone call.enabled ∧
      (m.step phone call).videoEnable = m.videoEnable ++ [(call.enabled, call.succeeds)] := by
  simp only [step, setLocalVideoEnabled, CallContext.setVideoEnabled, if_neg changed, if_true]
  cases call.succeeds with
  | false => exact ⟨rfl, rfl, rfl, rfl⟩
  | true => exact ⟨rfl, rfl, rfl, rfl⟩

theorem inEffect_concat {before after : LocalVideo} {enabled : Bool}
    (requested : after.videoEnable = before.videoEnable ++ [(enabled, true)]) : after.inEffect = enabled := by
  unfold inEffect
  rw [requested, latest_concat]
  rfl

theorem camera_iff (controller : VideoCaptureController) (enabled : Bool) :
    (controller.setCameraEnabled phone enabled).isCapturing = enabled ↔
      (enabled = true → controller.isCapturing = true ∨ controller.Finds phone) := by
  unfold VideoCaptureController.setCameraEnabled
  cases enabled with
  | false => simp [controller.stopCapture_isCapturing]
  | true => simpa using controller.startCapture_isCapturing_iff phone

theorem InForce.step (inForce : InForce m) (smooth : Smooth phone m call) : InForce (m.step phone call) := by
  by_cases same : call.enabled = m.context.currentVideoEnableSetting
  · rw [step_same same]
    exact inForce
  · obtain ⟨setting, track, _, requested⟩ := step_changed phone same
    unfold Smooth at smooth
    rw [if_neg same] at smooth
    rw [smooth.1] at requested
    exact ⟨by rw [track, setting], by rw [inEffect_concat requested, setting]⟩

theorem retryable_iff_smooth (inForce : InForce m) : Retryable m call (m.step phone call) ↔ Smooth phone m call := by
  unfold Smooth
  by_cases same : call.enabled = m.context.currentVideoEnableSetting
  · rw [if_pos same, step_same same]
    constructor
    · intro retryable
      rw [retryable.camera, same]
    · intro camera
      refine ⟨inForce.track, by rw [camera, same], ?_, ?_, fun _ => by rw [inForce.native, inForce.track]⟩
      · intro requested
        have lengths := congrArg List.length requested
        simp at lengths
      · intro other
        exact absurd (inForce.native.trans same.symm) other
  · obtain ⟨setting, track, camera, requested⟩ := step_changed phone same
    rw [if_neg same, ← camera_iff, ← camera]
    constructor
    · intro retryable
      refine ⟨?_, by rw [retryable.camera, setting]⟩
      by_contra failed
      rw [Bool.not_eq_true] at failed
      rw [failed] at requested
      have restored := (retryable.restored requested).1
      rw [restored] at setting
      exact same setting.symm
    · rintro ⟨succeeded, capturing⟩
      rw [succeeded] at requested
      refine ⟨by rw [track, setting], by rw [capturing, setting], ?_, fun _ => by rw [requested, succeeded], fun _ => ?_⟩
      · intro failed
        rw [requested] at failed
        simp at failed
      · rw [inEffect_concat requested, track]

/-- Enabling video can be retried in exactly the runs in which nothing has to
be retried: the cache is written before the native request is made. -/
theorem video_retryable_iff_smooth (phone : Phone) (media : FactoryMedia) (id : Nat) (controller : VideoCaptureController)
    (calls : List EnableCall) :
    EachStep (step phone) (start media id controller) (fun _ before call => Retryable before call (before.step phone call))
        calls ↔
      EachStep (step phone) (start media id controller) (fun _ before call => Smooth phone before call) calls := by
  refine eachStep_iff_eachStep (fun _ m => InForce m) ⟨rfl, rfl⟩ ?_ ?_ calls
  · intro _ _ _ inForce smooth
    exact inForce.step smooth
  · intro _ _ _ inForce
    exact retryable_iff_smooth inForce

/-- The native request fails once, and is not made when the call is repeated. -/
theorem failed_enable_is_not_retried :
    ¬ EachStep (step VideoCaptureController.twoCameraPhone) (start ⟨1, 2, 3⟩ 0 {})
      (fun _ before call => Retryable before call (before.step VideoCaptureController.twoCameraPhone call))
        [⟨true, false⟩, ⟨true, true⟩] := by
  intro retryable
  have repeated := retryable [⟨true, false⟩] ⟨true, true⟩ List.prefix_rfl
  have requested := repeated.again (by decide)
  exact absurd requested (by decide)

end LocalVideo

end SignalPods.RingRTC
