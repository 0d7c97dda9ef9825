import SignalPods.RingRTC.VideoCaptureController

namespace SignalPods.RingRTC.VideoCaptureController
open Machine

/-- What a call asks of the camera: to run, or to stop. -/
def Call.capture? : Call → Option Bool
  | .startCapture => some true
  | .stopCapture => some false
  | .switchCamera _ => none

def Call.camera? : Call → Option Bool
  | .switchCamera isUsingFrontCamera => some isUsingFrontCamera
  | _ => none

/-- The most recent start or stop was a start. -/
def captureRequested (calls : List Call) : Bool := (latest Call.capture? calls).getD false

/-- The camera of the last switch, at first the front one. -/
def selectedCamera (calls : List Call) : Bool := (latest Call.camera? calls).getD true

/-- Both positions lead to a device, and that device has a usable format. -/
def LookupsSucceed (phone : Phone) : Prop :=
  ∀ isUsingFrontCamera, ∃ found chosen,
    device phone (position isUsingFrontCamera) = some found ∧ format phone found = some chosen

/-- No stop was forwarded while nothing was running. -/
def StopsRunning (capturer : List CapturerCall) : Prop :=
  ∀ past rest, capturer = past ++ .stopCapture :: rest → (runningDevice past).isSome

/-- What the user is promised after these calls. -/
structure CameraPrivacy (phone : Phone) (calls : List Call) (c : VideoCaptureController) : Prop where
  running : (runningDevice c.capturer).isSome = captureRequested calls
  stops : StopsRunning c.capturer
  selected : ∀ found, runningDevice c.capturer = some found →
    device phone (position (selectedCamera calls)) = some found

/-- The controller knows what its capturer does, whatever it was asked. -/
structure Consistent (phone : Phone) (calls : List Call) (c : VideoCaptureController) : Prop where
  camera : c.isUsingFrontCamera = selectedCamera calls
  capturing : runningDevice c.capturer =
    if c.isCapturing then device phone (position c.isUsingFrontCamera) else none
  stops : StopsRunning c.capturer

theorem StopsRunning.concat {capturer : List CapturerCall} (stops : StopsRunning capturer) {call : CapturerCall}
    (running : call = .stopCapture → (runningDevice capturer).isSome) : StopsRunning (capturer ++ [call]) := by
  intro past rest split
  rcases concat_eq_split_iff.mp split with ⟨-, rfl, same⟩ | ⟨before, -, inside⟩
  · exact running same.symm
  · exact stops past before inside

/-- When the lookups succeed the start routine always starts, with the camera
in force, and does not look at `isCapturing`. -/
theorem startCaptureSync_eq {phone : Phone} (lookups : LookupsSucceed phone) (c : VideoCaptureController) :
    ∃ found chosen, device phone (position c.isUsingFrontCamera) = some found ∧
      c.startCaptureSync phone =
        { c with
          capturer := c.capturer ++ [.startCapture found chosen maxCaptureFrameRate]
          isCapturing := true } := by
  obtain ⟨found, chosen, atDevice, atFormat⟩ := lookups c.isUsingFrontCamera
  exact ⟨found, chosen, atDevice, by simp only [startCaptureSync, atDevice, atFormat]⟩

theorem Consistent.startSync {phone : Phone} (lookups : LookupsSucceed phone) {calls : List Call}
    {c : VideoCaptureController} (camera : c.isUsingFrontCamera = selectedCamera calls)
    (stops : StopsRunning c.capturer) :
    Consistent phone calls (c.startCaptureSync phone) ∧ (c.startCaptureSync phone).isCapturing = true := by
  obtain ⟨found, chosen, atDevice, started⟩ := startCaptureSync_eq lookups c
  have running : runningDevice (c.capturer ++ [.startCapture found chosen maxCaptureFrameRate]) =
      if true then device phone (position c.isUsingFrontCamera) else none := by
    rw [runningDevice_start, atDevice, if_pos rfl]
  rw [started]
  exact ⟨⟨camera, running, stops.concat (by simp)⟩, rfl⟩

theorem Consistent.running {phone : Phone} (lookups : LookupsSucceed phone) {calls : List Call}
    {c : VideoCaptureController} (known : Consistent phone calls c) :
    (runningDevice c.capturer).isSome = c.isCapturing := by
  obtain ⟨found, -, atDevice, -⟩ := lookups c.isUsingFrontCamera
  cases capturing : c.isCapturing <;> simp [known.capturing, capturing, atDevice]

theorem Consistent.privacy {phone : Phone} (lookups : LookupsSucceed phone) {calls : List Call}
    {c : VideoCaptureController} (known : Consistent phone calls c) :
    CameraPrivacy phone calls c ↔ c.isCapturing = captureRequested calls := by
  constructor
  · intro privacy
    rw [← known.running lookups, privacy.running]
  · intro asked
    refine ⟨by rw [known.running lookups, asked], known.stops, ?_⟩
    intro found running
    rw [known.capturing] at running
    split at running
    · rw [← known.camera, running]
    · simp at running

theorem Consistent.step {phone : Phone} (lookups : LookupsSucceed phone) {calls : List Call}
    {c : VideoCaptureController} (known : Consistent phone calls c) (call : Call) :
    Consistent phone (calls ++ [call]) (c.step phone call) := by
  cases call with
  | startCapture =>
    have camera : c.isUsingFrontCamera = selectedCamera (calls ++ [.startCapture]) := by
      simpa [selectedCamera, Call.camera?] using known.camera
    simp only [VideoCaptureController.step, startCapture]
    split
    · exact ⟨camera, known.capturing, known.stops⟩
    · exact (Consistent.startSync lookups camera known.stops).1
  | stopCapture =>
    have camera : c.isUsingFrontCamera = selectedCamera (calls ++ [.stopCapture]) := by
      simpa [selectedCamera, Call.camera?] using known.camera
    simp only [VideoCaptureController.step, stopCapture]
    split
    · rename_i capturing
      have running : (runningDevice c.capturer).isSome := (known.running lookups).trans capturing
      exact ⟨camera, by simp, known.stops.concat fun _ => running⟩
    · exact ⟨camera, known.capturing, known.stops⟩
  | switchCamera isUsingFrontCamera =>
    have camera : isUsingFrontCamera = selectedCamera (calls ++ [.switchCamera isUsingFrontCamera]) := by
      simp [selectedCamera, Call.camera?]
    simp only [VideoCaptureController.step, switchCamera]
    split
    · exact (Consistent.startSync (c := { c with isUsingFrontCamera }) lookups camera known.stops).1
    · rename_i same
      exact ⟨(not_not.mp same).trans camera, known.capturing, known.stops⟩

/-- A switch to the other camera finds the controller capturing. -/
def SwitchesWhileCapturing (_calls : List Call) (c : VideoCaptureController) (call : Call) : Prop :=
  ∀ isUsingFrontCamera, call = .switchCamera isUsingFrontCamera →
    c.isUsingFrontCamera ≠ isUsingFrontCamera → c.isCapturing = true

/-- One call keeps `isCapturing` in line with what was asked exactly when it
does not switch cameras behind a camera that is off. -/
theorem step_isCapturing_iff {phone : Phone} (lookups : LookupsSucceed phone) {calls : List Call}
    {c : VideoCaptureController} (known : Consistent phone calls c)
    (asked : c.isCapturing = captureRequested calls) (call : Call) :
    (c.step phone call).isCapturing = captureRequested (calls ++ [call]) ↔
      SwitchesWhileCapturing calls c call := by
  cases call with
  | startCapture =>
    have requested : captureRequested (calls ++ [.startCapture]) = true := by
      simp [captureRequested, Call.capture?]
    have started : (c.startCapture phone).isCapturing = true := by
      unfold startCapture
      split
      · assumption
      · exact (Consistent.startSync lookups known.camera known.stops).2
    simp [VideoCaptureController.step, SwitchesWhileCapturing, requested, started]
  | stopCapture =>
    have requested : captureRequested (calls ++ [.stopCapture]) = false := by
      simp [captureRequested, Call.capture?]
    have stopped : c.stopCapture.isCapturing = false := by
      unfold stopCapture
      split <;> simp_all
    simp [VideoCaptureController.step, SwitchesWhileCapturing, requested, stopped]
  | switchCamera isUsingFrontCamera =>
    have requested : captureRequested (calls ++ [.switchCamera isUsingFrontCamera]) = c.isCapturing := by
      simp [captureRequested, Call.capture?, asked]
    have camera : isUsingFrontCamera = selectedCamera (calls ++ [.switchCamera isUsingFrontCamera]) := by
      simp [selectedCamera, Call.camera?]
    by_cases same : c.isUsingFrontCamera = isUsingFrontCamera
    · simp [VideoCaptureController.step, switchCamera, SwitchesWhileCapturing, requested, same]
    · -- the start routine runs here whether or not the camera was on
      have started := (Consistent.startSync (c := { c with isUsingFrontCamera }) lookups camera known.stops).2
      rw [requested]
      simp only [VideoCaptureController.step, switchCamera, ne_eq, same, not_false_eq_true, if_true, started]
      exact ⟨fun on _ _ _ => on.symm, fun allowed => (allowed _ rfl same).symm⟩

theorem run_consistent {phone : Phone} (lookups : LookupsSucceed phone) (calls : List Call) :
    Consistent phone calls (run phone calls) :=
  foldl_invariant (step phone) (Consistent phone) ⟨rfl, rfl, by intro past rest split; simp at split⟩
    (fun _ _ call known => known.step lookups call) calls

/-- The camera runs exactly when the user asked for it, at every point of a
run, exactly when no switch to the other camera finds it off. -/
theorem cameraPrivacy_iff_switchesWhileCapturing (phone : Phone) (lookups : LookupsSucceed phone)
    (calls : List Call) :
    Throughout (step phone) {} (CameraPrivacy phone) calls ↔
      EachStep (step phone) {} SwitchesWhileCapturing calls := by
  refine throughout_iff_eachStep
    (fun calls c => Consistent phone calls c ∧ c.isCapturing = captureRequested calls)
    ⟨run_consistent lookups [], rfl⟩ ?_ ?_ ?_ calls
  · rintro calls c ⟨known, asked⟩
    exact (known.privacy lookups).mpr asked
  · rintro calls c call ⟨known, asked⟩ allowed
    exact ⟨known.step lookups call, (step_isCapturing_iff lookups known asked call).mpr allowed⟩
  · rintro calls c call ⟨known, asked⟩ refused privacy
    have after := ((known.step lookups call).privacy lookups).mp privacy
    exact refused ((step_isCapturing_iff lookups known asked call).mp after)

/-- A phone with one camera on each side, for concrete runs. -/
def twoCameraPhone : Phone :=
  let wide : CaptureFormat := ⟨1280, 720, [(1, 30)]⟩
  ⟨[⟨"front", .front, [wide]⟩, ⟨"back", .back, [wide]⟩], 720, 1280⟩

theorem twoCameraPhone_lookups : LookupsSucceed twoCameraPhone := by
  intro isUsingFrontCamera
  cases isUsingFrontCamera with
  | false => exact ⟨⟨"back", .back, _⟩, _, rfl, rfl⟩
  | true => exact ⟨⟨"front", .front, _⟩, _, rfl, rfl⟩

theorem cameraPrivacy_iff_twoCameraPhone :
    Throughout (step twoCameraPhone) {} (CameraPrivacy twoCameraPhone)
        [.startCapture, .switchCamera false, .stopCapture] ↔
      EachStep (step twoCameraPhone) {} SwitchesWhileCapturing
        [.startCapture, .switchCamera false, .stopCapture] :=
  cameraPrivacy_iff_switchesWhileCapturing twoCameraPhone twoCameraPhone_lookups _

/-- Selecting the back camera before any start turns that camera on. -/
theorem switchCamera_turns_camera_on :
    LookupsSucceed twoCameraPhone ∧
      (runningDevice (run twoCameraPhone [.switchCamera false]).capturer).map (·.position) = some .back ∧
      ¬ CameraPrivacy twoCameraPhone [.switchCamera false] (run twoCameraPhone [.switchCamera false]) := by
  exact ⟨twoCameraPhone_lookups, rfl, fun privacy => absurd privacy.running (by decide)⟩

end SignalPods.RingRTC.VideoCaptureController
